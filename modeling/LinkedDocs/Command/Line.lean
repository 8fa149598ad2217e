import LinkedDocs.Command.Arguments
import LinkedDocs.Graph.Dump
import LinkedDocs.Json
import LinkedDocs.Storage
import LinkedDocs.Summary
import LinkedDocs.Yaml.Printer

/-!
# The command line

One command transforms a graph file, the other converts a single text. `Request.read` says what is
asked for and `Request.run` does it, given what is found at the paths of the request. A run is pure:
its `Plan` says what is to be written and printed.
-/

namespace LinkedDocs.Command

/-- What goes to standard output. -/
inductive Printed where
  | text (t : Text)
  /-- A summary in JSON. -/
  | summary (json : Text)
  /-- A graph in YAML. -/
  | graph (yaml : Text)

def Printed.toText : Printed → Text
  | .text t => t
  | .summary json => json
  | .graph yaml => yaml

/-- What a run prints, and the code with which it ends. -/
structure Outcome where
  exitCode : Nat := 0
  printed : Printed := .text []
  /-- What goes to standard error, each on lines of its own. -/
  notices : List Text := []

/-- How a run ends. -/
inductive Ending where
  /-- The request cannot be met as it stands. -/
  | misused
  | finished (outcome : Outcome)
  | broken (fault : Fault)
  /-- The run goes on for ever. -/
  | never

namespace Ending

def ofNoResult : NoResult → Ending
  | .fault fault => .broken fault
  | .endless => .never

def ofExcept : Except NoResult Outcome → Ending
  | .ok outcome => .finished outcome
  | .error cause => .ofNoResult cause

/-- The end of a run that has nothing to say but what is wrong. -/
def failure (exitCode : Nat) (log : List Text) (message : Text) : Ending :=
  .finished {
    exitCode
    notices := log ++ [Screen.dropEscapes ("Error: ".toList ++ message)] }

/-- The end of a run with bad arguments. -/
def ofMisuse : Misuse → Ending
  | .usage => .misused
  | .valueMissing option =>
    failure 2 [] ("Option ".toList ++ option.quoted ++ " requires an argument.".toList)
  | .valueUnwanted option =>
    failure 2 [] ("Option ".toList ++ option.quoted ++ " does not take a value.".toList)

end Ending

/-- A file to write, its path first, and how the run ends once it is written. -/
structure Plan where
  written : Option (Text × Text) := none
  ending : Ending

/-- Carries out what a plan writes. A file that cannot be written breaks the run. -/
def Plan.carryOut (plan : Plan) (s : Storage) : Ending × Storage :=
  match plan.written with
  | none => (plan.ending, s)
  | some (path, t) =>
    match s.write path (String.ofList t).toUTF8.toList with
    | .ok s => (plan.ending, s)
    | .error flaw => (.broken (.badPath flaw path), s)

/-- A graph file to transform. -/
structure TransformOptions where
  graphPath : Text
  configPath : Option Text := none
  outputPath : Option Text := none
  /-- Whether no placeholder is made for a type that is not in the graph. -/
  noPlaceholders : Bool := false
  /-- Whether the summary is printed for other programs. -/
  asJson : Bool := false

/-- A text to convert. -/
structure ConvertOptions where
  /-- The text, if it does not come from standard input. -/
  text : Option Text := none
  codeLanguage : Option Text := none

/-- What the program is asked for. -/
inductive Request where
  | version
  | help
  | transform (verbose : Bool) (options : TransformOptions)
  | convert (verbose : Bool) (options : ConvertOptions)

def helpForm : OptionForm := { name := "help".toList }

/-- The options before the command. -/
def generalForms : List OptionForm :=
  [{ name := "version".toList }, { name := "verbose".toList, letter := some 'v' }, helpForm]

def transformForms : List OptionForm :=
  [{ name := "config".toList, hasValue := true },
    { name := "output".toList, letter := some 'o', hasValue := true },
    { name := "no-external-types".toList }, { name := "json".toList }, helpForm]

def convertForms : List OptionForm :=
  [{ name := "language".toList, hasValue := true }, helpForm]

namespace Request

/-- The arguments, sorted. -/
def sorted (forms : List OptionForm) (optionsFirst : Bool) (args : List Text) :
    Except Ending Arguments :=
  (Arguments.read forms optionsFirst args).mapError Ending.ofMisuse

/-- Checks a path that was given: it must not name a directory, and where it is to be read, there must
be a file. -/
def checkPath (files : Text → File) (isRead : Bool) (path : Text) : Except Ending Unit :=
  if path.contains '\x00' then .error (.broken .nullInPath)
  else
    match files path with
    | .content _ => .ok ()
    | .directory => .error .misused
    | .missing _ => if isRead then .error .misused else .ok ()

/-- Checks the paths among the options, in the order in which they were given. -/
def checkOptions (files : Text → File) (a : Arguments) : Except Ending Unit :=
  a.names.forM fun name =>
    if name = "config".toList then (a.value? "config").toList.forM (checkPath files true)
    else if name = "output".toList then (a.value? "output").toList.forM (checkPath files false)
    else .ok ()

/-- The request to transform a graph file. -/
def readTransform (files : Text → File) (verbose : Bool) (args : List Text) :
    Except Ending Request := do
  let a ← sorted transformForms false args
  if a.has "help" then return .help
  else
    checkOptions files a
    match a.positional with
    | [] => .error .misused
    | graphPath :: more =>
      checkPath files true graphPath
      if more.isEmpty then
        return .transform verbose {
          graphPath
          configPath := a.value? "config"
          outputPath := a.value? "output"
          noPlaceholders := a.has "no-external-types"
          asJson := a.has "json" }
      else .error .misused

/-- The request to convert a text. -/
def readConvert (verbose : Bool) (args : List Text) : Except Ending Request := do
  let a ← sorted convertForms false args
  let codeLanguage := a.value? "language"
  if a.has "help" then return .help
  else
    match a.positional with
    | [] => return .convert verbose { codeLanguage }
    | [text] => return .convert verbose { text := some text, codeLanguage }
    | _ => .error .misused

/-- What the arguments ask for, given what is found at paths. -/
def read (files : Text → File) (args : List Text) : Except Ending Request := do
  let a ← sorted generalForms true args
  let verbose := a.has "verbose"
  match a.options.find? fun o => o.name ≠ "verbose".toList with
  | some o => return if o.name = "version".toList then .version else .help
  | none =>
    match a.positional with
    | [] => .error .misused
    | command :: args =>
      if command = "transform".toList then readTransform files verbose args
      else if command = "rewrite".toList then readConvert verbose args
      else .error .misused

/-- The paths among the arguments, each also without parts that stay in place. -/
def pathsIn (args : List Text) : List Text :=
  match Arguments.read generalForms true args with
  | .ok a =>
    match Arguments.read transformForms false (a.positional.drop 1) with
    | .ok a =>
      let given := a.positional ++ (a.value? "config").toList ++ (a.value? "output").toList
      given ++ given.map File.normalPath
    | .error _ => []
  | .error _ => []

/-- Whether a request needs standard input. -/
def readsInput : Request → Bool
  | .convert _ o => o.text.isNone
  | _ => false

end Request

/-- The log lines that are shown. -/
def shownLines (verbose : Bool) (log : List Log.Line) : List Text :=
  (log.filter (·.isShown verbose)).map (·.text)

/-- Whether a fault is reported as bad input; any other one breaks the run. -/
def isInputFault (fault : Fault) : Bool :=
  fault.label = "ConfigError".toList || fault.label = "GraphLoadError".toList

/-- The end of a run whose input is bad. -/
def inputFailure (verbose : Bool) (log : List Log.Line) (fault : Fault) : Plan :=
  { ending :=
      if isInputFault fault then .failure 1 (shownLines verbose log) fault.message
      else .broken fault }

/-- The text as it is, if standard output can take it. -/
def encodable (t : Text) : Except Fault Text :=
  match Text.firstHalves? 0 t with
  | some (c, first, last) => .error (.unencodable c first last)
  | none => .ok t

namespace TransformOptions

/-- The settings that hold for the run. -/
def settings (o : TransformOptions) (config : Config) : Config :=
  if o.noPlaceholders then { config with createPlaceholders := false } else config

/-- The lines for people after a run. -/
def closingLines (o : TransformOptions) (report : Report) : Except Fault (List Text) := do
  let lines ← report.lines
  match o.outputPath with
  | none => return lines
  | some path =>
    return lines ++ (← Report.styledLines ("Wrote ".toList ++ File.normalPath path))

/-- What is printed after a run, which has shown some log lines and has the graph in YAML. -/
def closing (o : TransformOptions) (report : Report) (log : List Text) (yaml : Text) :
    Except Fault Outcome := do
  let exitCode := if report.isOk then 0 else 2
  if o.asJson then
    let json ← encodable ((← Json.render report.summary) ++ ['\n'])
    return { exitCode, printed := .summary json, notices := log }
  else
    let lines ← o.closingLines report
    let printed := if o.outputPath.isSome then .text [] else .graph (yaml ++ ['\n'])
    return { exitCode, printed, notices := log ++ lines }

/-- The graph in YAML, the report, and the lines for the log, once a graph has been transformed. -/
def transformed (outcome : Transform.Outcome) : Except Fault (Text × Report × List Log.Line) := do
  let (report, trace) ← outcome.result
  let dump ← outcome.graph.dump
  if dump.isShowable then return (Yaml.Printer.render dump, report, trace.logLines report)
  else .error .unshowableInteger

/-- Transforms a graph. The work on an entity counts as over when its result is asked for. -/
def transform (verbose : Bool) (o : TransformOptions) (log : List Log.Line) (config : Config)
    (g : Graph) : Plan :=
  match Transform.run (fun _ => .over) (o.settings config) g with
  | none => { ending := .never }
  | some outcome =>
    match transformed outcome with
    | .error fault => { ending := .broken fault }
    | .ok (yaml, report, more) =>
      let closing := o.closing report (shownLines verbose (log ++ more)) yaml
      { written := o.outputPath.map fun path => (File.normalPath path, yaml)
        ending := .ofExcept (closing.mapError .fault) }

/-- The settings that the run starts from. -/
def loadConfig (o : TransformOptions) (files : Text → File) : Loaded Config :=
  match o.configPath with
  | none => ⟨.ok {}, []⟩
  | some path => Config.ofFile (File.normalPath path) (files (File.normalPath path))

/-- Runs the command. -/
def run (verbose : Bool) (o : TransformOptions) (files : Text → File) : Plan :=
  let config := o.loadConfig files
  match config.result with
  | .error fault => inputFailure verbose config.log fault
  | .ok settings =>
    let path := File.normalPath o.graphPath
    let graph := Graph.ofFile Yaml.Document.ofText path (files path)
    let log := config.log ++ graph.log
    match graph.result with
    | .error fault => inputFailure verbose log fault
    | .ok g => o.transform verbose log settings g

end TransformOptions

namespace ConvertOptions

/-- The settings that hold for the run. An empty language is none. -/
def settings (o : ConvertOptions) : Config :=
  match o.codeLanguage with
  | some (c :: cs) => { codeLanguage := c :: cs }
  | _ => {}

/-- Runs the command. -/
def run (verbose : Bool) (o : ConvertOptions) (input : Text) : Plan :=
  let text := o.text.getD (Text.unifyLineEnds input)
  let rendering := Markup.render ⟨{}, o.settings⟩ text
  { ending := .ofExcept (rendering.text.map fun t => {
      printed := .text (Screen.dropEscapes (t ++ ['\n']))
      notices := shownLines verbose
        ((Revision.missingIn rendering.resolutions).map Transform.missingLine) }) }

end ConvertOptions

/-- What is printed on request. -/
def helpText : Text :=
  ("Usage: docweave [--version] [-v] transform GRAPH_FILE [--config FILE] [-o FILE]\n" ++
    "                [--no-external-types] [--json]\n" ++
    "       docweave [--version] [-v] rewrite [TEXT] [--language NAME]\n").toList

/-- Meets a request, given what is found at its paths and on standard input. -/
def Request.run (files : Text → File) (input : Text) : Request → Plan
  | .version => { ending := .finished { printed := .text "docweave, version 0.1.0\n".toList } }
  | .help => { ending := .finished { printed := .text helpText } }
  | .transform verbose o => o.run verbose files
  | .convert verbose o => o.run verbose input

/-- Does what the arguments ask for. -/
def run (files : Text → File) (input : Text) (args : List Text) : Plan :=
  match Request.read files args with
  | .ok request => request.run files input
  | .error ending => { ending }

end LinkedDocs.Command
