import LinkedDocs.Record
import LinkedDocs.Number.Numeral

/-!
# Configuration

The settings of a run: how links are laid out, what is documented elsewhere, and how entities are
worked on. Settings are read from a map; keys that are no settings are passed over, values are
brought to the type of their setting, and the result is checked.
-/

namespace LinkedDocs

/-- How pages are laid out: one file for each page, or a folder for each namespace. -/
inductive PageLayout where
  | file | folder
deriving DecidableEq, Repr

namespace PageLayout

def text : PageLayout → Text
  | .file => "file".toList
  | .folder => "folder".toList

def ofText? (word : Text) : Option PageLayout :=
  [PageLayout.file, .folder].find? (·.text == word)

end PageLayout

/-- The settings of a run. -/
structure Config where
  /-- The path under which all pages lie. -/
  root : Text := "api-reference".toList
  layout : PageLayout := .file
  /-- What stands for a dot in the page name of a namespace. -/
  separator : Char := '-'
  /-- Whether a type that is extended but not documented gets a placeholder. -/
  createPlaceholders : Bool := true
  /-- The language of code that names none. -/
  codeLanguage : Text := "csharp".toList
  /-- Starts of the names that are documented elsewhere. -/
  externalNamespaces : List Text := [ "System.".toList, "Microsoft.".toList, "Windows.".toList]
  externalBase : Text := "https://learn.microsoft.com/dotnet/api/".toList
  workers : Nat := 4
  /-- The seconds after which work on an entity is given up. -/
  timeout : Option Double := none

namespace Config

/-- The settings under the names they have in a file. -/
inductive Setting where
  | apiReferencePath | namespaceMode | namespaceSeparator | createExternalTypeReferences
  | defaultCodeLanguage | externalNamespaces | externalDocsBaseUrl | maxWorkers | entityTimeout
deriving DecidableEq, Repr

namespace Setting

def name : Setting → Text
  | .apiReferencePath => "api_reference_path".toList
  | .namespaceMode => "namespace_mode".toList
  | .namespaceSeparator => "namespace_separator".toList
  | .createExternalTypeReferences => "create_external_type_references".toList
  | .defaultCodeLanguage => "default_code_language".toList
  | .externalNamespaces => "external_namespaces".toList
  | .externalDocsBaseUrl => "external_docs_base_url".toList
  | .maxWorkers => "max_workers".toList
  | .entityTimeout => "entity_timeout".toList

def all : List Setting :=
  [.apiReferencePath, .namespaceMode, .namespaceSeparator, .createExternalTypeReferences,
    .defaultCodeLanguage, .externalNamespaces, .externalDocsBaseUrl, .maxWorkers, .entityTimeout]

end Setting

/-- The value given for a setting. -/
def given? (entries : List (Scalar × Value)) (setting : Setting) : Option Value :=
  Value.lookup? entries (.text setting.name)

/-- The keys that are no settings, in order. -/
def unknownKeys (entries : List (Scalar × Value)) : List Scalar :=
  (entries.map (·.1)).filter fun key => !Setting.all.any fun s => key.same (.text s.name)

/-- What a scalar writes, if it is a text or bytes. A byte beyond ASCII writes nothing that a number
could have. -/
def written? : Scalar → Option Text
  | .text t => some t
  | .bytes bs => some (bs.map fun b => if b < 0x80 then Char.ofNat b.toNat else '\ufffd')
  | _ => none

/-- The integer that a scalar writes. -/
def writtenInteger (s : Scalar) : Except Fault Int :=
  match (written? s).map Numeral.readInteger with
  | some (.integer n) => .ok n
  | some (.tooLong digits) => .error (.longInteger digits)
  | _ => .error (.badInteger 10 s)

/-- The decimal that a scalar writes. -/
def writtenDouble (s : Scalar) : Except Fault Double :=
  match (written? s).bind Numeral.readDouble? with
  | some x => .ok x
  | none => .error (.badDecimal s)

/-- The value as an integer: a number loses its fraction, a text is read. -/
def toInteger : Value → Except Fault Int
  | .scalar (.bool b) => .ok (if b then 1 else 0)
  | .scalar (.int n) => .ok n
  | .scalar (.double .nan) => .error .undefinedInteger
  | .scalar (.double x) =>
    match x.truncate? with
    | some n => .ok n
    | none => .error .infiniteInteger
  | .scalar (.text t) => writtenInteger (.text t)
  | .scalar (.bytes bs) => writtenInteger (.bytes bs)
  | other => .error (.notANumber .integer other)

/-- The value as a number of double precision. -/
def toDouble : Value → Except Fault Double
  | .scalar (.bool b) => .ok (.ofInt (if b then 1 else 0))
  | .scalar (.int n) =>
    match Double.ofInt n with
    | .infinite _ => .error .hugeInteger
    | x => .ok x
  | .scalar (.double x) => .ok x
  | .scalar (.text t) => writtenDouble (.text t)
  | .scalar (.bytes bs) => writtenDouble (.bytes bs)
  | other => .error (.notANumber .decimal other)

/-- A value that cannot be brought to its type makes the setting invalid; a number out of range is
reported as it is. -/
def asSetting {α : Type} : Except Fault α → Except Fault α
  | .ok a => .ok a
  | .error fault => .error (if fault.isFromContent then .invalidSetting fault else fault)

/-- The settings brought to their types but not yet checked. -/
structure Draft where
  root : Text
  layout : Text
  separator : Text
  createPlaceholders : Bool
  codeLanguage : Text
  externalNamespaces : List Text
  externalBase : Text
  workers : Int
  timeout : Option Double

/-- A text setting, or its default. -/
def textSetting (entries : List (Scalar × Value)) (setting : Setting) (default : Text) :
    Except Fault Text :=
  match given? entries setting with
  | some value => value.shown
  | none => .ok default

/-- Brings every given value to the type of its setting. -/
def draft (entries : List (Scalar × Value)) : Except Fault Draft := do
  let defaults : Config := {}
  let externalNamespaces ← match given? entries .externalNamespaces with
    | some value => do (← value.items).mapM Value.shown
    | none => pure defaults.externalNamespaces
  let workers ← match given? entries .maxWorkers with
    | some value => toInteger value
    | none => pure (defaults.workers : Int)
  let timeout ← match given? entries .entityTimeout with
    | some .null => pure none
    | some value => (toDouble value).map some
    | none => pure defaults.timeout
  let createPlaceholders := match given? entries .createExternalTypeReferences with
    | some value => value.holds
    | none => defaults.createPlaceholders
  return {
    root := ← textSetting entries .apiReferencePath defaults.root
    layout := ← textSetting entries .namespaceMode defaults.layout.text
    separator := ← textSetting entries .namespaceSeparator [defaults.separator]
    createPlaceholders
    codeLanguage := ← textSetting entries .defaultCodeLanguage defaults.codeLanguage
    externalNamespaces
    externalBase := ← textSetting entries .externalDocsBaseUrl defaults.externalBase
    workers
    timeout }

/-- Checks the settings: a known layout, a separator of one character, at least one worker, and a
timeout that is not zero or less. -/
def Draft.check (d : Draft) : Except Fault Config :=
  match PageLayout.ofText? d.layout with
  | none => .error (.unknownLayout d.layout)
  | some layout =>
    match d.separator with
    | [separator] =>
      if d.workers < 1 then
        .error (if (Scalar.int d.workers).isShowable then .tooFewWorkers d.workers
          else .unshowableInteger)
      else
        match d.timeout with
        | some x =>
          if x.isAtMostZero then .error (.timeoutNotPositive x)
          else .ok { d with layout, separator, workers := d.workers.toNat }
        | none => .ok { d with layout, separator, workers := d.workers.toNat }
    | _ => .error (.longSeparator d.separator)

/-- The configuration that a map gives. -/
def ofEntries (entries : List (Scalar × Value)) : Except Fault Config :=
  match asSetting (draft entries) with
  | .ok d => d.check
  | .error fault => .error fault

/-- The configuration that a value gives, which must be a map. -/
def ofValue (v : Value) : Except Fault Config :=
  match v.untied with
  | .map entries => ofEntries entries
  | _ => .error (.lacks v "items".toList)

end Config

end LinkedDocs
