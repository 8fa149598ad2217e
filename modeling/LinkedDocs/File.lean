import LinkedDocs.Config
import LinkedDocs.Graph.Load
import LinkedDocs.Log
import LinkedDocs.Text.Utf8
import LinkedDocs.Yaml.Document

/-!
# Files

A graph file holds a graph, a settings file holds settings at the top or in a section of their own.
A settings file that cannot be parsed is passed over with a warning, while one with bad values is a
fault.
-/

namespace LinkedDocs

/-- What is found at a path. -/
inductive File where
  | missing (flaw : PathFlaw)
  | directory
  | content (bytes : List UInt8)

namespace File

/-- The bytes of the file at a path. -/
def read (path : Text) : File → Except Fault (List UInt8)
  | .missing flaw => .error (.badPath flaw path)
  | .directory => .error (.badPath .directory path)
  | .content bytes => .ok bytes

/-- Whether a part of a path says to stay in place. -/
def staysInPlace (part : Text) : Bool :=
  part.isEmpty || part = ['.']

/-- The path without parts that stay in place. -/
def normalPath (path : Text) : Text :=
  let body := Text.join ['/'] ((Text.splitOn '/' path).filter (!staysInPlace ·))
  if Text.startsWith ['/'] path then '/' :: body
  else if body.isEmpty then ['.']
  else body

end File

/-- What reading a file gives, and what is said about it. -/
structure Loaded (α : Type) where
  result : Except Fault α
  log : List Log.Line := []

namespace Graph

/-- The value that a graph file describes, with `parse` to read a document. -/
def valueOfFile (parse : Text → Except Yaml.Problem Value) (path : Text) (file : File) :
    Except Fault Value :=
  if path.contains '\x00' then .error .nullInPath
  else
    match file.read path with
    | .error fault => .error (.unreadable path fault)
    | .ok bytes =>
      match Utf8.decode bytes with
      | .error flaw => .error flaw.fault
      | .ok t =>
        match parse t with
        | .error .malformed => .error (.malformedDocument path)
        | .error (.faulty fault) => .error fault
        | .ok v => .ok v.untied

/-- The line about a graph that has been read. -/
def loadedLine (path : Text) (g : Graph) : Log.Line :=
  ⟨.debug, "docweave.graph.loader".toList,
    "Loaded ".toList ++ Text.ofNat g.size ++ " entities from ".toList ++ path⟩

/-- The graph in a graph file. A file without a document holds the empty graph. -/
def ofFile (parse : Text → Except Yaml.Problem Value) (path : Text) (file : File) : Loaded Graph :=
  match valueOfFile parse path file with
  | .error fault => ⟨.error fault, []⟩
  | .ok .null => ⟨.ok .empty, []⟩
  | .ok (.map entries) =>
    match ofValue (.map entries) with
    | .error fault => ⟨.error fault, []⟩
    | .ok g => ⟨.ok g, [loadedLine path g]⟩
  | .ok _ => ⟨.error (.noMapping path), []⟩

end Graph

namespace Config

/-- Where settings have their section. -/
def sectionName : Text :=
  "docweave".toList

/-- The settings in a value: its section, or else the value itself; the defaults if that is no
map. -/
def ofDocument (v : Value) : Loaded Config :=
  match v.untied with
  | .map entries =>
    match ((Value.lookup? entries (.text sectionName)).getD (.map entries)).untied with
    | .map settings =>
      ⟨ofEntries settings, (unknownKeys settings).map fun key =>
        ⟨.debug, "docweave.config".toList, "Ignoring unknown config key ".toList ++ key.inspect⟩⟩
    | _ => ⟨.ok {}, []⟩
  | _ => ⟨.ok {}, []⟩

/-- The line about a file that could not be read. -/
def unreadLine (path : Text) : Log.Line :=
  ⟨.warning, "docweave.config".toList,
    "Failed to read ".toList ++ path ++ ", using default configuration".toList⟩

/-- The settings in a settings file, or the defaults if there is none. -/
def ofFile (path : Text) : File → Loaded Config
  | .content bytes =>
    match Yaml.Document.read (.ofBytes bytes) with
    | .error .malformed => ⟨.ok {}, [unreadLine path]⟩
    | .error (.faulty fault) => ⟨.error fault, []⟩
    | .ok v => ofDocument v
  | .missing .tooLong => ⟨.error (.badPath .tooLong path), []⟩
  | _ => ⟨.ok {}, []⟩

end Config

end LinkedDocs
