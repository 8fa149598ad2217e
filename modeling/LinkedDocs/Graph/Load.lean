import LinkedDocs.Graph.Basic
import LinkedDocs.Record

/-!
# Reading a graph

A graph file nests assemblies, namespaces, types, members and parameters. An entity without an id
gets one in the style of documentation ids. Entities are added in the order in which they stand,
so that an entity comes before everything it holds.
-/

namespace LinkedDocs.Graph

/-- The name of an entity, which must be a text that is not empty. -/
def readName (record : List (Scalar × Value)) (what : Text) : Except Fault Text :=
  match Value.get record "name".toList with
  | .scalar (.text (c :: cs)) => .ok (c :: cs)
  | _ => .error (.nameless what)

/-- The value under a key, or another value if nothing is given. -/
def givenOr (record : List (Scalar × Value)) (key : Text) (default : Value) : Value :=
  let value := Value.get record key
  if value.holds then value else default

/-- A reference: a text, or a record of what is known about it. -/
def readReference : Value → Except Fault Reference
  | .scalar (.text raw) => .ok { raw := .text raw }
  | item => do
    let record ← item.entries
    let raw ← ((Value.lookup? record (.text "raw".toList)).getD (.text [])).shown
    let kind ← Value.word "ReferenceKind".toList ReferenceKind.all ReferenceKind.text
      (Value.get record "kind".toList)
    let state ← Value.word "ResolutionState".toList ResolutionState.all ResolutionState.text
      (Value.get record "state".toList)
    let symbolKind ← Value.word "SymbolKind".toList SymbolKind.all SymbolKind.text
      (Value.get record "symbol_kind".toList)
    return {
      raw := .text raw
      kind, state
      target := Value.get record "target".toList
      displayName := Value.get record "display_name".toList
      targetId := Value.get record "target_id".toList
      symbolKind := symbolKind.getD .unknown }

/-- A documented exception. -/
def readThrown (item : Value) : Except Fault Thrown := do
  let record ← item.entries
  let type := (Value.lookup? record (.text "type".toList)).getD (.text [])
  return ⟨.text (← type.shown), Value.get record "description".toList⟩

/-- What every entity carries. -/
structure Content where
  notes : Notes
  references : Loose (List Reference)
  exceptions : Loose (List Thrown)

def readContent (record : List (Scalar × Value)) : Except Fault Content := do
  let references ← (← Value.itemsUnder record "references".toList).mapM readReference
  let exceptions ← (← Value.itemsUnder record "exceptions".toList).mapM readThrown
  return ⟨.ofFn fun slot => Value.get record slot.name, .proper references, .proper exceptions⟩

/-- The id of an entity: the one given, or else one made of the text. -/
def readId (record : List (Scalar × Value)) (default : Except Fault Text) : Except Fault Value :=
  let given := Value.get record "id".toList
  if given.holds then .ok given else default.map .text

/-- Adds a parameter to the member with the given id. -/
def loadParameter (member : Value) (g : Graph) (data : Value) : Except Fault Graph := do
  let record ← data.entries
  let name ← readName record "Parameter".toList
  let id ← readId record (member.shown.map (· ++ '/' :: name))
  let content ← readContent record
  g.with? { content with
    id
    name := .text name
    detail := .parameter (Value.get record "type".toList)
    parent := member }

/-- Adds a member, and its parameters, to the type with the given id and full name. -/
def loadMember (type fullName : Value) (g : Graph) (data : Value) : Except Fault Graph := do
  let record ← data.entries
  let name ← readName record "Member".toList
  let kind := (← Value.word "MemberKind".toList MemberKind.all MemberKind.text
    (Value.get record "kind".toList)).getD .method
  let id ← readId record (fullName.shown.map (kind.letter :: ':' :: · ++ '.' :: name))
  let content ← readContent record
  let member : Entity := { content with
    id
    name := .text name
    detail := .member (.proper kind) (Value.get record "declaring_type".toList)
      (.bool (Value.get record "extension".toList).holds) (Value.get record "extends".toList)
    parent := type }
  let g ← g.with? member.completed
  (← Value.itemsUnder record "parameters".toList).foldlM (loadParameter id) g

/-- Adds a type, and its members, to the namespace with the given id and name. -/
def loadType (space : Value) (spaceName : Text) (g : Graph) (data : Value) :
    Except Fault Graph := do
  let record ← data.entries
  let name ← readName record "Type".toList
  let qualified := if spaceName = [] then name else spaceName ++ '.' :: name
  let fullName := givenOr record "full_name".toList (.text qualified)
  let id ← readId record (fullName.shown.map ("T:".toList ++ ·))
  let kind := (← Value.word "TypeKind".toList TypeKind.all TypeKind.text
    (Value.get record "kind".toList)).getD .classType
  let content ← readContent record
  let g ← g.with? { content with
    id
    name := .text name
    detail := .type fullName (.proper kind) (.bool (Value.get record "external".toList).holds)
    parent := space }
  (← Value.itemsUnder record "members".toList).foldlM (loadMember id fullName) g

/-- Adds a namespace, and its types, to the assembly with the given id. The global namespace has no
name. -/
def loadNamespace (assembly : Value) (g : Graph) (data : Value) : Except Fault Graph := do
  let record ← data.entries
  let name ← (givenOr record "name".toList (.text [])).shown
  let id ← readId record (.ok ("N:".toList ++ name))
  let content ← readContent record
  let g ← g.with? { content with
    id
    name := .text name
    detail := .namespace
    parent := assembly }
  (← Value.itemsUnder record "types".toList).foldlM (loadType id name) g

/-- Adds an assembly and its namespaces. -/
def loadAssembly (g : Graph) (data : Value) : Except Fault Graph := do
  let record ← data.entries
  let name ← readName record "Assembly".toList
  let id ← readId record (.ok ("A:".toList ++ name))
  let content ← readContent record
  let g ← g.with? { content with id, name := .text name, detail := .assembly }
  (← Value.itemsUnder record "namespaces".toList).foldlM (loadNamespace id) g

/-- The graph that a value describes, or what is wrong with the description. -/
def read (data : Value) : Except Fault Graph := do
  let record ← data.entries
  (← Value.itemsUnder record "assemblies".toList).foldlM loadAssembly empty

/-- The graph that a value describes. Any fault makes the graph invalid. -/
def ofValue (data : Value) : Except Fault Graph :=
  match read data with
  | .ok g => .ok g
  | .error fault => .error (.invalidGraph fault)

end LinkedDocs.Graph
