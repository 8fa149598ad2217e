import LinkedDocs.Graph.Basic

/-!
# Writing a graph

The nested form of a graph, from which it can be read again. What has its default value is left
out.
-/

namespace LinkedDocs.Graph

/-- A field of a record. -/
def field (key : Text) (value : Value) : Scalar × Value :=
  (.text key, value)

/-- A field that is left out if its value is null. -/
def fieldUnlessNull (key : Text) (value : Value) : List (Scalar × Value) :=
  if value.isNull then [] else [field key value]

/-- A field that is left out unless its value counts as given. -/
def fieldIfGiven (key : Text) (value : Value) : List (Scalar × Value) :=
  if value.holds then [field key value] else []

def dumpReference (r : Reference) : Value :=
  .map <|
    [field "raw".toList r.raw] ++
    (r.kind.toList.map fun kind => field "kind".toList (.text kind.text)) ++
    (r.state.toList.map fun state => field "state".toList (.text state.text)) ++
    fieldUnlessNull "target".toList r.target ++
    fieldUnlessNull "display_name".toList r.displayName ++
    fieldUnlessNull "target_id".toList r.targetId ++
    (if r.symbolKind = .unknown then []
      else [field "symbol_kind".toList (.text r.symbolKind.text)])

def dumpThrown (t : Thrown) : Value :=
  .map [field "type".toList t.type, field "description".toList t.description]

/-- A field with a list of records, which is left out if there are none. Anything else in its place
lacks what the records have, if it has items. -/
def recordsField {α : Type} (key : Text) (part : String) (dumpOne : α → Value) :
    Loose (List α) → Except Fault (List (Scalar × Value))
  | .proper [] => .ok []
  | .proper records => .ok [field key (.list (records.map dumpOne))]
  | .stray v =>
    if v.holds then do
      match ← v.items with
      | item :: _ => .error (.lacks item part.toList)
      | [] => return [field key (.list [])]
    else .ok []

/-- The fields that every entity has. -/
def dumpContent (e : Entity) : Except Fault (List (Scalar × Value)) := do
  let references ← recordsField "references".toList "raw" dumpReference e.references
  let exceptions ← recordsField "exceptions".toList "type_name" dumpThrown e.exceptions
  return [field "id".toList e.id, field "name".toList e.name] ++
    (Slot.all.flatMap fun slot => fieldUnlessNull slot.name (e.notes.get slot)) ++
    references ++ exceptions

/-- The word of an enumeration in a field. Anything else in its place is no such word. -/
def dumpWord {α : Type} (text : α → Text) : Loose α → Except Fault Value
  | .proper a => .ok (.text (text a))
  | .stray v => .error (.lacks v "value".toList)

def dumpParameter (e : Entity) : Except Fault Value :=
  match e.detail with
  | .parameter typeName => do
    return .map ((← dumpContent e) ++ fieldIfGiven "type".toList typeName)
  | _ => .error .misplaced

def dumpMember (g : Graph) (e : Entity) : Except Fault Value :=
  match e.detail with
  | .member kind declaring isExtension extended => do
    let content ← dumpContent e
    let kind ← dumpWord MemberKind.text kind
    let parameters ← (← g.childrenOf e).mapM dumpParameter
    return .map <|
      content ++
      [field "kind".toList kind] ++
      (if isExtension.holds then [field "extension".toList (.bool true)] else []) ++
      fieldIfGiven "extends".toList extended ++
      (if declaring.holds && !declaring.equals e.parent then
        [field "declaring_type".toList declaring] else []) ++
      (if parameters.isEmpty then [] else [field "parameters".toList (.list parameters)])
  | _ => .error .misplaced

def dumpType (g : Graph) (e : Entity) : Except Fault Value :=
  match e.detail with
  | .type fullName kind isExternal => do
    let content ← dumpContent e
    let kind ← dumpWord TypeKind.text kind
    let members ← (← g.childrenOf e).mapM g.dumpMember
    return .map <|
      content ++
      [field "full_name".toList fullName, field "kind".toList kind] ++
      (if isExternal.holds then [field "external".toList (.bool true)] else []) ++
      [field "members".toList (.list members)]
  | _ => .error .misplaced

def dumpNamespace (g : Graph) (e : Entity) : Except Fault Value := do
  let content ← dumpContent e
  let types ← (← g.childrenOf e).mapM g.dumpType
  return .map (content ++ [field "types".toList (.list types)])

def dumpAssembly (g : Graph) (e : Entity) : Except Fault Value := do
  let content ← dumpContent e
  let namespaces ← (← g.childrenOf e).mapM g.dumpNamespace
  return .map (content ++ [field "namespaces".toList (.list namespaces)])

/-- The nested form of the graph. An entity that is listed where its kind has no place cannot be
written. -/
def dump (g : Graph) : Except Fault Value := do
  let assemblies ← g.assemblies.mapM g.dumpAssembly
  return .map [field "assemblies".toList (.list assemblies)]

end LinkedDocs.Graph
