import LinkedDocs.Graph.Entity

/-!
# Fields by name

An entity can be made of a record, and its fields can be read and changed by their names. A record
must name the entity and its id and have no part that such an entity has no field for. Assigning a
value to a field checks nothing.
-/

namespace LinkedDocs

namespace EntityKind

def all : List EntityKind := [.assembly, .namespace, .type, .member, .parameter]

/-- The field with the id of the parent. -/
def parentField? : EntityKind → Option Text
  | .assembly => none
  | .namespace => some "assembly_id".toList
  | .type => some "namespace_id".toList
  | .member => some "owner_id".toList
  | .parameter => some "member_id".toList

/-- The field with the ids of the children. -/
def childrenField? : EntityKind → Option Text
  | .assembly => some "namespace_ids".toList
  | .namespace => some "type_ids".toList
  | .type => some "member_ids".toList
  | .member => some "parameter_ids".toList
  | .parameter => none

/-- The fields that only such entities have. -/
def detailFields : EntityKind → List Text
  | .assembly => []
  | .namespace => []
  | .type => [ "full_name".toList, "type_kind".toList, "is_external".toList]
  | .member =>
    [ "member_kind".toList, "declaring_type_id".toList, "is_extension".toList,
      "extended_type".toList]
  | .parameter => [ "type_name".toList]

/-- The fields that a record may leave out. -/
def optionalFields (kind : EntityKind) : List Text :=
  Slot.all.map Slot.name ++ [ "references".toList, "exceptions".toList] ++
    kind.parentField?.toList ++ kind.childrenField?.toList ++ kind.detailFields

end EntityKind

/-- A word of an enumeration under a key; nothing given is none. -/
def wordUnder {α : Type} (title : Text) (all : List α) (text : α → Text)
    (record : List (Scalar × Value)) (key : Text) : Except Fault (Option α) :=
  let given := Value.get record key
  if given.isNull then .ok none else (Value.exactWord title all text given).map some

/-- The reference that a record describes. -/
def Reference.ofRecord (data : Value) : Except Fault Reference := do
  let record ← data.entries
  let kind ← wordUnder "ReferenceKind".toList ReferenceKind.all ReferenceKind.text record
    "kind".toList
  let state ← wordUnder "ResolutionState".toList ResolutionState.all ResolutionState.text record
    "state".toList
  let symbolKind ← wordUnder "SymbolKind".toList SymbolKind.all SymbolKind.text record
    "symbol_kind".toList
  Value.checkParts "DocReference".toList [ "raw".toList]
    [ "kind".toList, "state".toList, "target".toList, "display_name".toList, "target_id".toList,
      "symbol_kind".toList] record
  return {
    raw := Value.get record "raw".toList
    kind, state
    target := Value.get record "target".toList
    displayName := Value.get record "display_name".toList
    targetId := Value.get record "target_id".toList
    symbolKind := symbolKind.getD .unknown }

/-- The documented exception that a record describes. -/
def Thrown.ofRecord (data : Value) : Except Fault Thrown := do
  let record ← data.entries
  Value.checkParts "ExceptionDoc".toList [ "type_name".toList] [ "description".toList] record
  return ⟨Value.get record "type_name".toList, Value.get record "description".toList⟩

namespace Entity

/-- The ids under a key; nothing given is none. -/
def idsUnder (record : List (Scalar × Value)) (key : Option Text) : Value :=
  let given := (key.map (Value.get record)).getD .null
  if given.isNull then .list [] else given

/-- A truth value under a key; nothing given is false. -/
def flagUnder (record : List (Scalar × Value)) (key : Text) : Value :=
  let given := Value.get record key
  if given.isNull then .bool false else given

/-- What an entity of a kind has besides, in a record. -/
def detailOf (kind : EntityKind) (typeKind : Option TypeKind) (memberKind : Option MemberKind)
    (record : List (Scalar × Value)) : Detail :=
  match kind with
  | .assembly => .assembly
  | .namespace => .namespace
  | .type =>
    .type (Value.get record "full_name".toList) (.proper (typeKind.getD .classType))
      (flagUnder record "is_external".toList)
  | .member =>
    .member (.proper (memberKind.getD .method)) (Value.get record "declaring_type_id".toList)
      (flagUnder record "is_extension".toList) (Value.get record "extended_type".toList)
  | .parameter => .parameter (Value.get record "type_name".toList)

/-- The entity that a record describes. The record names its kind. -/
def ofRecord (data : Value) : Except Fault Entity := do
  let record ← data.entries
  let given ← match Value.lookup? record (.text "kind".toList) with
    | some given => pure given
    | none => .error (.absent (.text "kind".toList))
  let kind ← match EntityKind.all.find? fun kind => given.same (.text kind.text) with
    | some kind => pure kind
    | none => (given.identifier).bind fun _ => .error (.absent given)
  let record := record.filter fun (key, _) => !key.same (.text "kind".toList)
  let typeKind ← wordUnder "TypeKind".toList TypeKind.all TypeKind.text record "type_kind".toList
  let memberKind ← wordUnder "MemberKind".toList MemberKind.all MemberKind.text record
    "member_kind".toList
  let references ← (← Value.itemsUnder record "references".toList).mapM Reference.ofRecord
  let exceptions ← (← Value.itemsUnder record "exceptions".toList).mapM Thrown.ofRecord
  Value.checkParts kind.title [ "id".toList, "name".toList] kind.optionalFields record
  return completed {
    id := Value.get record "id".toList
    name := Value.get record "name".toList
    detail := detailOf kind typeKind memberKind record
    parent := (kind.parentField?.map (Value.get record)).getD .null
    children := idsUnder record kind.childrenField?
    notes := .ofFn fun slot => Value.get record slot.name
    references := .proper references
    exceptions := .proper exceptions }

/-- Changes the part of a detail that a field holds. -/
def assignDetail? (detail : Detail) (field : Text) (v : Value) : Option Detail :=
  match detail with
  | .type fullName kind isExternal =>
    if field = "full_name".toList then some (.type v kind isExternal)
    else if field = "type_kind".toList then some (.type fullName (.stray v) isExternal)
    else if field = "is_external".toList then some (.type fullName kind v)
    else none
  | .member kind declaring isExtension extended =>
    if field = "member_kind".toList then some (.member (.stray v) declaring isExtension extended)
    else if field = "declaring_type_id".toList then some (.member kind v isExtension extended)
    else if field = "is_extension".toList then some (.member kind declaring v extended)
    else if field = "extended_type".toList then some (.member kind declaring isExtension v)
    else none
  | .parameter _ => if field = "type_name".toList then some (.parameter v) else none
  | _ => none

/-- Assigns a value to a field. -/
def assign (e : Entity) (field : Text) (v : Value) : Entity :=
  if field = "id".toList then { e with id := v }
  else if field = "name".toList then { e with name := v }
  else if e.kind.parentField? = some field then { e with parent := v }
  else if e.kind.childrenField? = some field then { e with children := v }
  else if field = "references".toList then { e with references := .stray v }
  else if field = "exceptions".toList then { e with exceptions := .stray v }
  else
    match Slot.all.find? (·.name = field), assignDetail? e.detail field v with
    | some slot, _ => { e with notes := e.notes.set slot v }
    | none, some detail => { e with detail }
    | none, none => { e with further := (field, v) :: e.further }

/-- A record that shows a reference. -/
def referenceValue (r : Reference) : Value :=
  .map [
    (.text "raw".toList, r.raw),
    (.text "kind".toList, .ofText? (r.kind.map ReferenceKind.text)),
    (.text "state".toList, .ofText? (r.state.map ResolutionState.text)),
    (.text "display_name".toList, r.displayName),
    (.text "target".toList, r.target),
    (.text "target_id".toList, r.targetId),
    (.text "symbol_kind".toList, .text r.symbolKind.text),
    (.text "is_resolved".toList, .bool r.isResolved)]

/-- A record that shows an exception. -/
def thrownValue (t : Thrown) : Value :=
  .map [(.text "type_name".toList, t.type), (.text "description".toList, t.description)]

/-- What a field shows. -/
def looseValue {α : Type} (value : α → Value) : Loose α → Value
  | .proper a => value a
  | .stray v => v

/-- The part of a detail that a field shows. -/
def detailValue? (detail : Detail) (field : Text) : Option Value :=
  match detail with
  | .type fullName kind isExternal =>
    if field = "full_name".toList then some fullName
    else if field = "type_kind".toList then some (looseValue (.text ·.text) kind)
    else if field = "is_external".toList then some isExternal
    else none
  | .member kind declaring isExtension extended =>
    if field = "member_kind".toList then some (looseValue (.text ·.text) kind)
    else if field = "declaring_type_id".toList then some declaring
    else if field = "is_extension".toList then some isExtension
    else if field = "extended_type".toList then some extended
    else none
  | .parameter typeName => if field = "type_name".toList then some typeName else none
  | _ => none

/-- The value of a field, which the entity must have. -/
def fieldValue (e : Entity) (field : Text) : Except Fault Value :=
  if field = "id".toList then .ok e.id
  else if field = "name".toList then .ok e.name
  else if field = "kind".toList then .ok (.text e.kind.text)
  else if e.kind.parentField? = some field then .ok e.parent
  else if e.kind.childrenField? = some field then .ok e.children
  else if field = "references".toList then
    .ok (looseValue (fun rs => .list (rs.map referenceValue)) e.references)
  else if field = "exceptions".toList then
    .ok (looseValue (fun ts => .list (ts.map thrownValue)) e.exceptions)
  else
    match Slot.all.find? (·.name = field), detailValue? e.detail field,
      e.further.lookup field with
    | some slot, _, _ => .ok (e.notes.get slot)
    | none, some v, _ => .ok v
    | none, none, some v => .ok v
    | none, none, none => .error (.noField e.kind.title field)

end Entity

end LinkedDocs
