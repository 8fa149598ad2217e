import LinkedDocs.Record
import LinkedDocs.Symbol.Name

/-!
# Entities

What is documented: assemblies hold namespaces, namespaces types, types members, and members
parameters. An entity knows its parent and its children by their ids, and carries notes, references
to other symbols, and the exceptions it documents. Every field of an entity can be given a value of
any type, so fields are values, and using one of the wrong type is a fault.
-/

namespace LinkedDocs

inductive EntityKind where
  | assembly | namespace | type | member | parameter
deriving DecidableEq, Repr

namespace EntityKind

def text : EntityKind → Text
  | .assembly => "assembly".toList
  | .namespace => "namespace".toList
  | .type => "type".toList
  | .member => "member".toList
  | .parameter => "parameter".toList

/-- The name of the kind in messages. -/
def title : EntityKind → Text
  | .assembly => "Assembly".toList
  | .namespace => "Namespace".toList
  | .type => "DocType".toList
  | .member => "Member".toList
  | .parameter => "Parameter".toList

/-- The kind of entity that may hold this kind. -/
def parentKind? : EntityKind → Option EntityKind
  | .assembly => none
  | .namespace => some .assembly
  | .type => some .namespace
  | .member => some .type
  | .parameter => some .member

end EntityKind

inductive TypeKind where
  | classType | interfaceType | structType | enumType | delegateType
deriving DecidableEq, Repr

namespace TypeKind

def text : TypeKind → Text
  | .classType => "class".toList
  | .interfaceType => "interface".toList
  | .structType => "struct".toList
  | .enumType => "enum".toList
  | .delegateType => "delegate".toList

def all : List TypeKind := [.classType, .interfaceType, .structType, .enumType, .delegateType]

end TypeKind

inductive MemberKind where
  | constructor | method | property | field | event
deriving DecidableEq, Repr

namespace MemberKind

def text : MemberKind → Text
  | .constructor => "constructor".toList
  | .method => "method".toList
  | .property => "property".toList
  | .field => "field".toList
  | .event => "event".toList

def all : List MemberKind := [.constructor, .method, .property, .field, .event]

/-- The letter that documentation ids of such members start with. -/
def letter : MemberKind → Char
  | .constructor => 'M'
  | .method => 'M'
  | .property => 'P'
  | .field => 'F'
  | .event => 'E'

end MemberKind

/-- What a reference points at. -/
inductive ReferenceKind where
  | internalSymbol | externalResource | keyword
deriving DecidableEq, Repr

namespace ReferenceKind

def text : ReferenceKind → Text
  | .internalSymbol => "internal-symbol".toList
  | .externalResource => "external-resource".toList
  | .keyword => "keyword".toList

def all : List ReferenceKind := [.internalSymbol, .externalResource, .keyword]

end ReferenceKind

/-- What has become of a reference. -/
inductive ResolutionState where
  | resolvedInternal | resolvedExternal | unresolved
deriving DecidableEq, Repr

namespace ResolutionState

def text : ResolutionState → Text
  | .resolvedInternal => "resolved-internal".toList
  | .resolvedExternal => "resolved-external".toList
  | .unresolved => "unresolved".toList

def all : List ResolutionState := [.resolvedInternal, .resolvedExternal, .unresolved]

end ResolutionState

/-- What stands in a field that ought to hold an `α`. -/
inductive Loose (α : Type) where
  | proper (a : α)
  | stray (v : Value)

/-- A reference attached to an entity. It has no state until it has been resolved. -/
structure Reference where
  raw : Value
  kind : Option ReferenceKind := none
  state : Option ResolutionState := none
  target : Value := .null
  displayName : Value := .null
  targetId : Value := .null
  symbolKind : SymbolKind := .unknown

/-- Whether the reference has been resolved to a target. -/
def Reference.isResolved (r : Reference) : Bool :=
  r.state = some .resolvedInternal || r.state = some .resolvedExternal

/-- An exception that an entity documents. -/
structure Thrown where
  type : Value
  description : Value := .null

/-- The free texts that an entity can carry. -/
inductive Slot where
  | summary | remarks | returns | value | usage | examples | bestPractices | patterns
  | considerations
deriving DecidableEq, Repr

namespace Slot

/-- The slots in the order in which they are rendered. -/
def all : List Slot :=
  [.summary, .remarks, .returns, .value, .usage, .examples, .bestPractices, .patterns,
    .considerations]

def name : Slot → Text
  | .summary => "summary".toList
  | .remarks => "remarks".toList
  | .returns => "returns".toList
  | .value => "value".toList
  | .usage => "usage".toList
  | .examples => "examples".toList
  | .bestPractices => "best_practices".toList
  | .patterns => "patterns".toList
  | .considerations => "considerations".toList

end Slot

/-- The notes of an entity, one value for each slot. A note should be text or null, but a file can
give anything. -/
structure Notes where
  summary : Value := .null
  remarks : Value := .null
  returns : Value := .null
  value : Value := .null
  usage : Value := .null
  examples : Value := .null
  bestPractices : Value := .null
  patterns : Value := .null
  considerations : Value := .null

namespace Notes

def get (notes : Notes) : Slot → Value
  | .summary => notes.summary
  | .remarks => notes.remarks
  | .returns => notes.returns
  | .value => notes.value
  | .usage => notes.usage
  | .examples => notes.examples
  | .bestPractices => notes.bestPractices
  | .patterns => notes.patterns
  | .considerations => notes.considerations

def set (notes : Notes) (slot : Slot) (v : Value) : Notes :=
  match slot with
  | .summary => { notes with summary := v }
  | .remarks => { notes with remarks := v }
  | .returns => { notes with returns := v }
  | .value => { notes with value := v }
  | .usage => { notes with usage := v }
  | .examples => { notes with examples := v }
  | .bestPractices => { notes with bestPractices := v }
  | .patterns => { notes with patterns := v }
  | .considerations => { notes with considerations := v }

/-- The notes with the value that `f` gives for each slot. -/
def ofFn (f : Slot → Value) : Notes where
  summary := f .summary
  remarks := f .remarks
  returns := f .returns
  value := f .value
  usage := f .usage
  examples := f .examples
  bestPractices := f .bestPractices
  patterns := f .patterns
  considerations := f .considerations

@[simp] theorem get_ofFn (f : Slot → Value) (slot : Slot) : (ofFn f).get slot = f slot := by
  cases slot <;> rfl

end Notes

/-- What an entity of each kind has besides. -/
inductive Detail where
  | assembly
  | namespace
  /-- A type has a full name, and may be a placeholder for one documented elsewhere. -/
  | type (fullName : Value) (kind : Loose TypeKind) (isExternal : Value)
  /-- A member knows the type that declared it, which stays, and may extend another type. -/
  | member (kind : Loose MemberKind) (declaringType : Value) (isExtension : Value)
    (extended : Value)
  | parameter (typeName : Value)

/-- The kind of entity that has such a detail. -/
def Detail.kind : Detail → EntityKind
  | .assembly => .assembly
  | .namespace => .namespace
  | .type .. => .type
  | .member .. => .member
  | .parameter _ => .parameter

/-- A documented entity. -/
structure Entity where
  id : Value
  name : Value
  detail : Detail
  /-- The id of the entity that holds this one, or null. -/
  parent : Value := .null
  /-- The ids of the entities that this one holds. -/
  children : Value := .list []
  notes : Notes := {}
  references : Loose (List Reference) := .proper []
  exceptions : Loose (List Thrown) := .proper []
  /-- Fields without a meaning for such an entity. -/
  further : List (Text × Value) := []

namespace Entity

def kind (e : Entity) : EntityKind :=
  e.detail.kind

/-- The full name of a type. -/
def fullName (e : Entity) : Value :=
  match e.detail with
  | .type fullName _ _ => fullName
  | _ => .null

/-- The ids of the children as keys. -/
def childKeys (e : Entity) : Except Fault (List Scalar) := do
  (← e.children.items).mapM Value.identifier

/-- The entity with what follows from its other fields: a type without a full name has its name for
one, and a member without a declaring type was declared by its parent. -/
def completed (e : Entity) : Entity :=
  match e.detail with
  | .type fullName kind isExternal =>
    if fullName.holds then e else { e with detail := .type e.name kind isExternal }
  | .member kind declaring isExtension extended =>
    if declaring.isNull then { e with detail := .member kind e.parent isExtension extended }
    else e
  | _ => e

end Entity

/-! ## Lists of ids -/

/-- Whether a list of ids has the id. -/
def hasId (ids : List Scalar) (id : Scalar) : Bool :=
  ids.any (·.same id)

/-- The ids with one more at the end, unless it is there already. -/
def withId (ids id : Value) : Except Fault Value := do
  if ← ids.has id then return ids
  else
    match ids.untied with
    | .list items => return .list (items ++ [id])
    | _ => .error (.lacks ids "append".toList)

/-- The ids without every occurrence of one. -/
def withoutId (ids id : Value) : Except Fault Value := do
  if ← ids.has id then
    match ids.untied with
    | .list items => return .list (items.filter (!id.same ·))
    | _ => .error (.lacks ids "remove".toList)
  else return ids

end LinkedDocs
