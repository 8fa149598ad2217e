import LinkedDocs.Graph.Entity

/-!
# The graph of entities

All entities of a documentation set by their ids, in the order in which they were added. `add`
registers an entity and lists it with its parent, `remove` takes an entity away with everything it
holds, and `freshId` makes up ids that were never made up before.
-/

namespace LinkedDocs

/-- The entities by id, in order of addition, and how many numbers have been used for fresh ids. -/
structure Graph where
  entries : List (Scalar × Entity) := []
  issued : Nat := 0

namespace Graph

def empty : Graph := {}

def size (g : Graph) : Nat :=
  g.entries.length

/-- The entities in order of addition. -/
def entities (g : Graph) : List Entity :=
  g.entries.map (·.2)

/-- The entity with an id. -/
def get? (g : Graph) (id : Scalar) : Option Entity :=
  (g.entries.find? (·.1.same id)).map (·.2)

def contains (g : Graph) (id : Scalar) : Bool :=
  g.entries.any (·.1.same id)

/-- Changes the entity with an id, if there is one. -/
def modify (g : Graph) (id : Scalar) (f : Entity → Entity) : Graph :=
  { g with entries := g.entries.map fun (key, e) => (key, if key.same id then f e else e) }

/-- Drops the entity with an id, and changes no other. -/
def erase (g : Graph) (id : Scalar) : Graph :=
  { g with entries := g.entries.filter (!·.1.same id) }

/-- The entity with an id. -/
def find (g : Graph) (id : Value) : Except Fault (Option Entity) :=
  id.identifier.map g.get?

/-- The entity with an id, which must be of the wanted kind. -/
def expect (g : Graph) (wanted : EntityKind) (id : Value) : Except Fault Entity := do
  match ← g.find id with
  | some e => if e.kind = wanted then return e else .error (.wrongKind id wanted.title)
  | none => .error (.wrongKind id wanted.title)

/-- The entities of a kind, in order of addition. -/
def ofKind (g : Graph) (kind : EntityKind) : List Entity :=
  g.entities.filter (·.kind = kind)

def assemblies (g : Graph) : List Entity :=
  g.ofKind .assembly

/-- The entities that an entity lists and that are there. -/
def childrenOf (g : Graph) (e : Entity) : Except Fault (List Entity) :=
  e.childKeys.map (·.filterMap g.get?)

/-! ## Adding -/

/-- The key under which an entity is to be registered, and the parent with which it is to be listed,
with its key. The id must be free and the parent must be of the kind that holds such entities. -/
def admission (g : Graph) (e : Entity) : Except Fault (Scalar × Option (Scalar × Entity)) := do
  let key ← e.id.identifier
  if g.contains key then .error (.duplicateId e.id)
  else
    match e.kind.parentKind? with
    | some wanted =>
      if e.parent.isNull then return (key, none)
      else
        let parent ← g.expect wanted e.parent
        return (key, some (← e.parent.identifier, parent))
    | none => return (key, none)

/-- Registers an entity and lists it with its parent. An entity that is not admitted changes nothing;
one that its parent cannot list is registered all the same. -/
def add (g : Graph) (e : Entity) : Graph × Option Fault :=
  match g.admission e with
  | .error fault => (g, some fault)
  | .ok (key, parent?) =>
    let grown : Graph := { g with entries := g.entries ++ [(key, e)] }
    match parent? with
    | none => (grown, none)
    | some (parentKey, parent) =>
      match withId parent.children e.id with
      | .ok children => (grown.modify parentKey fun p => { p with children }, none)
      | .error fault => (grown, some fault)

/-- The graph with an entity added, or what is in the way. -/
def with? (g : Graph) (e : Entity) : Except Fault Graph :=
  match g.add e with
  | (grown, none) => .ok grown
  | (_, some fault) => .error fault

/-! ## Fresh ids -/

/-- The id made of a stem and a number. -/
def numberedId (stem : Text) (n : Nat) : Scalar :=
  .text (stem ++ '#' :: Text.ofNat n)

/-- The first number from `n` on whose id is free, among the next `fuel` ones. -/
def firstFree (g : Graph) (stem : Text) : (fuel n : Nat) → Nat
  | 0, n => n
  | fuel + 1, n => if g.contains (numberedId stem n) then firstFree g stem fuel (n + 1) else n

/-- An id that is not in use and was not made up before, whatever its stem. One of the next
numbers is free, as there are more of them than entities. -/
def freshId (g : Graph) (stem : Text) : Scalar × Graph :=
  let n := g.firstFree stem g.size (g.issued + 1)
  (numberedId stem n, { g with issued := n })

/-! ## Removing -/

/-- Takes an id from the child list of its entity's parent. A parent that is there must be of the
kind that holds such entities. -/
def unlist (g : Graph) (id : Value) (e : Entity) : Except Fault Graph :=
  match e.kind.parentKind? with
  | none => .ok g
  | some wanted => do
    let key ← e.parent.identifier
    if g.contains key then
      let parent ← g.expect wanted e.parent
      let children ← withoutId parent.children id
      return g.modify key fun p => { p with children }
    else return g

mutual

/-- Removes an entity, its children first, at most `fuel` levels deep. The graph is what has become
of it also where a fault stops the removal. -/
def removeWithin (g : Graph) : (fuel : Nat) → Value → Graph × Option Fault
  | 0, _ => (g, some .cyclic)
  | fuel + 1, id =>
    match id.identifier with
    | .error fault => (g, some fault)
    | .ok key =>
      match g.get? key with
      | none => (g, none)
      | some e =>
        match e.children.items with
        | .error fault => (g, some fault)
        | .ok ids =>
          match removeAllWithin g fuel ids with
          | (g, some fault) => (g, some fault)
          | (g, none) =>
            match g.unlist id e with
            | .ok g => (g.erase key, none)
            | .error fault => (g, some fault)
termination_by fuel _ => (fuel, 0)

/-- Removes several entities one after another. -/
def removeAllWithin (g : Graph) (fuel : Nat) : List Value → Graph × Option Fault
  | [] => (g, none)
  | id :: ids =>
    match removeWithin g fuel id with
    | (g, none) => removeAllWithin g fuel ids
    | (g, some fault) => (g, some fault)
termination_by ids => (fuel, ids.length + 1)

end

/-- Removes an entity with everything it holds and takes it from its parent's list. Levels are
bounded by the number of entities unless an entity holds itself. -/
def remove (g : Graph) (id : Value) : Graph × Option Fault :=
  g.removeWithin (g.size + 1) id

/-! ## Looking up -/

/-- The first namespace of a name, within an assembly if one is given. -/
def findNamespace? (g : Graph) (assembly name : Value) : Option Entity :=
  (g.ofKind .namespace).find? fun e =>
    e.name.equals name && (assembly.isNull || e.parent.equals assembly)

/-- The first type of a full name. -/
def findType? (g : Graph) (fullName : Value) : Option Entity :=
  (g.ofKind .type).find? fun e => e.fullName.equals fullName

/-- The namespace that holds a type. -/
def namespaceOf (g : Graph) (type : Entity) : Except Fault (Option Entity) :=
  if type.parent.isNull then .ok none
  else (g.find type.parent).map (·.filter (·.kind = .namespace))

/-- The types that list a member, with their keys. -/
def ownersOf (g : Graph) (member : Value) : Except Fault (List (Scalar × Entity)) :=
  (g.entries.filter (·.2.kind = .type)).filterM fun (_, t) => t.children.has member

end Graph

end LinkedDocs
