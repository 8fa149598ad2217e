import LinkedDocs.Config
import LinkedDocs.Graph.Basic
import LinkedDocs.Record

/-!
# Relocation of extension members

A member that extends a type is moved from the type that declares it to the type it extends. An
extended type that the graph does not have gets one placeholder, if placeholders are wanted, and
the types that lose all their members are removed.
-/

namespace LinkedDocs

/-- What a relocation has done. -/
structure Relocation where
  relocated : Nat := 0
  placeholdersCreated : Nat := 0
  namespacesCreated : Nat := 0
  containersRemoved : List Value := []
  /-- The extension members that stay where they are. -/
  skipped : List Value := []

namespace Relocation

/-- The steps of a relocation that are worth reporting. -/
inductive Event where
  | leftInPlace (typeName : Text) (member : Value)
  | placeholderCreated (typeName space : Text)
  | moved (member fullName : Value)
  | completed

/-- A relocation under way. -/
structure Pass where
  graph : Graph
  /-- The keys of the types by normalized name. -/
  types : List (Text × Scalar)
  /-- The ids of the types that have lost a member. -/
  losers : List Value := []
  result : Relocation := {}
  events : List Event := []

/-- The normalized form of a type name, which must be text. -/
def normalizedName (name : Value) : Except Fault Text :=
  (name.expectText "strip".toList).map Symbol.normalize

/-- Whether the entity is a member that extends a type. -/
def isCandidate (e : Entity) : Bool :=
  match e.detail with
  | .member _ _ isExtension extended => isExtension.holds && extended.holds
  | _ => false

/-- The keys of the members that extend a type, in order of addition. -/
def candidates (g : Graph) : List Scalar :=
  (g.entries.filter (isCandidate ·.2)).map (·.1)

/-- The types by normalized name, in order of addition. -/
def namedTypes (g : Graph) : Except Fault (List (Text × Scalar)) :=
  (g.entries.filter (·.2.kind = .type)).mapM fun (key, e) => do
    return (← normalizedName e.fullName, key)

/-- The id of the assembly of the type that holds a member, or else of the first assembly, or null if
there is none. -/
def assemblyOf (g : Graph) (member : Entity) : Except Fault Value := do
  let owner ← if member.parent.holds then g.find member.parent else pure none
  let space ← match owner.filter (·.kind = .type) with
    | some owner => g.namespaceOf owner
    | none => pure none
  match space.map (·.parent) with
  | some assembly =>
    if assembly.isNull then return first else return assembly
  | none => return first
where
  /-- The id of the first assembly. -/
  first : Value := (g.assemblies.head?.map (·.id)).getD .null

/-- An id for something documented elsewhere: the preferred one, or a fresh one if it is taken. -/
def externalId (g : Graph) (preferred : Text) : Scalar × Graph :=
  let candidate := "external:".toList ++ preferred
  if g.contains (.text candidate) then g.freshId candidate else (.text candidate, g)

/-- The id of the namespace of a name within the assembly, added if it is not there. -/
def ensureNamespace (p : Pass) (assembly : Value) (name : Text) : Pass × Except Fault Value :=
  match p.graph.findNamespace? assembly (.text name) with
  | some space => (p, .ok space.id)
  | none =>
    let (id, g) := externalId p.graph ("N:".toList ++ name)
    match g.add {
        id := .scalar id, name := .text name, detail := .namespace, parent := assembly } with
    | (g, none) =>
      let created := p.result.namespacesCreated + 1
      ({ p with graph := g, result := { p.result with namespacesCreated := created } },
        .ok (.scalar id))
    | (g, some fault) => ({ p with graph := g }, .error fault)

/-- The remark of a placeholder for a type that is documented elsewhere. -/
def placeholderRemark (config : Config) (typeName simpleName extended : Text) : Value :=
  if Symbol.isExternal typeName config.externalNamespaces then
    .text ('`' :: simpleName ++
      "` is defined outside this documentation set. See the [external documentation](".toList ++
      Symbol.externalUrl extended config.externalBase ++ ") for its full API.".toList)
  else .null

/-- Adds the placeholder for a type and answers its key. -/
def createPlaceholder (config : Config) (p : Pass) (member : Entity) (typeName extended : Text) :
    Pass × Except Fault Scalar :=
  let (spaceName, simpleName) := Symbol.splitNamespace typeName
  match assemblyOf p.graph member with
  | .error fault => (p, .error fault)
  | .ok assembly =>
    match ensureNamespace p assembly spaceName with
    | (p, .error fault) => (p, .error fault)
    | (p, .ok space) =>
      let (id, g) := externalId p.graph ("T:".toList ++ typeName)
      let placeholder : Entity := {
        id := .scalar id
        name := .text simpleName
        detail := .type (.text typeName) (.proper .classType) (.bool true)
        parent := space
        notes := { remarks := placeholderRemark config typeName simpleName extended } }
      match g.add placeholder with
      | (g, none) =>
        let created := p.result.placeholdersCreated + 1
        ({ p with
          graph := g
          types := p.types ++ [(typeName, id)]
          result := { p.result with placeholdersCreated := created }
          events := p.events ++ [.placeholderCreated typeName spaceName] }, .ok id)
      | (g, some fault) => ({ p with graph := g }, .error fault)

/-- The types other than the target that list a member, with their keys. -/
def formerOwners (g : Graph) (member : Entity) (target : Entity) :
    Except Fault (List (Scalar × Entity)) := do
  return (← g.ownersOf member.id).filter fun (_, e) => !e.id.equals target.id

/-- The member as it is after its move: its declaring type is kept, its parent is the target. -/
def rehomed (member : Entity) (target : Value) : Entity :=
  match member.detail with
  | .member kind declaring isExtension extended =>
    let declaring := if declaring.isNull then member.parent else declaring
    { member with parent := target, detail := .member kind declaring isExtension extended }
  | _ => member

/-- Appends the ids that are not there yet. -/
def appendNew (ids : List Value) : List Value → List Value
  | [] => ids
  | id :: more => appendNew (if ids.any id.same then ids else ids ++ [id]) more

/-- Takes an id from the list of a type that has it. -/
def loseMember (id : Value) (e : Entity) : Entity :=
  match e.children.items with
  | .ok items => { e with children := .list (items.filter (!·.equals id)) }
  | .error _ => e

/-- Takes an id from the lists of types. -/
def loseMembers (g : Graph) (owners : List (Scalar × Entity)) (id : Value) : Graph :=
  owners.foldl (fun g (key, _) => g.modify key (loseMember id)) g

/-- Moves a member to its target type. A member that only the target lists is left alone. -/
def place (p : Pass) (memberKey : Scalar) (member : Entity) (targetKey : Scalar)
    (target : Entity) : Pass × Option Fault :=
  match formerOwners p.graph member target, target.children.has member.id with
  | .error fault, _ => (p, some fault)
  | .ok [], .ok true => (p, none)
  | .ok [], .error fault => (p, some fault)
  | .ok owners, _ =>
    let p := { p with
      graph := loseMembers p.graph owners member.id
      losers := appendNew p.losers (owners.map (·.2.id)) }
    let listing := (p.graph.get? targetKey).getD target
    match withId listing.children member.id with
    | .error fault => (p, some fault)
    | .ok children =>
      let listed := p.graph.modify targetKey fun t => { t with children }
      ({ p with
        graph := listed.modify memberKey (rehomed · target.id)
        result := { p.result with relocated := p.result.relocated + 1 }
        events := p.events ++ [.moved member.id target.fullName] }, none)

/-- Leaves a member where it is. -/
def skip (p : Pass) (member : Entity) : Pass :=
  { p with result := { p.result with skipped := p.result.skipped ++ [member.id] } }

/-- The key of the type that a member is to be moved to, with a placeholder if need be. No target
means that the member stays. -/
def targetFor (config : Config) (p : Pass) (member : Entity) (typeName extended : Text) :
    Pass × Except Fault (Option Scalar) :=
  match p.types.lookup typeName with
  | some key => (p, .ok (some key))
  | none =>
    if config.createPlaceholders then
      match createPlaceholder config p member typeName extended with
      | (p, .ok key) => (p, .ok (some key))
      | (p, .error fault) => (p, .error fault)
    else ({ p with events := p.events ++ [.leftInPlace typeName member.id] }, .ok none)

/-- Moves one extension member. -/
def moveOne (config : Config) (p : Pass) (memberKey : Scalar) : Pass × Option Fault :=
  match p.graph.get? memberKey with
  | none => (p, none)
  | some member =>
    match member.detail with
    | .member _ _ _ extended =>
      match extended.expectText "strip".toList with
      | .error fault => (p, some fault)
      | .ok extended =>
        let typeName := Symbol.normalize extended
        if typeName = [] then (skip p member, none)
        else
          match targetFor config p member typeName extended with
          | (p, .error fault) => (p, some fault)
          | (p, .ok none) => (skip p member, none)
          | (p, .ok (some key)) =>
            match p.graph.get? key with
            | some target => place p memberKey member key target
            | none => (p, none)
    | _ => (p, none)

/-- Moves extension members one after another. -/
def moveAll (config : Config) (p : Pass) : List Scalar → Pass × Option Fault
  | [] => (p, none)
  | key :: keys =>
    match moveOne config p key with
    | (p, none) => moveAll config p keys
    | (p, some fault) => (p, some fault)

/-- Removes the types that have lost all their members. -/
def removeEmptied (p : Pass) : List Value → Pass × Option Fault
  | [] => (p, none)
  | id :: ids =>
    match p.graph.find id with
    | .error fault => (p, some fault)
    | .ok none => removeEmptied p ids
    | .ok (some e) =>
      if e.kind = .type && !e.children.holds then
        match p.graph.remove id with
        | (g, some fault) => ({ p with graph := g }, some fault)
        | (g, none) =>
          let removed := p.result.containersRemoved ++ [id]
          let result := { p.result with containersRemoved := removed }
          removeEmptied { p with graph := g, result } ids
      else removeEmptied p ids

end Relocation

/-- How a relocation ends: the graph as it has become, and what was done or what went wrong. -/
structure Relocated where
  graph : Graph
  outcome : Except Fault (Relocation × List Relocation.Event)

open Relocation in
/-- Moves every extension member to the type it extends. -/
def Graph.relocate (config : Config) (g : Graph) : Relocated :=
  match candidates g with
  | [] => ⟨g, .ok ({}, [])⟩
  | keys =>
    match namedTypes g with
    | .error fault => ⟨g, .error fault⟩
    | .ok types =>
      match moveAll config { graph := g, types } keys with
      | (p, some fault) => ⟨p.graph, .error fault⟩
      | (p, none) =>
        match removeEmptied p p.losers with
        | (p, some fault) => ⟨p.graph, .error fault⟩
        | (p, none) => ⟨p.graph, .ok (p.result, p.events ++ [.completed])⟩

end LinkedDocs
