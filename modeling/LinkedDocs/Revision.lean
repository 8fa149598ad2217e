import LinkedDocs.Markup.Render

/-!
# Revising an entity

What becomes of the content of an entity: its notes and the descriptions of its exceptions are
rendered, and its references are resolved. The entity itself is only read.
-/

namespace LinkedDocs

/-- The new content of an entity. -/
structure Revision where
  /-- The notes that change. -/
  notes : List (Slot × Value) := []
  exceptions : List Thrown := []
  references : List Reference := []
  /-- The references met in notes and descriptions, in order. -/
  resolutions : List Resolution := []

namespace Revision

open Text

/-- A note rendered; null and blank bytes stay, and anything else but text is a fault. -/
def renderNote (resolver : Resolver) : Value → Except NoResult Value × List Resolution
  | .scalar .null => (.ok .null, [])
  | .scalar (.text t) =>
    let r := Markup.render resolver t
    (r.text.map .text, r.resolutions)
  | .scalar (.bytes bs) =>
    (if bs.all isBlankByte then .ok (.scalar (.bytes bs)) else .error (.fault .bytesNotText), [])
  | other => (.error (.fault (.lacks other "strip".toList)), [])

/-- The notes in the slots that change, and the references met up to the first fault. -/
def reviseNotes (resolver : Resolver) (notes : Notes) :
    List Slot → Except NoResult (List (Slot × Value)) × List Resolution
  | [] => (.ok [], [])
  | slot :: slots =>
    match renderNote resolver (notes.get slot) with
    | (.error cause, met) => (.error cause, met)
    | (.ok rendered, met) =>
      let (rest, more) := reviseNotes resolver notes slots
      let change := if rendered.same (notes.get slot) then [] else [(slot, rendered)]
      (rest.map (change ++ ·), met ++ more)

/-- The exceptions with their descriptions rendered. -/
def reviseExceptions (resolver : Resolver) :
    List Thrown → Except NoResult (List Thrown) × List Resolution
  | [] => (.ok [], [])
  | thrown :: more =>
    match renderNote resolver thrown.description with
    | (.error cause, met) => (.error cause, met)
    | (.ok rendered, met) =>
      let (rest, met') := reviseExceptions resolver more
      (rest.map (⟨thrown.type, rendered⟩ :: ·), met ++ met')

/-- The references resolved, up to the first fault. -/
def reviseReferences (resolver : Resolver) :
    List Reference → Except Fault (List Reference) × List Reference
  | [] => (.ok [], [])
  | r :: more =>
    match resolver.resolveRecord r with
    | .error fault => (.error fault, [])
    | .ok resolved =>
      let (rest, met) := reviseReferences resolver more
      (rest.map (resolved :: ·), resolved :: met)

/-- The symbol of an unresolved reference. -/
def missingSymbol? (raw : Text) (kind : ReferenceKind) (state : ResolutionState) : Option Text :=
  if kind = .internalSymbol && state = .unresolved && !isBlankText raw then some (strip raw)
  else none

def missingIn (met : List Resolution) : List Text :=
  met.filterMap fun r => missingSymbol? r.raw r.kind r.state

def missingInRecords (met : List Reference) : List Text :=
  met.filterMap fun r => r.kind.bind fun kind => r.state.bind (missingSymbol? r.raw.toText kind)

/-- The records in a field. Anything else in its place lacks what the records have, if it has
items. -/
def recordsIn {α : Type} (part : String) : Loose (List α) → Except Fault (List α)
  | .proper records => .ok records
  | .stray v => do
    match ← v.items with
    | item :: _ => .error (.lacks item part.toList)
    | [] => return []

end Revision

/-- How work on an entity ends, for the one who waits for it. -/
inductive WorkOutcome where
  | finished (revision : Revision)
  | failed (fault : Fault)
  | timedOut

/-- The work on an entity: how it ended, and the symbols that were found to be missing. -/
structure Work where
  outcome : WorkOutcome
  missing : List Text := []

/-- Work that ends with a revision or a fault. -/
def WorkOutcome.ofExcept : Except Fault Revision → WorkOutcome
  | .ok revision => .finished revision
  | .error fault => .failed fault

/-- Work that ends for want of a result. Where there is no end, there is no work to speak of. -/
def NoResult.work? (missing : List Text) : NoResult → Option Work
  | .fault cause => some ⟨.failed cause, missing⟩
  | .endless => none

open Revision in
/-- Revises an entity: notes in the order of their slots, then exceptions, then references. The
answer is `none` if that never ends. -/
def Entity.revise (resolver : Resolver) (e : Entity) : Option Work :=
  match reviseNotes resolver e.notes Slot.all with
  | (.error cause, met) => cause.work? (missingIn met)
  | (.ok notes, met) =>
    match recordsIn "type_name" e.exceptions with
    | .error fault => some ⟨.failed fault, missingIn met⟩
    | .ok exceptions =>
      match reviseExceptions resolver exceptions with
      | (.error cause, met') => cause.work? (missingIn (met ++ met'))
      | (.ok exceptions, met') =>
        let resolutions := met ++ met'
        match recordsIn "raw" e.references with
        | .error fault => some ⟨.failed fault, missingIn resolutions⟩
        | .ok references =>
          let (references, records) := reviseReferences resolver references
          some ⟨.ofExcept (references.map fun references =>
              { notes, exceptions, references, resolutions }),
            missingIn resolutions ++ missingInRecords records⟩

/-- Puts the new content into an entity. -/
def Revision.apply (r : Revision) (e : Entity) : Entity :=
  { e with
    notes := r.notes.foldl (fun notes (slot, v) => notes.set slot v) e.notes
    exceptions := .proper r.exceptions
    references := .proper r.references }

end LinkedDocs
