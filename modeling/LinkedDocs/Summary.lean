import LinkedDocs.Log
import LinkedDocs.Screen.Lines
import LinkedDocs.Screen.Style
import LinkedDocs.Transform

/-!
# Summaries

A transformation is summed up as a value for other programs, as lines for people, and line by line in
the log.
-/

namespace LinkedDocs

namespace Report

/-- A map with texts as keys. -/
def record (fields : List (String × Value)) : Value :=
  .map (fields.map fun (name, v) => (.text name.toList, v))

/-- The summary for other programs. -/
def summary (r : Report) : Value :=
  record [
    ("entities_processed", .int r.processed),
    ("fields_rewritten", .int r.notesChanged),
    ("members_relocated", .int r.relocation.relocated),
    ("placeholders_created", .int r.relocation.placeholdersCreated),
    ("containers_removed", .list r.relocation.containersRemoved),
    ("references_resolved", .int r.referencesResolved),
    ("references_unresolved", .int r.referencesUnresolved),
    ("unresolved", .list (r.unresolved.map fun (id, raw) =>
      record [("entity_id", id), ("raw", .text raw)])),
    ("failures", .list (r.failures.map fun f =>
      record [("entity_id", f.entityId), ("error", .text f.error),
        ("timed_out", .bool f.timedOut)]))]

/-- What is counted, in the order of the table. -/
def counts (r : Report) : List (String × Nat) :=
  [("Entities", r.processed),
    ("Fields rewritten", r.notesChanged),
    ("Members relocated", r.relocation.relocated),
    ("Placeholders", r.relocation.placeholdersCreated),
    ("Containers removed", r.relocation.containersRemoved.length),
    ("References resolved", r.referencesResolved),
    ("References unresolved", r.referencesUnresolved),
    ("Failures", r.failures.length)]

/-- The width that names have in the table. -/
def nameWidth : Nat := 24

/-- A line of the table. -/
def countLine (name : String) (n : Nat) : Text :=
  let name := name.toList
  ' ' :: name ++ List.replicate (nameWidth - name.length) ' ' ++ Text.ofNat n

/-- The table with its title. -/
def table (r : Report) : List Text :=
  "docweave transform".toList :: r.counts.map fun (name, n) => countLine name n

/-- How many columns a screen has. -/
def screenWidth : Nat := 1000

/-- The lines that a styled text takes. -/
def styledLines (t : Text) : Except Fault (List Text) :=
  (Screen.seen t).map (Screen.lines screenWidth)

/-- A value that is to be shown as it stands, which only a text can be. -/
def escaped : Value → Except Fault Text
  | .scalar (.text t) => .ok (Screen.escape t)
  | .scalar (.bytes _) => .error .bytesNotText
  | other => .error (.notText other)

/-- The lines about one entity, which start with a word in a color. -/
def entityLines (color word : String) (id : Value) (detail : Text) : Except Fault (List Text) := do
  let id ← escaped id
  styledLines (("  [" ++ color ++ "]" ++ word ++ "[/" ++ color ++ "] ").toList ++ id ++
    ": ".toList ++ Screen.escape detail)

/-- The lines for people: the table, the references without a target, the failures. -/
def lines (r : Report) : Except Fault (List Text) := do
  let unresolved ← r.unresolved.mapM fun (id, raw) => entityLines "yellow" "unresolved" id raw
  let failed ← r.failures.mapM fun f => entityLines "red" "failed" f.entityId f.error
  return r.table ++ unresolved.flatten ++ failed.flatten

end Report

namespace Relocation

/-- Where lines about relocation come from. -/
def logSource : Text :=
  "docweave.graph.relocator".toList

/-- What is said about an event. -/
def Event.logLine (r : Relocation) : Event → Log.Line
  | .leftInPlace typeName member =>
    ⟨.debug, logSource, "Extended type ".toList ++ typeName ++ " not in graph, leaving ".toList ++
      member.toText ++ " in place".toList⟩
  | .placeholderCreated typeName space =>
    ⟨.debug, logSource, "Created placeholder type ".toList ++ typeName ++ " in namespace '".toList ++
      space ++ "'".toList⟩
  | .moved member fullName =>
    ⟨.debug, logSource, "Relocated ".toList ++ member.toText ++ " -> ".toList ++ fullName.toText⟩
  | .completed =>
    ⟨.info, logSource, "Relocated ".toList ++ Text.ofNat r.relocated ++
      " extension members (".toList ++ Text.ofNat r.placeholdersCreated ++ " placeholders, ".toList ++
      Text.ofNat r.containersRemoved.length ++ " containers removed, ".toList ++
      Text.ofNat r.skipped.length ++ " skipped)".toList⟩

end Relocation

namespace Transform

/-- Where lines about links come from. -/
def linkSource : Text :=
  "docweave.references.resolver".toList

/-- Where lines about the transformation come from. -/
def logSource : Text :=
  "docweave.pipeline".toList

/-- What is said about a symbol that was not found. -/
def missingLine (raw : Text) : Log.Line :=
  ⟨.debug, linkSource, "Unresolved symbol reference ".toList ++ raw⟩

/-- What is said about the work on an entity. -/
def Job.logLines (t : Job) : List Log.Line :=
  let id := t.entity.id.toText
  t.work.missing.map missingLine ++
    match t.work.outcome with
    | .finished _ => []
    | .failed fault =>
      [⟨.warning, logSource, "Rewrite of ".toList ++ id ++ " failed: ".toList ++ fault.message⟩]
    | .timedOut =>
      [⟨.warning, logSource,
        "Rewrite of ".toList ++ id ++ " timed out, keeping original content".toList⟩]

/-- What is said at the end. -/
def endLine (r : Report) : Log.Line :=
  ⟨.info, logSource, "Rewrote ".toList ++ Text.ofNat r.processed ++ " entities (".toList ++
    Text.ofNat r.notesChanged ++ " fields, ".toList ++ Text.ofNat r.referencesResolved ++
    " references resolved, ".toList ++ Text.ofNat r.referencesUnresolved ++
    " unresolved, ".toList ++ Text.ofNat r.failures.length ++ " failures)".toList⟩

/-- What is said about a transformation. -/
def Trace.logLines (r : Report) (t : Trace) : List Log.Line :=
  let size := Text.ofNat t.indexSize
  t.relocation.map (·.logLine r.relocation) ++
    [⟨.debug, linkSource, "Built reference index with ".toList ++ size ++ " keys".toList⟩,
      ⟨.info, logSource, "Indexed ".toList ++ size ++ " reference keys".toList⟩] ++
    t.jobs.flatMap (·.logLines) ++ [endLine r]

end Transform

end LinkedDocs
