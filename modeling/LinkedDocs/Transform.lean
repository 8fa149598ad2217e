import LinkedDocs.Graph.Relocation
import LinkedDocs.Graph.Walk
import LinkedDocs.Wait

/-!
# Transforming a graph

Extension members are relocated, the link index is built over the graph as it then is, and every
entity that can be reached is revised. An entity whose revision fails keeps its content and is
reported; the others are not affected. If the work on an entity never ends, neither does the
transformation: all work has to be over before it returns.
-/

namespace LinkedDocs

/-- An entity that kept its content, and why. -/
structure Failure where
  entityId : Value
  error : Text
  timedOut : Bool := false

/-- What a transformation has done. -/
structure Report where
  relocation : Relocation := {}
  processed : Nat := 0
  notesChanged : Nat := 0
  referencesResolved : Nat := 0
  referencesUnresolved : Nat := 0
  /-- The references without a target, each with the entity that has it. -/
  unresolved : List (Value × Text) := []
  failures : List Failure := []

namespace Report

def isOk (r : Report) : Bool :=
  r.failures.isEmpty

/-- Counts one reference of an entity. -/
def count (r : Report) (id : Value) (raw : Text) (resolved : Bool) : Report :=
  if resolved then { r with referencesResolved := r.referencesResolved + 1 }
  else { r with
    referencesUnresolved := r.referencesUnresolved + 1
    unresolved := r.unresolved ++ [(id, raw)] }

/-- Counts a revision that has been put into its entity. -/
def addRevision (r : Report) (id : Value) (revision : Revision) : Report :=
  let r := { r with
    processed := r.processed + 1
    notesChanged := r.notesChanged + revision.notes.length }
  let r := revision.resolutions.foldl (fun r x => r.count id x.raw x.isResolved) r
  revision.references.foldl (fun r x => r.count id x.raw.toText x.isResolved) r

/-- Notes a failure. -/
def addFailure (r : Report) (failure : Failure) : Report :=
  { r with failures := r.failures ++ [failure] }

end Report

/-- The report of a fault in one entity. -/
def Failure.ofFault (id : Value) (fault : Fault) : Failure :=
  ⟨id, fault.label ++ ": ".toList ++ fault.message, false⟩

/-- The report of work that took too long. -/
def Failure.ofTimeout (id : Value) (timeout : Option Double) : Failure :=
  let seconds := match timeout with
    | some x => x.text
    | none => "None".toList
  ⟨id, "timed out after ".toList ++ seconds ++ "s".toList, true⟩

namespace Transform

/-- The work done on one entity, which the graph holds under a key. -/
structure Job where
  key : Scalar
  entity : Entity
  work : Work

/-- Puts the result of a job into the graph and the report. -/
def applyOne (timeout : Option Double) (state : Graph × Report) (job : Job) : Graph × Report :=
  let (g, report) := state
  let id := job.entity.id
  match job.work.outcome with
  | .finished revision => (g.modify job.key revision.apply, report.addRevision id revision)
  | .failed fault => (g, report.addFailure (.ofFault id fault))
  | .timedOut => (g, report.addFailure (.ofTimeout id timeout))

/-- Applies the results of jobs one after another. -/
def applyAll (timeout : Option Double) (state : Graph × Report) (jobs : List Job) :
    Graph × Report :=
  jobs.foldl (applyOne timeout) state

/-- What happened during a transformation, beyond its report. -/
structure Trace where
  relocation : List Relocation.Event
  indexSize : Nat
  /-- The work done on the entities, in order. -/
  jobs : List Job

/-- How a transformation ends: the graph as it has become, and what was done or what went wrong. -/
structure Outcome where
  graph : Graph
  result : Except Fault (Report × Trace)

/-! ## Before the work -/

/-- What is there before the work on the entities begins. -/
structure Stage where
  graph : Graph
  relocation : Relocation
  events : List Relocation.Event
  resolver : Resolver
  /-- The entities to be worked on, with their keys. -/
  walk : List (Scalar × Entity)

/-- Relocates, builds the index and walks the graph. A fault comes with the graph as it has
become. -/
def prepare (config : Config) (g : Graph) : Except (Graph × Fault) Stage :=
  match g.relocate config with
  | ⟨g, .error fault⟩ => .error (g, fault)
  | ⟨g, .ok (relocation, events)⟩ =>
    match Resolver.ofGraph g config with
    | .error fault => .error (g, fault)
    | .ok resolver =>
      match g.visits with
      | .error fault => .error (g, fault)
      | .ok walk => .ok ⟨g, relocation, events, resolver, walk⟩

namespace Stage

/-- The graph and the report before the first result is applied. -/
def start (st : Stage) : Graph × Report :=
  (st.graph, { relocation := st.relocation })

/-- The work on all entities, if all of it ends. -/
def jobs? (st : Stage) (worker : Resolver → Entity → Option Work) : Option (List Job) :=
  st.walk.mapM fun (key, e) => (worker st.resolver e).map (⟨key, e, ·⟩)

/-- How a transformation ends once all work is over. -/
def complete (st : Stage) (timeout : Option Double) (jobs : List Job) : Outcome :=
  let (graph, report) := applyAll timeout st.start jobs
  ⟨graph, .ok (report, { relocation := st.events, indexSize := st.resolver.index.size, jobs })⟩

end Stage

/-! ## The whole -/

/-- Transforms a graph, with `worker` answering what the work on each entity comes to. There is no
outcome if some of it never ends. -/
def runWith (worker : Resolver → Entity → Option Work) (config : Config) (g : Graph) :
    Option Outcome :=
  match prepare config g with
  | .error (g, fault) => some ⟨g, .error fault⟩
  | .ok st => (st.jobs? worker).map (st.complete config.timeout)

/-- Revises an entity and waits for it. -/
def reviseWithin (timeout : Option Double) (standing : Entity → Standing) (resolver : Resolver)
    (e : Entity) : Option Work :=
  (e.revise resolver).map (·.collect timeout (standing e))

/-- Transforms a graph. How the work on an entity stands when its result is asked for is up to the
scheduler. -/
def run (standing : Entity → Standing) (config : Config) (g : Graph) : Option Outcome :=
  runWith (reviseWithin config.timeout standing) config g

end Transform

end LinkedDocs
