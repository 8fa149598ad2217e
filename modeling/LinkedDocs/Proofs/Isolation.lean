import Mathlib.Algebra.GroupWithZero.Nat
import LinkedDocs.Proofs.Phases
import LinkedDocs.Proofs.Postings

/-!
# Failures are isolated

Any choice of entities may have work that raises a fault or hangs. Main statement: beside the run in
which nothing goes wrong with them, the graph differs in these entities only, which keep what they
had after the relocation, and the report counts the others and lists what went wrong. One more thing
goes wrong than these mishaps: a limit that is longer than the clock can wait for makes a failure of
every entity whose work is still under way when its result is asked for.
-/

namespace LinkedDocs

/-! ### Shape -/

/-- The entity without the content that a revision can change. -/
def Entity.bare (e : Entity) : Entity :=
  { e with notes := {}, references := .proper [], exceptions := .proper [] }

lemma Work.bare_change (work : Work) (e : Entity) : (work.change e).bare = e.bare := by
  unfold Work.change
  split <;> rfl

namespace Graph

/-- The graph without the content of its entities. -/
def shape (g : Graph) : Graph :=
  g.mapEntries fun _ e => e.bare

lemma shape_modify (g : Graph) (k : Scalar) {u : Entity → Entity} (h : ∀ e, (u e).bare = e.bare) :
    (g.modify k u).shape = g.shape := by
  rw [modify_eq_mapEntries, shape, mapEntries_mapEntries]
  refine mapEntries_congr fun j e _ => ?_
  split
  · exact h e
  · rfl

end Graph

/-! ### Counts -/

/-- The references that a revision has met, and whether they have a target. -/
def Revision.met (revision : Revision) : List (Text × Bool) :=
  (revision.resolutions.map fun x => (x.raw, x.isResolved)) ++
    revision.references.map fun x => (x.raw.toText, x.isResolved)

/-- The number of references with a target. -/
def Revision.resolvedCount (revision : Revision) : Nat :=
  revision.met.countP (·.2)

/-- The references without a target. -/
def Revision.unresolved (revision : Revision) : List Text :=
  (revision.met.filter (!·.2)).map (·.1)

/-- The report with the counts of revised entities added. -/
def Report.addAll (r : Report) (revised : List (Value × Revision)) : Report :=
  { r with
    processed := r.processed + revised.length
    notesChanged := r.notesChanged + (revised.map (·.2.notes.length)).sum
    referencesResolved := r.referencesResolved + (revised.map (·.2.resolvedCount)).sum
    referencesUnresolved := r.referencesUnresolved + (revised.map (·.2.unresolved.length)).sum
    unresolved := r.unresolved ++ revised.flatMap fun y => y.2.unresolved.map (y.1, ·) }

namespace Report

variable {r : Report} {id : Value} {revision : Revision}

lemma foldl_count (met : List (Text × Bool)) :
    met.foldl (fun r x => r.count id x.1 x.2) r =
      { r with
        referencesResolved := r.referencesResolved + met.countP (·.2)
        referencesUnresolved := r.referencesUnresolved + (met.filter (!·.2)).length
        unresolved := r.unresolved ++ (met.filter (!·.2)).map fun x => (id, x.1) } := by
  induction met generalizing r with
  | nil => simp
  | cons x met ih =>
    obtain ⟨raw, resolved⟩ := x
    rw [List.foldl_cons, ih]
    cases resolved <;> simp [count, Nat.add_assoc, Nat.add_comm 1]

lemma addRevision_eq : r.addRevision id revision = r.addAll [(id, revision)] := by
  have hmet (r : Report) : revision.references.foldl
      (fun r x => r.count id x.raw.toText x.isResolved)
      (revision.resolutions.foldl (fun r x => r.count id x.raw x.isResolved) r) =
        revision.met.foldl (fun r x => r.count id x.1 x.2) r := by
    simp [Revision.met, List.foldl_append, List.foldl_map]
  rw [addRevision, hmet, foldl_count]
  simp [addAll, Revision.resolvedCount, Revision.unresolved]

lemma addAll_append (first second : List (Value × Revision)) :
    r.addAll (first ++ second) = (r.addAll first).addAll second := by
  simp [addAll, Nat.add_assoc]

end Report

namespace Transform

open LinkedDocs.Graph Relocation

/-! ### The report of finished and of failed jobs -/

/-- The new content that a job has for its entity. -/
def Job.revised? (job : Job) : Option (Value × Revision) :=
  match job.work.outcome with
  | .finished revision => some (job.entity.id, revision)
  | _ => none

/-- What went wrong with a job. -/
def Job.failure? (timeout : Option Double) (job : Job) : Option Failure :=
  match job.work.outcome with
  | .finished _ => none
  | .failed fault => some (.ofFault job.entity.id fault)
  | .timedOut => some (.ofTimeout job.entity.id timeout)

variable {timeout : Option Double} {state : Graph × Report}

lemma applyOne_snd (job : Job) : (applyOne timeout state job).2 =
    { state.2.addAll job.revised?.toList with
      failures := state.2.failures ++ (job.failure? timeout).toList } := by
  obtain ⟨g, r⟩ := state
  unfold applyOne Job.revised? Job.failure?
  cases job.work.outcome with
  | finished revision =>
    dsimp only
    rw [Report.addRevision_eq]
    simp [Report.addAll]
  | failed fault => simp [Report.addFailure, Report.addAll]
  | timedOut => simp [Report.addFailure, Report.addAll]

lemma applyAll_snd (jobs : List Job) : (applyAll timeout state jobs).2 =
    { state.2.addAll (jobs.filterMap Job.revised?) with
      failures := state.2.failures ++ jobs.filterMap (Job.failure? timeout) } := by
  induction jobs generalizing state with
  | nil => simp [applyAll, Report.addAll]
  | cons job jobs ih =>
    have hcons {β : Type} (f : Job → Option β) :
        (job :: jobs).filterMap f = (f job).toList ++ jobs.filterMap f := by
      cases h : f job <;> simp [h]
    refine (@ih (applyOne timeout state job)).trans ?_
    rw [applyOne_snd, hcons, hcons, Report.addAll_append, ← List.append_assoc]
    rfl

lemma shape_applyAll (jobs : List Job) :
    (applyAll timeout state jobs).1.shape = state.1.shape := by
  induction jobs generalizing state with
  | nil => rfl
  | cons job jobs ih =>
    refine (@ih (applyOne timeout state job)).trans ?_
    rw [applyOne_fst, shape_modify _ _ job.work.bare_change]

/-! ### Mishaps -/

/-- What can go wrong with the work on an entity. -/
inductive Mishap where
  | raises (fault : Fault)
  | hangs

namespace Mishap

def outcome : Mishap → WorkOutcome
  | .raises fault => .failed fault
  | .hangs => .timedOut

/-- What the report says of a mishap: only work that hangs has timed out. -/
def failure (timeout : Option Double) (id : Value) : Mishap → Failure
  | .raises fault => ⟨id, fault.label ++ ": ".toList ++ fault.message, false⟩
  | .hangs => ⟨id, "timed out after ".toList ++ (timeout.map Double.text).getD "None".toList ++
      "s".toList, true⟩

end Mishap

/-- What happens to the work on the entities, whatever is in them: some of it raises a fault, and
each stands somehow when its result is asked for. -/
structure Course where
  raised : Entity → Option Fault
  standing : Entity → Standing

/-- Revises an entity and waits for it, in the course of things. -/
def disturb (timeout : Option Double) (course : Course) (resolver : Resolver) (e : Entity) :
    Option Work :=
  let work? : Option Work := match course.raised e with
    | some fault => some ⟨.failed fault, []⟩
    | none => e.revise resolver
  work?.map (·.collect timeout (course.standing e))

namespace Course

/-- The mishap to an entity: its work takes longer than the limit or raises a fault. -/
def mishap? (course : Course) (timeout : Option Double) (e : Entity) : Option Mishap :=
  if (course.standing e).isLate timeout then some .hangs else (course.raised e).map .raises

/-- What goes wrong with an entity: the wait for it is refused, it has a mishap, or its own revision
fails. -/
def harm? (course : Course) (timeout : Option Double) (resolver : Resolver) (e : Entity) :
    Option Mishap :=
  if (course.standing e).isRefused timeout then some (.raises .longWait)
  else
    match course.mishap? timeout e, e.outcome? resolver with
    | some m, _ => some m
    | none, some (.failed fault) => some (.raises fault)
    | none, _ => none

end Course

namespace Stage

variable (timeout : Option Double) (st : Stage) (course : Course)

/-- The entities with which something goes wrong. -/
def harmed : List (Entity × Mishap) :=
  st.walk.filterMap fun (_, e) => (course.harm? timeout st.resolver e).map (e, ·)

/-- The other entities, each with its revision. -/
def unharmed : List (Entity × Revision) :=
  st.walk.filterMap fun (_, e) =>
    match course.harm? timeout st.resolver e, e.outcome? st.resolver with
    | none, some (.finished revision) => some (e, revision)
    | _, _ => none

/-- Whether the revision of some entity goes on for ever, with no fault to break it off. -/
def Endless : Prop :=
  ∃ y ∈ st.walk, course.raised y.2 = none ∧ y.2.revise st.resolver = none

instance : Decidable (st.Endless course) :=
  inferInstanceAs (Decidable (∃ y ∈ st.walk, _ ∧ _))

end Stage

/-- What a run in the course of things leaves and reports. -/
structure Isolated (timeout : Option Double) (st : Stage) (course : Course)
    (final : Graph × Report) : Prop where
  /-- An entity with which something goes wrong is what it was after the relocation. -/
  kept : ∀ y ∈ st.walk, (course.harm? timeout st.resolver y.2).isSome →
    st.graph.get? y.1 = some y.2 ∧ final.1.get? y.1 = some y.2
  failures : final.2.failures =
    (st.harmed timeout course).map fun y => y.2.failure timeout y.1.id
  total : final.2.processed + final.2.failures.length = st.walk.length
  processed : final.2.processed = (st.unharmed timeout course).length
  notesChanged : final.2.notesChanged =
    ((st.unharmed timeout course).map (·.2.notes.length)).sum
  referencesResolved : final.2.referencesResolved =
    ((st.unharmed timeout course).map (·.2.resolvedCount)).sum
  referencesUnresolved : final.2.referencesUnresolved =
    ((st.unharmed timeout course).map (·.2.unresolved.length)).sum
  unresolved : final.2.unresolved =
    (st.unharmed timeout course).flatMap fun y => y.2.unresolved.map (y.1.id, ·)
  unresolved_length : final.2.unresolved.length = final.2.referencesUnresolved
  relocation : final.2.relocation = st.relocation

lemma outcome?_ne_timedOut (resolver : Resolver) (e : Entity) :
    e.outcome? resolver ≠ some .timedOut := by
  have hcause (cause : NoResult) (missing : List Text) :
      (cause.work? missing).map (·.outcome) ≠ some .timedOut := by
    cases cause <;> simp [NoResult.work?]
  have hofExcept (r : Except Fault Revision) : WorkOutcome.ofExcept r ≠ .timedOut := by
    cases r <;> simp [WorkOutcome.ofExcept]
  unfold Entity.outcome? Entity.revise
  split
  · exact hcause _ _
  · split
    · simp
    · split
      · exact hcause _ _
      · dsimp only
        split
        · simp
        · simpa using hofExcept _

section Course

variable {course : Course} {resolver : Resolver} {e : Entity}

/-- Work that ends has come to harm, or has finished the revision. -/
lemma disturb_cases {work : Work} (h : disturb timeout course resolver e = some work) :
    (∃ m, course.harm? timeout resolver e = some m ∧ work.outcome = m.outcome) ∨
      ∃ revision, course.harm? timeout resolver e = none ∧
        e.outcome? resolver = some (.finished revision) ∧ work.outcome = .finished revision := by
  obtain ⟨work, hwork, rfl⟩ := Option.map_eq_some_iff.1 h
  unfold Work.collect Course.harm? Course.mishap?
  by_cases hrefused : (course.standing e).isRefused timeout = true
  · exact .inl ⟨.raises .longWait, by simp [hrefused], by simp [hrefused, Mishap.outcome]⟩
  by_cases hlate : (course.standing e).isLate timeout = true
  · exact .inl ⟨.hangs, by simp [hrefused, hlate], by simp [hrefused, hlate, Mishap.outcome]⟩
  cases hraised : course.raised e with
  | some fault =>
    rw [hraised] at hwork
    obtain rfl := Option.some.inj hwork
    exact .inl ⟨.raises fault, by simp [hrefused, hlate], by simp [hrefused, hlate, Mishap.outcome]⟩
  | none =>
    rw [hraised] at hwork
    have houtcome : e.outcome? resolver = some work.outcome := congrArg (Option.map _) hwork
    cases hkind : work.outcome with
    | finished revision =>
      rw [hkind] at houtcome
      exact .inr ⟨revision, by simp [hrefused, hlate, houtcome], houtcome,
        by simp [hrefused, hlate, hkind]⟩
    | failed fault =>
      rw [hkind] at houtcome
      exact .inl ⟨.raises fault, by simp [hrefused, hlate, houtcome],
        by simp [hrefused, hlate, hkind, Mishap.outcome]⟩
    | timedOut =>
      rw [hkind] at houtcome
      exact absurd houtcome (outcome?_ne_timedOut resolver e)

lemma disturb_eq_none : disturb timeout course resolver e = none ↔
    course.raised e = none ∧ e.revise resolver = none := by
  unfold disturb
  cases course.raised e <;> simp

end Course

/-! ### What becomes of all -/

/-- Each job has a revision or a failure. -/
lemma length_revised_add_failures (timeout : Option Double) (jobs : List Job) :
    (jobs.filterMap Job.revised?).length + (jobs.filterMap (Job.failure? timeout)).length =
      jobs.length := by
  induction jobs with
  | nil => rfl
  | cons job jobs ih =>
    cases houtcome : job.work.outcome <;>
      simp [Job.revised?, Job.failure?, houtcome, ← ih] <;> omega

variable {g : Graph} {config : Config} {st : Stage} {course : Course}
  {works : Resolver → Entity → Work}

lemma filterMap_failure? (hends : st.Ends (disturb timeout course) works) :
    (st.jobs works).filterMap (Job.failure? timeout) =
      (st.harmed timeout course).map fun y => y.2.failure timeout y.1.id := by
  rw [Stage.jobs, Stage.harmed, List.filterMap_map, List.map_filterMap]
  refine List.filterMap_congr ?_
  rintro ⟨k, e⟩ he
  simp only [Function.comp_apply, Job.failure?]
  rcases disturb_cases (hends _ he) with ⟨m, hm, houtcome⟩ | ⟨revision, hnone, -, houtcome⟩
  · rw [houtcome, hm]
    cases m <;> cases timeout <;> rfl
  · rw [houtcome, hnone]
    rfl

lemma filterMap_revised? (hends : st.Ends (disturb timeout course) works) :
    (st.jobs works).filterMap Job.revised? =
      (st.unharmed timeout course).map fun y => (y.1.id, y.2) := by
  rw [Stage.jobs, Stage.unharmed, List.filterMap_map, List.map_filterMap]
  refine List.filterMap_congr ?_
  rintro ⟨k, e⟩ he
  simp only [Function.comp_apply, Job.revised?]
  rcases disturb_cases (hends _ he) with ⟨m, hm, houtcome⟩ | ⟨revision, hnone, hfinished, houtcome⟩
  · rw [houtcome, hm]
    cases m <;> rfl
  · rw [houtcome, hnone, hfinished]
    rfl

lemma get?_finish (hkeyed : g.Keyed) (hst : prepare config g = .ok st)
    (works : Resolver → Entity → Work) (k : Scalar) :
    (st.finish works timeout).1.get? k = (st.graph.get? k).map fun e =>
      match st.walk.find? (·.1.same k) with
      | some y => (works st.resolver y.2).change e
      | none => e := by
  rw [Stage.finish, get?_applyAll (jobs_distinct hkeyed hst works)]
  have hfind : (st.jobs works).find? (·.key.same k) =
      (st.walk.find? (·.1.same k)).map fun y => ⟨y.1, y.2, works st.resolver y.2⟩ := by
    rw [Stage.jobs, List.find?_map]
    rfl
  refine congrArg (Option.map · (st.graph.get? k)) ?_
  funext e
  rw [changeAt, hfind]
  cases st.walk.find? (·.1.same k) <;> rfl

/-- An entity of the walk is changed by its own work only. -/
lemma get?_finish_of_mem (hkeyed : g.Keyed) (hst : prepare config g = .ok st)
    (works : Resolver → Entity → Work) {y : Scalar × Entity} (hy : y ∈ st.walk) :
    (st.finish works timeout).1.get? y.1 = some ((works st.resolver y.2).change y.2) := by
  rw [get?_finish hkeyed hst, get?_of_mem_walk hst hy, Option.map_some]
  cases hfind : st.walk.find? (·.1.same y.1) with
  | none =>
    have hself := List.find?_eq_none.1 hfind y hy
    simp at hself
  | some z =>
    have hz := get?_of_mem_walk hst (List.mem_of_find?_eq_some hfind)
    have hsame : z.1.same y.1 = true := by simpa using List.find?_some hfind
    rw [get?_congr hsame, get?_of_mem_walk hst hy] at hz
    rw [Option.some.inj hz]

lemma isolated_finish (hkeyed : g.Keyed) (hst : prepare config g = .ok st)
    (hends : st.Ends (disturb timeout course) works) :
    Isolated timeout st course (st.finish works timeout) := by
  have hreport : (st.finish works timeout).2 = _ := applyAll_snd _
  have htotal := length_revised_add_failures timeout (st.jobs works)
  rw [filterMap_failure? hends, filterMap_revised? hends] at hreport htotal
  constructor
  case kept =>
    intro y hy hharm
    refine ⟨get?_of_mem_walk hst hy, ?_⟩
    rw [get?_finish_of_mem hkeyed hst _ hy]
    rcases disturb_cases (hends y hy) with ⟨m, -, houtcome⟩ | ⟨revision, hnone, -⟩
    · cases m <;> simp [Work.change, houtcome, Mishap.outcome]
    · simp [hnone] at hharm
  case total =>
    rw [hreport]
    simpa [Report.addAll, Stage.start, Stage.jobs] using htotal
  all_goals simp [hreport, Report.addAll, Stage.start, List.flatMap_map, Function.comp_def]

/-- In the course of things a run ends, unless some revision is endless. -/
lemma runWith_disturb_cases (hst : prepare config g = .ok st) (course : Course) :
    st.Endless course ∧ runWith (disturb config.timeout course) config g = none ∨
      ¬st.Endless course ∧ ∃ works, st.Ends (disturb config.timeout course) works ∧
        runWith (disturb config.timeout course) config g =
          some ⟨(st.finish works config.timeout).1, .ok ((st.finish works config.timeout).2,
            ⟨st.events, st.resolver.index.size, st.jobs works⟩)⟩ := by
  rcases st.ends_or (disturb config.timeout course) with ⟨y, hy, hnone⟩ | ⟨works, hends⟩
  · exact .inl ⟨⟨y, hy, disturb_eq_none.1 hnone⟩, runWith_eq_none hst hy hnone⟩
  · refine .inr ⟨?_, works, hends, runWith_of_ends hst hends⟩
    rintro ⟨y, hy, hendless⟩
    have hnone := hends y hy
    rw [disturb_eq_none.2 hendless] at hnone
    cases hnone

end Transform

end LinkedDocs
