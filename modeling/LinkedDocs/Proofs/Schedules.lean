import Mathlib.Data.List.Induction
import LinkedDocs.Proofs.Phases

/-!
# Schedules of the work on the entities

The entities are worked on in any order and at any time, while the results that are there already
are put into the graph in the order of the walk. Each piece of work reads its entity from the graph
as it is at that moment. Main statement: whatever the schedule, the graph and the report become what
they become when one entity after another is worked on and put back.
-/

namespace LinkedDocs.Transform

open LinkedDocs.Graph

/-- A step of the work on a walk: the entity at a place is worked on, or its result is put into the
graph. -/
inductive Step where
  | work (i : Nat)
  | apply (i : Nat)
deriving DecidableEq, Repr

namespace Step

def worked? : Step → Option Nat
  | .work i => some i
  | .apply _ => none

def applied? : Step → Option Nat
  | .work _ => none
  | .apply i => some i

lemma mem_works {i : Nat} {steps : List Step} : i ∈ steps.filterMap worked? ↔ .work i ∈ steps := by
  rw [List.mem_filterMap]
  constructor
  · rintro ⟨step, hstep, h⟩
    cases step <;> simp_all [worked?]
  · exact fun h => ⟨_, h, rfl⟩

lemma mem_applies {i : Nat} {steps : List Step} :
    i ∈ steps.filterMap applied? ↔ .apply i ∈ steps := by
  rw [List.mem_filterMap]
  constructor
  · rintro ⟨step, hstep, h⟩
    cases step <;> simp_all [applied?]
  · exact fun h => ⟨_, h, rfl⟩

end Step

/-! ### Running a schedule -/

/-- The work on a walk, part of it done. -/
structure Progress where
  graph : Graph
  report : Report
  /-- The results that are there, by the place of their entity in the walk. -/
  results : List (Nat × Work)

namespace Progress

def start (st : Stage) : Progress :=
  ⟨st.start.1, st.start.2, []⟩

/-- Takes a step. Work reads the entity from the graph as it is now; nothing can be put into the
graph before it is there. -/
def step (st : Stage) (worker : Resolver → Entity → Work) (timeout : Option Double)
    (p : Progress) : Step → Option Progress
  | .work i => do
    let (key, _) ← st.walk[i]?
    let e ← p.graph.get? key
    return { p with results := (i, worker st.resolver e) :: p.results }
  | .apply i => do
    let (key, e) ← st.walk[i]?
    let work ← p.results.lookup i
    let (graph, report) := applyOne timeout (p.graph, p.report) ⟨key, e, work⟩
    return { p with graph, report }

/-- Takes the steps of a schedule. -/
def execute (st : Stage) (worker : Resolver → Entity → Work) (timeout : Option Double)
    (schedule : List Step) : Option Progress :=
  schedule.foldlM (step st worker timeout) (start st)

end Progress

/-- Every entity is worked on once, at any time, and the results are put into the graph in order,
each after it is there. -/
structure IsInterleaving (n : Nat) (schedule : List Step) : Prop where
  works : (schedule.filterMap Step.worked?).Perm (List.range n)
  applies : schedule.filterMap Step.applied? = List.range n
  after : ∀ i < n, schedule.idxOf (.work i) < schedule.idxOf (.apply i)

/-- The schedule that works on one entity after another. -/
def inOrder (n : Nat) : List Step :=
  (List.range n).flatMap fun i => [.work i, .apply i]

lemma inOrder_succ (n : Nat) : inOrder (n + 1) = inOrder n ++ [.work n, .apply n] := by
  simp [inOrder, List.range_succ]

lemma isInterleaving_inOrder (n : Nat) : IsInterleaving n (inOrder n) := by
  induction n with
  | zero => exact ⟨.refl _, rfl, by simp⟩
  | succ n ih =>
    have hworks : Step.work n ∉ inOrder n := by
      simp [← Step.mem_works, ih.works.mem_iff]
    have happlies : Step.apply n ∉ inOrder n := by
      simp [← Step.mem_applies, ih.applies]
    refine ⟨?_, ?_, ?_⟩
    · rw [inOrder_succ, List.filterMap_append, List.range_succ]
      exact ih.works.append_right _
    · rw [inOrder_succ, List.filterMap_append, List.range_succ, ih.applies]
      rfl
    · intro i hi
      rw [inOrder_succ]
      rcases Nat.lt_succ_iff_lt_or_eq.1 hi with hi | rfl
      · have hw : Step.work i ∈ inOrder n := by
          simpa [← Step.mem_works, ih.works.mem_iff] using hi
        have ha : Step.apply i ∈ inOrder n := by
          simpa [← Step.mem_applies, ih.applies] using hi
        rw [List.idxOf_append_of_mem hw, List.idxOf_append_of_mem ha]
        exact ih.after i hi
      · rw [List.idxOf_append_of_notMem hworks, List.idxOf_append_of_notMem happlies]
        simp

/-- The schedule that works on the last entity first, and puts nothing into the graph before all
results are there. -/
def lastFirst (n : Nat) : List Step :=
  (List.range n).reverse.map .work ++ (List.range n).map .apply

lemma isInterleaving_lastFirst (n : Nat) : IsInterleaving n (lastFirst n) := by
  refine ⟨?_, ?_, ?_⟩
  · have hworks : (lastFirst n).filterMap Step.worked? = (List.range n).reverse := by
      simp [lastFirst, List.filterMap_map, Function.comp_def, Step.worked?]
    rw [hworks]
    exact List.reverse_perm _
  · simp [lastFirst, List.filterMap_map, Function.comp_def, Step.applied?]
  · intro i hi
    have hw : Step.work i ∈ (List.range n).reverse.map Step.work := by simpa using hi
    have ha : Step.apply i ∉ (List.range n).reverse.map Step.work := by simp
    rw [lastFirst, List.idxOf_append_of_mem hw, List.idxOf_append_of_notMem ha]
    have := List.idxOf_lt_length_iff.2 hw
    omega

namespace IsInterleaving

variable {n i : Nat} {schedule before rest : List Step}

/-- What is put into the graph comes next in the walk, and its result is there. -/
lemma of_apply (h : IsInterleaving n schedule) (hcut : schedule = before ++ .apply i :: rest) :
    i < n ∧ before.filterMap Step.applied? = List.range i ∧ .work i ∈ before := by
  have happlies := h.applies
  rw [hcut, List.filterMap_append] at happlies
  have hi : (before.filterMap Step.applied?).length = i ∧ i < n := by
    have hget := congrArg (·[(before.filterMap Step.applied?).length]?) happlies
    simp only [List.getElem?_append_right (Nat.le_refl _), Nat.sub_self] at hget
    have hhead : (List.filterMap Step.applied? (.apply i :: rest))[0]? = some i := rfl
    rw [hhead] at hget
    obtain ⟨hlt, heq⟩ := List.getElem?_eq_some_iff.1 hget.symm
    rw [List.getElem_range] at heq
    rw [List.length_range, heq] at hlt
    exact ⟨heq, hlt⟩
  have hbefore : before.filterMap Step.applied? = List.range i := by
    have htake := congrArg (List.take i) happlies
    rwa [List.take_append_of_le_length (Nat.le_of_eq hi.1.symm), ← hi.1, List.take_length, hi.1,
      List.take_range, Nat.min_eq_left (Nat.le_of_lt hi.2)] at htake
  refine ⟨hi.2, hbefore, ?_⟩
  have hnot : Step.apply i ∉ before := by
    simp [← Step.mem_applies, hbefore]
  have hafter := h.after i hi.2
  rw [hcut, List.idxOf_append_of_notMem hnot, List.idxOf_cons_self, Nat.add_zero] at hafter
  by_contra hmem
  rw [List.idxOf_append_of_notMem hmem] at hafter
  omega

/-- What is worked on has not been put into the graph. -/
lemma of_work (h : IsInterleaving n schedule) (hcut : schedule = before ++ .work i :: rest) :
    i < n ∧ .apply i ∉ before ∧ .work i ∉ before := by
  have hi : i < n := by
    rw [← List.mem_range, ← h.works.mem_iff, Step.mem_works, hcut]
    simp
  have hnot : Step.work i ∉ before := by
    have hnodup : (schedule.filterMap Step.worked?).Nodup := h.works.nodup_iff.2 List.nodup_range
    rw [hcut, List.filterMap_append, List.nodup_append] at hnodup
    intro hmem
    exact hnodup.2.2 i (Step.mem_works.2 hmem) i (Step.mem_works.2 (by simp)) rfl
  refine ⟨hi, fun hmem => ?_, hnot⟩
  have hafter := h.after i hi
  rw [hcut, List.idxOf_append_of_mem hmem, List.idxOf_append_of_notMem hnot] at hafter
  have := List.idxOf_lt_length_iff.2 hmem
  omega

end IsInterleaving

/-! ### What a schedule does -/

namespace Progress

variable {g : Graph} {config : Config} {st : Stage} {worker : Resolver → Entity → Work}
  {timeout : Option Double} {schedule steps rest : List Step} {p : Progress}

/-- After some steps the results are those of the work on the entities of the walk, and as many of
them are in the graph as have been put there. -/
structure Follows (st : Stage) (worker : Resolver → Entity → Work) (timeout : Option Double)
    (steps : List Step) (p : Progress) : Prop where
  state : (p.graph, p.report) =
    applyAll timeout st.start ((st.jobs worker).take (steps.filterMap Step.applied?).length)
  results : ∀ i, .work i ∈ steps → p.results.lookup i = (st.jobs worker)[i]?.map (·.work)

lemma follows_start : Follows st worker timeout [] (start st) :=
  ⟨by simp [start, applyAll], by simp⟩

/-- While the results of other entities are put into the graph, an entity stays as it is. -/
lemma Follows.get?_walk (hkeyed : g.Keyed) (hst : prepare config g = .ok st)
    (h : Follows st worker timeout steps p) {i : Nat} (hi : i < st.walk.length)
    (hle : (steps.filterMap Step.applied?).length ≤ i) :
    p.graph.get? st.walk[i].1 = some st.walk[i].2 := by
  have hjobs := jobs_distinct hkeyed hst worker
  have hgraph := congrArg Prod.fst h.state
  dsimp only at hgraph
  rw [hgraph, get?_applyAll hjobs.take]
  have hget : st.start.1.get? st.walk[i].1 = some st.walk[i].2 :=
    get?_of_mem_walk hst (List.getElem_mem hi)
  rw [hget, Option.map_some, changeAt_of_ne]
  intro job hjob
  obtain ⟨j, hj, rfl⟩ := List.mem_take_iff_getElem.1 hjob
  have hlen : i < (st.jobs worker).length := by simpa [Stage.jobs] using hi
  have hne := List.pairwise_iff_getElem.1 hjobs j i (by omega) hlen (by omega)
  simpa [Stage.jobs] using hne

/-- Each step of an interleaving can be taken, and goes on to follow the walk. -/
lemma Follows.step (hkeyed : g.Keyed) (hst : prepare config g = .ok st)
    (hschedule : IsInterleaving st.walk.length schedule) {s : Step}
    (hcut : schedule = steps ++ s :: rest) (h : Follows st worker timeout steps p) :
    ∃ p', p.step st worker timeout s = some p' ∧ Follows st worker timeout (steps ++ [s]) p' := by
  have hjob {i : Nat} (hi : i < st.walk.length) : (st.jobs worker)[i]? =
      some ⟨st.walk[i].1, st.walk[i].2, worker st.resolver st.walk[i].2⟩ := by
    simp [Stage.jobs, hi]
  cases s with
  | work i =>
    obtain ⟨hi, hnotApplied, hnotWorked⟩ := hschedule.of_work hcut
    -- The results put into the graph so far are those of the first entities, and not this one's.
    have hle : (steps.filterMap Step.applied?).length ≤ i := by
      by_contra hlt
      have happlies := hschedule.applies
      rw [hcut, List.filterMap_append] at happlies
      have htake := congrArg (List.take (steps.filterMap Step.applied?).length) happlies
      rw [List.take_left, List.take_range] at htake
      apply hnotApplied
      rw [← Step.mem_applies, htake, List.mem_range]
      omega
    have hget := h.get?_walk hkeyed hst hi hle
    refine ⟨{ p with results := (i, worker st.resolver st.walk[i].2) :: p.results }, ?_, ?_, ?_⟩
    · simp [Progress.step, hi, hget]
    · rw [List.filterMap_append]
      exact (List.append_nil _).symm ▸ h.state
    · intro j hj
      by_cases hji : j = i
      · subst hji
        simp [hjob hi]
      · have hj : .work j ∈ steps := by simpa [hji] using hj
        have hne : (j == i) = false := by simpa using hji
        simpa [List.lookup_cons, hne] using h.results j hj
  | apply i =>
    obtain ⟨hi, happlied, hworked⟩ := hschedule.of_apply hcut
    have hresult : p.results.lookup i = some (worker st.resolver st.walk[i].2) := by
      rw [h.results i hworked, hjob hi]
      rfl
    have hstate := h.state
    rw [happlied, List.length_range] at hstate
    refine ⟨_, by simp [Progress.step, hi, hresult]; rfl, ?_, ?_⟩
    · have hcount : ((steps ++ [Step.apply i]).filterMap Step.applied?).length = i + 1 := by
        simp [happlied, Step.applied?]
      rw [hcount, List.take_add_one, hjob hi, applyAll, List.foldl_append]
      exact congrArg (applyOne timeout · _) hstate
    · intro j hj
      exact h.results j (by simpa using hj)

lemma execute_append (s : Step) : execute st worker timeout (steps ++ [s]) =
    (execute st worker timeout steps).bind fun p => p.step st worker timeout s := by
  simp [execute, List.foldlM_append]

/-- Every part of an interleaving can be run. -/
lemma exists_execute (hkeyed : g.Keyed) (hst : prepare config g = .ok st)
    (hschedule : IsInterleaving st.walk.length schedule) (hcut : schedule = steps ++ rest) :
    ∃ p, execute st worker timeout steps = some p ∧ Follows st worker timeout steps p := by
  induction steps using List.reverseRecOn generalizing rest with
  | nil => exact ⟨start st, rfl, follows_start⟩
  | append_singleton steps s ih =>
    rw [List.append_assoc] at hcut
    obtain ⟨p, hp, hfollows⟩ := ih hcut
    obtain ⟨p', hp', hfollows'⟩ := hfollows.step hkeyed hst hschedule hcut
    exact ⟨p', by rw [execute_append, hp]; exact hp', hfollows'⟩

lemma execute_eq_finish (worker : Resolver → Entity → Work) (timeout : Option Double)
    (hkeyed : g.Keyed) (hst : prepare config g = .ok st)
    (hschedule : IsInterleaving st.walk.length schedule) :
    ∃ p, execute st worker timeout schedule = some p ∧
      (p.graph, p.report) = st.finish worker timeout := by
  obtain ⟨p, hp, hfollows⟩ := exists_execute hkeyed hst hschedule (List.append_nil schedule).symm
  refine ⟨p, hp, ?_⟩
  have hlen : (st.jobs worker).length = st.walk.length := by simp [Stage.jobs]
  rw [hfollows.state, hschedule.applies, List.length_range, ← hlen, List.take_length]
  rfl

end Progress

/-- **The schedule does not matter.** If the entities of a graph that has been read are worked on at
any time, and the results are put into the graph in the order of the walk, each after it is there,
then the graph and the report become those of working on one entity after another, which are those
of the transformation. All work has to end for that. -/
theorem execute_eq_inOrder {data : Value} {g : Graph} (hread : ofValue data = .ok g)
    (config : Config) {worker : Resolver → Entity → Option Work} {works : Resolver → Entity → Work}
    {st : Stage} (hst : prepare config g = .ok st) (hends : st.Ends worker works)
    {schedule : List Step} (hschedule : IsInterleaving st.walk.length schedule) :
    ∃ p q, Progress.execute st works config.timeout schedule = some p ∧
      Progress.execute st works config.timeout (inOrder st.walk.length) = some q ∧
      p.graph = q.graph ∧ p.report = q.report ∧
      runWith worker config g = some ⟨p.graph, .ok (p.report,
        ⟨st.events, st.resolver.index.size, st.jobs works⟩)⟩ := by
  have hkeyed := (reading_of_ofValue hread).sound.linked.keyed
  obtain ⟨p, hp, hpst⟩ := Progress.execute_eq_finish works config.timeout hkeyed hst hschedule
  obtain ⟨q, hq, hqst⟩ := Progress.execute_eq_finish works config.timeout hkeyed hst
    (isInterleaving_inOrder _)
  obtain ⟨hgraph, hreport⟩ := Prod.mk.inj (hpst.trans hqst.symm)
  refine ⟨p, q, hp, hq, hgraph, hreport, ?_⟩
  rw [runWith_of_ends hst hends, ← hpst]

theorem execute_eq_inOrder_of_noted :
    let works : Resolver → Entity → Work :=
      fun resolver e => (e.revise resolver).getD ⟨.timedOut, []⟩
    ∃ st, prepare {} notedGraph = .ok st ∧
      ∃ p q, Progress.execute st works none (lastFirst st.walk.length) = some p ∧
        Progress.execute st works none (inOrder st.walk.length) = some q ∧
        p.graph = q.graph ∧ p.report = q.report ∧
        runWith (fun resolver e => some (works resolver e)) {} notedGraph =
          some ⟨p.graph, .ok (p.report, ⟨st.events, st.resolver.index.size, st.jobs works⟩)⟩ := by
  intro works
  obtain ⟨st, hst⟩ := prepare_notedGraph
  exact ⟨st, hst, execute_eq_inOrder ofValue_notedFile {} hst (fun _ _ => rfl)
    (isInterleaving_lastFirst _)⟩

end LinkedDocs.Transform
