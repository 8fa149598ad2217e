import LinkedDocs.Transform
import LinkedDocs.Proofs.Results

/-!
# The course of a transformation

Whether a transformation fails is settled before the work on the entities begins, and whether it
ends depends on that work alone. What the relocation leaves and every revision keeps holds of the
graph in the end.
-/

namespace LinkedDocs

/-- How the revision of an entity ends, if it does. -/
def Entity.outcome? (resolver : Resolver) (e : Entity) : Option WorkOutcome :=
  (e.revise resolver).map (·.outcome)

namespace Transform

variable {g : Graph} {config : Config} {st : Stage} {worker : Resolver → Entity → Option Work}
  {works : Resolver → Entity → Work} {timeout : Option Double}

/-! ### Before the work -/

lemma prepare_eq_ok (h : prepare config g = .ok st) :
    g.relocate config = ⟨st.graph, .ok (st.relocation, st.events)⟩ ∧
      Resolver.ofGraph st.graph config = .ok st.resolver ∧ st.graph.visits = .ok st.walk := by
  unfold prepare at h
  split at h
  · cases h
  case h_2 g₁ relocation events hrelocate =>
    split at h
    · cases h
    case h_2 resolver hresolver =>
      split at h
      · cases h
      case h_2 walk hwalk =>
        obtain rfl := Except.ok.inj h
        exact ⟨hrelocate, hresolver, hwalk⟩

lemma prepare_of {g₁ : Graph} {r : Relocation} {events : List Relocation.Event}
    {resolver : Resolver} {walk : List (Scalar × Entity)}
    (hrelocate : g.relocate config = ⟨g₁, .ok (r, events)⟩)
    (hresolver : Resolver.ofGraph g₁ config = .ok resolver) (hwalk : g₁.visits = .ok walk) :
    prepare config g = .ok ⟨g₁, r, events, resolver, walk⟩ := by
  simp only [prepare, hrelocate, hresolver, hwalk]

/-- A transformation that is not prepared has relocated the graph all the same. -/
lemma graph_relocate_of_error {y : Graph × Fault} (h : prepare config g = .error y) :
    (g.relocate config).graph = y.1 := by
  unfold prepare at h
  split at h
  case h_1 hrelocate => rw [hrelocate, ← Except.error.inj h]
  case h_2 hrelocate =>
    rw [hrelocate]
    split at h
    · rw [← Except.error.inj h]
    · split at h
      · rw [← Except.error.inj h]
      · cases h

/-! ### The work -/

namespace Stage

/-- The work on all entities, if it is known to end. -/
def jobs (st : Stage) (works : Resolver → Entity → Work) : List Job :=
  st.walk.map fun (key, e) => ⟨key, e, works st.resolver e⟩

/-- The graph and the report in the end. -/
def finish (st : Stage) (works : Resolver → Entity → Work) (timeout : Option Double) :
    Graph × Report :=
  applyAll timeout st.start (st.jobs works)

/-- Whether the work on every entity ends, with the works that are given. -/
def Ends (st : Stage) (worker : Resolver → Entity → Option Work)
    (works : Resolver → Entity → Work) : Prop :=
  ∀ y ∈ st.walk, worker st.resolver y.2 = some (works st.resolver y.2)

lemma ends_or (st : Stage) (worker : Resolver → Entity → Option Work) :
    (∃ y ∈ st.walk, worker st.resolver y.2 = none) ∨ ∃ works, st.Ends worker works := by
  by_cases h : ∃ y ∈ st.walk, worker st.resolver y.2 = none
  · exact .inl h
  · refine .inr ⟨fun resolver e => (worker resolver e).getD ⟨.timedOut, []⟩, fun y hy => ?_⟩
    obtain ⟨work, hwork⟩ := Option.ne_none_iff_exists'.1 fun hnone => h ⟨y, hy, hnone⟩
    simp [hwork]

lemma jobs?_eq_some (h : st.Ends worker works) : st.jobs? worker = some (st.jobs works) := by
  unfold Ends at h
  unfold jobs? jobs
  generalize st.walk = walk at h ⊢
  induction walk with
  | nil => rfl
  | cons y walk ih => simp [h y (by simp), ih fun z hz => h z (by simp [hz])]

lemma jobs?_eq_none {y : Scalar × Entity} (hy : y ∈ st.walk) (h : worker st.resolver y.2 = none) :
    st.jobs? worker = none := by
  unfold jobs?
  generalize st.walk = walk at hy ⊢
  induction walk with
  | nil => cases hy
  | cons z walk ih =>
    rcases List.mem_cons.1 hy with rfl | hy
    · simp [h]
    · cases hz : worker st.resolver z.2 <;> simp [hz, ih hy]

end Stage

/-! ### The whole -/

theorem runWith_of_error {y : Graph × Fault} (h : prepare config g = .error y) :
    runWith worker config g = some ⟨y.1, .error y.2⟩ := by
  rw [runWith, h]

/-- A transformation that is prepared ends well if all its work ends. -/
theorem runWith_of_ends (hst : prepare config g = .ok st) (hends : st.Ends worker works) :
    runWith worker config g = some ⟨(st.finish works config.timeout).1,
      .ok ((st.finish works config.timeout).2,
        ⟨st.events, st.resolver.index.size, st.jobs works⟩)⟩ := by
  rw [runWith, hst]
  dsimp only
  rw [Stage.jobs?_eq_some hends]
  rfl

/-- It never ends if some of its work does not. -/
theorem runWith_eq_none (hst : prepare config g = .ok st) {y : Scalar × Entity}
    (hy : y ∈ st.walk) (h : worker st.resolver y.2 = none) : runWith worker config g = none := by
  rw [runWith, hst]
  dsimp only
  rw [Stage.jobs?_eq_none hy h]
  rfl

/-- What a transformation comes to, once it is prepared, is what its work comes to. -/
lemma exists_ends_of_runWith (hst : prepare config g = .ok st) {outcome : Outcome}
    (hrun : runWith worker config g = some outcome) :
    ∃ works, st.Ends worker works ∧ outcome = ⟨(st.finish works config.timeout).1,
      .ok ((st.finish works config.timeout).2,
        ⟨st.events, st.resolver.index.size, st.jobs works⟩)⟩ := by
  rcases st.ends_or worker with ⟨y, hy, hnone⟩ | ⟨works, hends⟩
  · rw [runWith_eq_none hst hy hnone] at hrun
    cases hrun
  · rw [runWith_of_ends hst hends] at hrun
    exact ⟨works, hends, (Option.some.inj hrun).symm⟩

variable {P : Graph → Prop}

lemma applyAll_keeps {jobs : List Job}
    (hjobs : ∀ job ∈ jobs, ∀ revision b, job.work.outcome = .finished revision → P b →
      P (b.modify job.key revision.apply)) {state : Graph × Report} (h : P state.1) :
    P (applyAll timeout state jobs).1 := by
  induction jobs generalizing state with
  | nil => exact h
  | cons job jobs ih =>
    refine ih (fun job hjob => hjobs job (by simp [hjob])) ?_
    unfold applyOne
    cases houtcome : job.work.outcome with
    | failed fault => exact h
    | timedOut => exact h
    | finished revision => exact hjobs job (by simp) revision _ houtcome h

/-- What the relocation leaves and every revision keeps holds in the end. -/
theorem runWith_keeps {outcome : Outcome} (hrun : runWith worker config g = some outcome)
    (hrelocated : P (g.relocate config).graph)
    (hrevised : ∀ st y work revision b, prepare config g = .ok st → y ∈ st.walk →
      worker st.resolver y.2 = some work → work.outcome = .finished revision → P b →
      P (b.modify y.1 revision.apply)) : P outcome.graph := by
  cases hst : prepare config g with
  | error y =>
    rw [runWith_of_error hst] at hrun
    rw [← Option.some.inj hrun, ← graph_relocate_of_error hst]
    exact hrelocated
  | ok st =>
    obtain ⟨works, hends, rfl⟩ := exists_ends_of_runWith hst hrun
    refine applyAll_keeps ?_ ?_
    · intro job hjob revision b houtcome
      obtain ⟨y, hy, rfl⟩ := List.mem_map.1 hjob
      exact hrevised st y _ revision b hst hy (hends y hy) houtcome
    · rw [(prepare_eq_ok hst).1] at hrelocated
      exact hrelocated

end Transform

end LinkedDocs
