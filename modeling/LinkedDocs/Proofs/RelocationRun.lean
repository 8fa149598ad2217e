import LinkedDocs.Proofs.Spread

/-!
# A relocation under way

After some of the extension members have been dealt with, the graph is the one of before with the
placeholders made so far added and then the members moved, all at once. `Run` states this together
with what has been counted. Every step keeps it, and so does the whole pass over the members,
whether or not a fault stops it.
-/

namespace LinkedDocs

namespace Relocation

open LinkedDocs.Graph

variable {config : Config} {g base : Graph} {types created : List (Text × Scalar)}
  {done : List Scalar} {p : Pass} {k j mk tk : Scalar} {e x m t : Entity}

/-- The name of the type that a member extends, in its normal form. -/
def soughtName (m : Entity) : Text :=
  match m.detail with
  | .member _ _ _ (.scalar (.text t)) => Symbol.normalize t
  | _ => []

/-- Whether the extended type of a member is given as text. -/
def IsSpelled (m : Entity) : Prop :=
  ∃ kind declaring isExtension t, m.detail = .member kind declaring isExtension (.text t)

instance (m : Entity) : Decidable (IsSpelled m) :=
  decidable_of_iff ((match m.detail with
    | .member _ _ _ (.scalar (.text _)) => true
    | _ => false) = true) (by unfold IsSpelled; split <;> simp_all)

/-- The key of the type that a member goes to, among types by name. -/
def goal? (types : List (Text × Scalar)) (m : Entity) : Option Scalar :=
  if soughtName m = [] then none else types.lookup (soughtName m)

/-- The move of a member that does not stay where it is. -/
def move? (g : Graph) (types : List (Text × Scalar)) (k : Scalar) : Option (Scalar × Scalar) :=
  (g.get? k).bind fun m => (goal? types m).bind fun tk =>
    if isSettled m tk then none else some (k, tk)

/-- Whether no type is found for a member. -/
def isStranded (g : Graph) (types : List (Text × Scalar)) (k : Scalar) : Bool :=
  ((g.get? k).bind (goal? types)).isNone

/-- The moves made for some members. -/
def movesOf (g : Graph) (types : List (Text × Scalar)) (done : List Scalar) :
    List (Scalar × Scalar) :=
  done.filterMap (move? g types)

lemma kind_of_isCandidate (h : isCandidate m = true) : m.kind = .member := by
  unfold isCandidate at h
  split at h
  case h_1 hd => rw [Entity.kind, hd]; rfl
  case h_2 => cases h

lemma mem_candidates : k ∈ candidates g ↔ ∃ m, (k, m) ∈ g.entries ∧ isCandidate m = true := by
  simp [candidates]

/-- What holds of a relocation once the members `done` have been dealt with. -/
structure Run (config : Config) (g : Graph) (types : List (Text × Scalar)) (done : List Scalar)
    (created : List (Text × Scalar)) (base : Graph) (p : Pass) : Prop where
  source : g.WellLinked
  null : g.contains .null = false
  defined : ∀ {k}, k ∈ candidates g → k.isUndefined = false
  table : ∀ {y}, y ∈ types → ∃ t, (y.2, t) ∈ g.entries ∧ t.kind = .type
  grown : Grown g created base
  created_names : ∀ {y}, y ∈ created → config.createPlaceholders = true ∧
    types.lookup y.1 = none ∧
    ∃ k m, (k, m) ∈ g.entries ∧ isCandidate m = true ∧ soughtName m = y.1 ∧ y.1 ≠ []
  created_nodup : (created.map (·.1)).Nodup
  types_eq : p.types = types ++ created
  graph_eq : p.graph = base.spread (movesOf g p.types done)
  linked : p.graph.WellLinked
  done_candidate : ∀ {k}, k ∈ done → k ∈ candidates g
  /-- A member that has been dealt with has a type to go to, unless that may not be made. -/
  found : ∀ {k m}, k ∈ done → (k, m) ∈ g.entries → soughtName m ≠ [] →
    config.createPlaceholders = true → (p.types.lookup (soughtName m)).isSome
  losers : ∃ ids : List Scalar, p.losers = ids.map .scalar ∧ ids.Nodup ∧
    ∀ i, i ∈ ids ↔ ∃ y ∈ movesOf g p.types done, ∃ m, (y.1, m) ∈ g.entries ∧ m.holder? = some i
  relocated : p.result.relocated = (movesOf g p.types done).length
  placeholders : p.result.placeholdersCreated = created.length
  removed : p.result.containersRemoved = []
  skipped : p.result.skipped = (done.filter (isStranded g p.types)).map .scalar
  /-- Without placeholders there are no additions. -/
  bare : created = [] → base = g ∧ p.result.namespacesCreated = 0

namespace Run

lemma base_linked (h : Run config g types done created base p) : base.WellLinked :=
  h.grown.wellLinked h.source

lemma base_null (h : Run config g types done created base p) : base.contains .null = false :=
  h.grown.contains_null h.null

/-- Types, members and parameters are not changed by additions. -/
lemma mem_base (h : Run config g types done created base p) (he : (k, e) ∈ g.entries)
    (hlow : e.kind.height ≤ 2) : (k, e) ∈ base.entries := by
  obtain ⟨extra, new, ha, hentries⟩ := h.grown.entries_eq h.source
  rw [hentries]
  refine List.mem_append_left _ (mem_mapEntries.2 ⟨e, he, ?_⟩)
  rw [ha.extra_nil he hlow, List.append_nil, Entity.withChildren_childIds (h.source.lists he)]

lemma fst_of_move? {y : Scalar × Scalar} (h : move? g types k = some y) : y.1 = k := by
  unfold move? at h
  obtain ⟨m, -, h⟩ := Option.bind_eq_some_iff.1 h
  obtain ⟨tk, -, h⟩ := Option.bind_eq_some_iff.1 h
  split at h
  · cases h
  · rw [← Option.some.inj h]

lemma mem_movesOf_fst (h : k ∈ (movesOf g types done).map (·.1)) : k ∈ done := by
  obtain ⟨y, hy, rfl⟩ := List.mem_map.1 h
  obtain ⟨i, hi, hmove⟩ := List.mem_filterMap.1 hy
  rwa [fst_of_move? hmove]

/-- A member that has not been dealt with is as it was. -/
lemma mem_graph (h : Run config g types done created base p) (hm : (mk, m) ∈ g.entries)
    (hkind : m.kind = .member) (hmk : mk ∉ done) : (mk, m) ∈ p.graph.entries := by
  have hbase := h.mem_base hm (by simp [hkind, EntityKind.height])
  rw [h.graph_eq, spread]
  refine mem_mapEntries.2 ⟨m, hbase, ?_⟩
  have hnone : (movesOf g p.types done).lookup mk = none :=
    lookup_eq_none_iff.2 fun hmem => hmk (mem_movesOf_fst hmem)
  rw [spreadOne_member hkind, hnone]

lemma mem_of_lookup {l : List (Text × Scalar)} {n : Text} (h : l.lookup n = some k) :
    (n, k) ∈ l := by
  obtain ⟨l₁, l₂, rfl, -⟩ := List.lookup_eq_some_iff.1 h
  simp

/-- The table has types only. -/
lemma type_of_mem (h : Run config g types done created base p) {n : Text}
    (hmem : (n, k) ∈ p.types) : ∃ t, (k, t) ∈ base.entries ∧ t.kind = .type := by
  rw [h.types_eq, List.mem_append] at hmem
  rcases hmem with hmem | hmem
  · obtain ⟨t, ht, hkind⟩ := h.table hmem
    exact ⟨t, h.mem_base ht (by simp [hkind, EntityKind.height]), hkind⟩
  · obtain ⟨extra, new, ha, hentries⟩ := h.grown.entries_eq h.source
    obtain ⟨id, name, space, remark, -, ht⟩ := ha.type_of_created hmem
    refine ⟨madeType id name n space remark, ?_, rfl⟩
    rw [hentries]
    exact List.mem_append_right _ ht

lemma goal?_eq_some (h : goal? types m = some tk) :
    soughtName m ≠ [] ∧ types.lookup (soughtName m) = some tk := by
  unfold goal? at h
  split at h
  · cases h
  case isFalse hne => exact ⟨hne, h⟩

lemma move?_eq_some {y : Scalar × Scalar} (h : move? g types k = some y) :
    ∃ m, g.get? k = some m ∧ goal? types m = some y.2 ∧ isSettled m y.2 = false ∧ y.1 = k := by
  unfold move? at h
  obtain ⟨m, hm, h⟩ := Option.bind_eq_some_iff.1 h
  obtain ⟨tk, htk, h⟩ := Option.bind_eq_some_iff.1 h
  split at h
  · cases h
  case isFalse hs =>
    obtain rfl := Option.some.inj h
    exact ⟨m, hm, htk, by simpa using hs, rfl⟩

lemma targets_mem (h : Run config g types done created base p) :
    ∀ y ∈ movesOf g p.types done, y.2 ∈ base.keys := by
  intro y hy
  obtain ⟨i, -, hmove⟩ := List.mem_filterMap.1 hy
  obtain ⟨m, -, hgoal, -⟩ := move?_eq_some hmove
  obtain ⟨t, ht, -⟩ := h.type_of_mem (mem_of_lookup (goal?_eq_some hgoal).2)
  exact mem_keys_of_mem ht

lemma start (hlinked : g.WellLinked) (hnull : g.contains .null = false)
    (hdefined : ∀ {k}, k ∈ candidates g → k.isUndefined = false)
    (htable : ∀ {y}, y ∈ types → ∃ t, (y.2, t) ∈ g.entries ∧ t.kind = .type) :
    Run config g types [] [] g { graph := g, types } where
  source := hlinked
  null := hnull
  defined := hdefined
  table := htable
  grown := .refl
  created_names := by simp
  created_nodup := by simp
  types_eq := by simp
  graph_eq := (spread_nil hlinked).symm
  linked := hlinked
  done_candidate := by simp
  found := by simp
  losers := ⟨[], by simp [movesOf]⟩
  relocated := rfl
  placeholders := rfl
  removed := rfl
  skipped := rfl
  bare := fun _ => ⟨rfl, rfl⟩

/-! ### A placeholder is made -/

lemma goal?_append {more : List (Text × Scalar)}
    (h : soughtName m ≠ [] → (types.lookup (soughtName m)).isSome) :
    goal? (types ++ more) m = goal? types m := by
  unfold goal?
  split
  · rfl
  case isFalse hne =>
    obtain ⟨k, hk⟩ := Option.isSome_iff_exists.1 (h hne)
    rw [List.lookup_append, hk, Option.some_or]

/-- What the table says of a member that has been dealt with does not change any more. -/
lemma goal?_stable (h : Run config g types done created base p)
    (hcreate : config.createPlaceholders = true) (more : List (Text × Scalar))
    (hk : k ∈ done) (hget : g.get? k = some m) : goal? (p.types ++ more) m = goal? p.types m := by
  obtain ⟨m', hm', -⟩ := mem_candidates.1 (h.done_candidate hk)
  rw [h.source.distinct.get?_eq hm', Option.some.injEq] at hget
  subst hget
  exact goal?_append fun hne => h.found hk hm' hne hcreate

lemma movesOf_stable (h : Run config g types done created base p)
    (hcreate : config.createPlaceholders = true) (more : List (Text × Scalar)) :
    movesOf g (p.types ++ more) done = movesOf g p.types done := by
  refine List.filterMap_congr ?_
  intro k hk
  unfold move?
  cases hget : g.get? k with
  | none => rfl
  | some m => simp only [Option.bind_some, h.goal?_stable hcreate more hk hget]

lemma stranded_stable (h : Run config g types done created base p)
    (hcreate : config.createPlaceholders = true) (more : List (Text × Scalar)) :
    done.filter (isStranded g (p.types ++ more)) = done.filter (isStranded g p.types) := by
  refine List.filter_congr ?_
  intro k hk
  unfold isStranded
  cases hget : g.get? k with
  | none => rfl
  | some m => simp only [Option.bind_some, h.goal?_stable hcreate more hk hget]

/-- A pass goes on after a placeholder has been made for a member. -/
lemma grow (h : Run config g types done created base p) (hm : (mk, m) ∈ g.entries)
    (hcandidate : isCandidate m = true) (hne : soughtName m ≠ [])
    (hcreate : config.createPlaceholders = true) (hunknown : p.types.lookup (soughtName m) = none)
    {g' : Graph} (count : Nat) (events : List Event)
    (hgrown : Grown p.graph [(soughtName m, tk)] g') :
    ∃ base', Run config g types done (created ++ [(soughtName m, tk)]) base' { p with
      graph := g'
      types := p.types ++ [(soughtName m, tk)]
      result := { p.result with
        placeholdersCreated := p.result.placeholdersCreated + 1, namespacesCreated := count }
      events := p.events ++ events } := by
  have hlinked := hgrown.wellLinked h.linked
  have hmoves := h.movesOf_stable hcreate [(soughtName m, tk)]
  have hunknown' : types.lookup (soughtName m) = none ∧ created.lookup (soughtName m) = none := by
    rwa [h.types_eq, List.lookup_append, Option.or_eq_none_iff] at hunknown
  rw [h.graph_eq] at hgrown
  obtain ⟨base', hbase, hg'⟩ := hgrown.of_spread h.base_linked h.targets_mem
  exact ⟨base', { h with
    grown := h.grown.trans hbase
    created_names := by
      intro y hy
      rcases List.mem_append.1 hy with hy | hy
      · exact h.created_names hy
      · rw [List.mem_singleton.1 hy]
        exact ⟨hcreate, hunknown'.1, mk, m, hm, hcandidate, rfl, hne⟩
    created_nodup := by
      rw [List.map_append]
      refine h.created_nodup.append (List.nodup_singleton _) (List.disjoint_singleton.2 ?_)
      intro hmem
      obtain ⟨y, hy, hname⟩ := List.mem_map.1 hmem
      have hnone := List.lookup_eq_none_iff.1 hunknown'.2 y hy
      simp [hname] at hnone
    types_eq := by rw [h.types_eq, List.append_assoc]
    graph_eq := by
      simp only
      rw [hg', hmoves]
    linked := hlinked
    found := by
      intro k x hk hx hname hcreate'
      obtain ⟨i, hi⟩ := Option.isSome_iff_exists.1 (h.found hk hx hname hcreate')
      simp [List.lookup_append, hi]
    losers := by
      simp only [hmoves]
      exact h.losers
    relocated := by
      simp only [hmoves]
      exact h.relocated
    placeholders := by simp [h.placeholders]
    skipped := by
      simp only [h.stranded_stable hcreate]
      exact h.skipped
    bare := by simp }⟩

/-! ### A member is placed or skipped -/

lemma movesOf_append (k : Scalar) :
    movesOf g types (done ++ [k]) = movesOf g types done ++ (move? g types k).toList := by
  rw [movesOf, List.filterMap_append]
  cases hk : move? g types k <;> simp [movesOf, hk]

lemma appendNew_toList (hd : g.Distinct) {ids : List Scalar} {o : Option Scalar}
    (hids : ∀ i ∈ ids, i ∈ g.keys) (ho : ∀ i, o = some i → i ∈ g.keys) (hnodup : ids.Nodup) :
    ∃ ids' : List Scalar, appendNew (ids.map .scalar) (o.toList.map .scalar) = ids'.map .scalar ∧
      ids'.Nodup ∧ ∀ i, i ∈ ids' ↔ i ∈ ids ∨ o = some i := by
  cases o with
  | none => exact ⟨ids, rfl, hnodup, by simp⟩
  | some j =>
    have hany : (ids.map Value.scalar).any (Value.scalar j).same = decide (j ∈ ids) := by
      have hiff := hasId_iff hd hids (ho j rfl)
      rw [Bool.eq_iff_iff, decide_eq_true_eq, ← hiff, hasId]
      simp [Value.same, Value.untied, Scalar.same_comm j]
    by_cases hj : j ∈ ids
    · refine ⟨ids, ?_, hnodup, ?_⟩
      · simp [appendNew, hany, hj]
      · intro i
        constructor
        · exact .inl
        · rintro (hi | hi)
          · exact hi
          · rwa [← Option.some.inj hi]
    · refine ⟨ids ++ [j], ?_, ?_, ?_⟩
      · simp [appendNew, hany, hj]
      · exact hnodup.append (List.nodup_singleton j) (List.disjoint_singleton.2 hj)
      · intro i
        simp [eq_comm]

lemma candidate_append (h : Run config g types done created base p) (hm : (mk, m) ∈ g.entries)
    (hcandidate : isCandidate m = true) (hk : k ∈ done ++ [mk]) : k ∈ candidates g := by
  rcases List.mem_append.1 hk with hk | hk
  · exact h.done_candidate hk
  · rw [List.mem_singleton.1 hk]
    exact mem_candidates.2 ⟨m, hm, hcandidate⟩

lemma found_append (h : Run config g types done created base p) (hm : (mk, m) ∈ g.entries)
    (hfound : soughtName m ≠ [] → config.createPlaceholders = true →
      (p.types.lookup (soughtName m)).isSome)
    (hk : k ∈ done ++ [mk]) (hx : (k, x) ∈ g.entries) (hname : soughtName x ≠ [])
    (hcreate : config.createPlaceholders = true) : (p.types.lookup (soughtName x)).isSome := by
  rcases List.mem_append.1 hk with hk | hk
  · exact h.found hk hx hname hcreate
  · obtain rfl := List.mem_singleton.1 hk
    rw [h.source.distinct.entity_unique hx hm] at hname ⊢
    exact hfound hname hcreate

/-- A member that is moved adds its owner to the types that have lost a member. -/
lemma losers_append (h : Run config g types done created base p) (hm : (mk, m) ∈ g.entries)
    (tk : Scalar) : ∃ ids : List Scalar,
      appendNew p.losers (m.holder?.toList.map .scalar) = ids.map .scalar ∧ ids.Nodup ∧
      ∀ i, i ∈ ids ↔ ∃ y ∈ movesOf g p.types done ++ [(mk, tk)], ∃ x,
        (y.1, x) ∈ g.entries ∧ x.holder? = some i := by
  obtain ⟨ids, hids, hnodup, hlost⟩ := h.losers
  have hkeys : ∀ i ∈ ids, i ∈ g.keys := by
    intro i hi
    obtain ⟨y, -, x, hx, hholder⟩ := (hlost i).1 hi
    exact h.source.mem_keys_of_holder? hx hholder
  obtain ⟨ids', hids', hnodup', hlost'⟩ := appendNew_toList h.source.distinct hkeys
    (fun i hholder => h.source.mem_keys_of_holder? hm hholder) hnodup
  refine ⟨ids', by rw [← hids', hids], hnodup', ?_⟩
  intro i
  rw [hlost', hlost]
  constructor
  · rintro (⟨y, hy, x, hx, hholder⟩ | hholder)
    · exact ⟨y, List.mem_append_left _ hy, x, hx, hholder⟩
    · exact ⟨(mk, tk), by simp, m, hm, hholder⟩
  · rintro ⟨y, hy, x, hx, hholder⟩
    rcases List.mem_append.1 hy with hy | hy
    · exact .inl ⟨y, hy, x, hx, hholder⟩
    · rw [List.mem_singleton.1 hy] at hx
      rw [h.source.distinct.entity_unique hx hm] at hholder
      exact .inr hholder

/-- A pass goes on after a member has been moved to its type, or found there. -/
lemma place (h : Run config g types done created base p) (hm : (mk, m) ∈ g.entries)
    (hcandidate : isCandidate m = true) (hmk : mk ∉ done) (hgoal : goal? p.types m = some tk) :
    ∃ t p', p.graph.get? tk = some t ∧ Relocation.place p mk m tk t = (p', none) ∧
      Run config g types (done ++ [mk]) created base p' := by
  have hkind := kind_of_isCandidate hcandidate
  have hget : g.get? mk = some m := h.source.distinct.get?_eq hm
  have hgraph := h.mem_graph hm hkind hmk
  obtain ⟨hne, hlookup⟩ := goal?_eq_some hgoal
  obtain ⟨t, ht, htkind⟩ := h.type_of_mem (mem_of_lookup hlookup)
  have ht' : (tk, spreadOne (movesOf g p.types done) tk t) ∈ p.graph.entries := by
    rw [h.graph_eq]
    exact mem_spread.2 ⟨t, ht, rfl⟩
  have htkind' : (spreadOne (movesOf g p.types done) tk t).kind = .type := by
    rw [kind_spreadOne, htkind]
  have hfound : (p.types.lookup (soughtName m)).isSome := Option.isSome_of_eq_some hlookup
  have hskipped : (done ++ [mk]).filter (isStranded g p.types) =
      done.filter (isStranded g p.types) := by
    simp [List.filter_append, isStranded, hget, hgoal]
  have hplace := place_eq h.linked hgraph hkind ht' htkind'
    (h.defined (mem_candidates.2 ⟨m, hm, hcandidate⟩))
  by_cases hsettled : isSettled m tk = true
  · have hmoves : movesOf g p.types (done ++ [mk]) = movesOf g p.types done := by
      simp [movesOf_append, move?, hget, hgoal, hsettled]
    rw [if_pos hsettled] at hplace
    exact ⟨_, _, h.linked.distinct.get?_eq ht', hplace, { h with
      graph_eq := by rw [hmoves]; exact h.graph_eq
      done_candidate := h.candidate_append hm hcandidate
      found := h.found_append hm fun _ _ => hfound
      losers := by rw [hmoves]; exact h.losers
      relocated := by rw [hmoves]; exact h.relocated
      skipped := by rw [hskipped]; exact h.skipped }⟩
  · have hmoves : movesOf g p.types (done ++ [mk]) = movesOf g p.types done ++ [(mk, tk)] := by
      simp [movesOf_append, move?, hget, hgoal, hsettled]
    have hnew : mk ∉ (movesOf g p.types done).map (·.1) := fun hmem => hmk (mem_movesOf_fst hmem)
    have hnull : tk ≠ .null := by
      rintro rfl
      exact not_mem_keys_of_free h.base_null (mem_keys_of_mem ht)
    rw [if_neg hsettled] at hplace
    exact ⟨_, _, h.linked.distinct.get?_eq ht', hplace, { h with
      graph_eq := by
        simp only
        rw [hmoves, h.graph_eq, transfer_spread h.base_linked
          (h.mem_base hm (by simp [hkind, EntityKind.height])) hkind ht htkind hnew]
      linked := h.linked.transfer hgraph hkind ht' htkind' hnull
      done_candidate := h.candidate_append hm hcandidate
      found := h.found_append hm fun _ _ => hfound
      losers := by rw [hmoves]; exact h.losers_append hm tk
      relocated := by simp [hmoves, h.relocated]
      skipped := by rw [hskipped]; exact h.skipped }⟩

/-- A pass goes on after a member has been skipped. -/
lemma skip (h : Run config g types done created base p) (hm : (mk, m) ∈ g.entries)
    (hcandidate : isCandidate m = true) (hgoal : goal? p.types m = none)
    (hcreate : config.createPlaceholders = true → soughtName m = []) (events : List Event) :
    Run config g types (done ++ [mk]) created base (Relocation.skip { p with events } m) := by
  have hget : g.get? mk = some m := h.source.distinct.get?_eq hm
  have hmoves : movesOf g p.types (done ++ [mk]) = movesOf g p.types done := by
    simp [movesOf_append, move?, hget, hgoal]
  have hstranded : isStranded g p.types mk = true := by
    simp [isStranded, hget, hgoal]
  exact { h with
    graph_eq := by simp only [Relocation.skip, hmoves]; exact h.graph_eq
    done_candidate := h.candidate_append hm hcandidate
    found := h.found_append hm fun hname hcreate' => absurd (hcreate hcreate') hname
    losers := by simp only [Relocation.skip, hmoves]; exact h.losers
    relocated := by simp only [Relocation.skip, hmoves]; exact h.relocated
    skipped := by
      simp [Relocation.skip, List.filter_append, hstranded, h.skipped, h.source.id_eq hm] }

/-! ### One member after another -/

lemma moveOne_of_not_spelled (h : Run config g types done created base p)
    (hm : (mk, m) ∈ g.entries) (hcandidate : isCandidate m = true) (hmk : mk ∉ done)
    (hspelled : ¬IsSpelled m) : ∃ fault, moveOne config p mk = (p, some fault) := by
  have hkind := kind_of_isCandidate hcandidate
  have hget := h.linked.distinct.get?_eq (h.mem_graph hm hkind hmk)
  obtain ⟨kind, declaring, isExtension, extended, hd⟩ := exists_detail hkind
  cases htext : extended.expectText "strip".toList with
  | error fault => exact ⟨fault, by simp only [Relocation.moveOne, hget, hd, htext]⟩
  | ok t =>
    refine absurd ⟨kind, declaring, isExtension, t, ?_⟩ hspelled
    rw [hd]
    unfold Value.expectText at htext
    split at htext
    · rw [Except.ok.inj htext]
    · cases htext
    · cases htext

/-- One more member is dealt with, if the type that it extends is given as text. -/
lemma moveOne (h : Run config g types done created base p) (hm : (mk, m) ∈ g.entries)
    (hcandidate : isCandidate m = true) (hmk : mk ∉ done) (hspelled : IsSpelled m) :
    ∃ p' created' base', Relocation.moveOne config p mk = (p', none) ∧
      Run config g types (done ++ [mk]) created' base' p' := by
  have hkind := kind_of_isCandidate hcandidate
  have hgraph := h.mem_graph hm hkind hmk
  have hget := h.linked.distinct.get?_eq hgraph
  obtain ⟨kind, declaring, isExtension, t, hd⟩ := hspelled
  have hsought : Symbol.normalize t = soughtName m := by simp [soughtName, hd]
  by_cases hne : soughtName m = []
  · refine ⟨_, created, base, ?_, h.skip hm hcandidate (by simp [goal?, hne]) (fun _ => hne)
      p.events⟩
    simp [Relocation.moveOne, hget, hd, Value.expectText, hsought, hne]
  · cases hlookup : p.types.lookup (soughtName m) with
    | some tk =>
      have hgoal : goal? p.types m = some tk := by simp [goal?, hne, hlookup]
      obtain ⟨target, p', htarget, hplace, hrun⟩ := h.place hm hcandidate hmk hgoal
      refine ⟨p', created, base, ?_, hrun⟩
      simp [Relocation.moveOne, hget, hd, Value.expectText, hsought, hne, targetFor, hlookup,
        htarget, hplace]
    | none =>
      by_cases hcreate : config.createPlaceholders = true
      · obtain ⟨g', count, events, tk, -, hmade, hgrown, -⟩ := createPlaceholder_spec config
          (soughtName m) t (h.linked.linked fun _ => True) (by
            rw [h.graph_eq, contains_spread]
            exact h.base_null) hgraph hkind
        obtain ⟨base', hrun⟩ := h.grow hm hcandidate hne hcreate hlookup count events hgrown
        have hgoal : goal? (p.types ++ [(soughtName m, tk)]) m = some tk := by
          simp [goal?, hne, List.lookup_append, hlookup]
        obtain ⟨target, p', htarget, hplace, hrun⟩ := hrun.place hm hcandidate hmk hgoal
        refine ⟨p', _, base', ?_, hrun⟩
        simp only at htarget
        simp [Relocation.moveOne, hget, hd, Value.expectText, hsought, hne, targetFor, hlookup,
          hcreate, hmade, htarget, hplace]
      · refine ⟨_, created, base, ?_, h.skip hm hcandidate (by simp [goal?, hne, hlookup])
          (fun hc => absurd hc hcreate) (p.events ++ [.leftInPlace (soughtName m) m.id])⟩
        simp [Relocation.moveOne, hget, hd, Value.expectText, hsought, hne, targetFor, hlookup,
          hcreate]

/-- The whole pass ends with the members that it has dealt with, which are all unless a fault stops
it. -/
theorem moveAll (h : Run config g types done created base p) (todo : List Scalar)
    (htodo : ∀ k ∈ todo, k ∈ candidates g) (hnodup : (done ++ todo).Nodup) :
    ∃ p' fault? done' created' base', Relocation.moveAll config p todo = (p', fault?) ∧
      Run config g types done' created' base' p' ∧
      (fault? = none → done' = done ++ todo) ∧
      ((∀ k ∈ todo, ∀ m, (k, m) ∈ g.entries → IsSpelled m) → fault? = none) := by
  induction todo generalizing done created base p with
  | nil =>
    exact ⟨p, none, done, created, base, rfl, h, fun _ => (List.append_nil done).symm,
      fun _ => rfl⟩
  | cons k todo ih =>
    obtain ⟨m, hm, hcandidate⟩ := mem_candidates.1 (htodo k (by simp))
    have hnodup' : (done ++ [k] ++ todo).Nodup := by
      rwa [List.append_assoc]
    have hk : k ∉ done := by
      intro hmem
      exact (List.nodup_append.1 hnodup).2.2 k hmem k (by simp) rfl
    by_cases hspelled : IsSpelled m
    · obtain ⟨p₁, created₁, base₁, hone, hrun⟩ := h.moveOne hm hcandidate hk hspelled
      obtain ⟨p', fault?, done', created', base', hall, hrun', hdone, hspelled'⟩ :=
        ih hrun (fun i hi => htodo i (by simp [hi])) hnodup'
      refine ⟨p', fault?, done', created', base', ?_, hrun', ?_, ?_⟩
      · rw [Relocation.moveAll, hone]
        exact hall
      · intro hnone
        rw [hdone hnone, List.append_assoc]
        rfl
      · intro hall'
        exact hspelled' fun i hi => hall' i (by simp [hi])
    · obtain ⟨fault, hone⟩ := h.moveOne_of_not_spelled hm hcandidate hk hspelled
      refine ⟨p, some fault, done, created, base, ?_, h, ?_, ?_⟩
      · rw [Relocation.moveAll, hone]
      · intro hnone
        cases hnone
      · intro hall'
        exact absurd (hall' k (by simp) m hm) hspelled

end Run

end Relocation

end LinkedDocs
