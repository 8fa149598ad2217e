import LinkedDocs.Proofs.Loading
import LinkedDocs.Proofs.Pruning

/-!
# The effect of a relocation

What a relocation does, said without the order of its steps. Each extension member has a target or
is skipped; a type keeps the members that are not sent elsewhere and gets those that are sent to it;
and a type that loses a member and ends without members goes. `Relocates` states this, and
`relocate_effect` says that a relocation of a graph that has been read always succeeds and has just
this effect, if no type and no member has the undefined number for its id.
-/

namespace LinkedDocs

namespace Relocation

open LinkedDocs.Graph

variable {config : Config} {g g' base : Graph} {created : List (Text × Scalar)} {p : Pass}
  {placeholder : Text → Scalar} {k j mk tk : Scalar} {e x m t : Entity} {n : Text}

/-- The first type of a name. -/
def typeNamed? (g : Graph) (n : Text) : Option Scalar :=
  (g.entries.find? fun y => y.2.kind = .type && matchedName y.2 = n).map (·.1)

/-- Where a member goes: to the type that it extends, or to the placeholder for it. -/
def destination? (config : Config) (g : Graph) (placeholder : Text → Scalar) (m : Entity) :
    Option Scalar :=
  if soughtName m = [] then none
  else
    match typeNamed? g (soughtName m) with
    | some k => some k
    | none => if config.createPlaceholders then some (placeholder (soughtName m)) else none

/-- The target of the extension member with a key. -/
def target? (config : Config) (g : Graph) (placeholder : Text → Scalar) (k : Scalar) :
    Option Scalar :=
  (g.get? k).bind fun m => if isCandidate m then destination? config g placeholder m else none

/-- Whether a member is sent to another type than the one with the key. -/
def IsSentAway (target? : Scalar → Option Scalar) (k i : Scalar) : Prop :=
  ∃ tk, target? i = some tk ∧ tk ≠ k

/-- The members of a type in the end: those that it had and that are not sent away, and then those
that are sent to it and that it did not have. -/
def finalMembers (target? : Scalar → Option Scalar) (g : Graph) (k : Scalar) : List Scalar :=
  (g.childrenAt k).filter (fun i => target? i = none ∨ target? i = some k) ++
    (candidates g).filter fun i => target? i = some k ∧ i ∉ g.childrenAt k

/-- A member in the end. -/
def finalMember (target? : Scalar → Option Scalar) (k : Scalar) (m : Entity) : Entity :=
  match target? k with
  | some tk => if m.holder? = some tk then m else rehomed m (.scalar tk)
  | none => m

/-- Whether a type of the name is extended and has to be made. -/
def IsWanted (config : Config) (g : Graph) (n : Text) : Prop :=
  config.createPlaceholders = true ∧ n ≠ [] ∧ typeNamed? g n = none ∧
    ∃ k m, (k, m) ∈ g.entries ∧ isCandidate m = true ∧ soughtName m = n

/-- Whether a type goes: it loses a member and ends without members. -/
def IsDropped (target? : Scalar → Option Scalar) (g : Graph) (k : Scalar) : Prop :=
  ∃ t, (k, t) ∈ g.entries ∧ t.kind = .type ∧ (∃ i ∈ t.childIds, IsSentAway target? k i) ∧
    finalMembers target? g k = []

/-- The effect of a relocation on a graph, where the members have targets and the types that have to
be made have keys. -/
structure Relocates (config : Config) (g : Graph) (placeholder : Text → Scalar)
    (target? : Scalar → Option Scalar) (g' : Graph) (r : Relocation) : Prop where
  linked : g'.WellLinked
  /-- The entities that stay keep their order. -/
  order : g'.keys.filter (· ∈ g.keys) = g.keys.filter (· ∈ g'.keys)
  skipped : r.skipped = ((candidates g).filter fun i => target? i = none).map .scalar
  kept : ∀ {k t}, (k, t) ∈ g.entries → t.kind = .type → ¬IsDropped target? g k →
    (k, t.withChildren (finalMembers target? g k)) ∈ g'.entries
  placeholders : ∀ {n}, IsWanted config g n → placeholder n ∉ g.keys ∧
    ∃ id name space remark, placeholder n = .text id ∧ (placeholder n,
      (madeType id name n space remark).withChildren (finalMembers target? g (placeholder n))) ∈
        g'.entries
  /-- There are no types but those that do not go and the placeholders. -/
  types : ∀ {k t'}, (k, t') ∈ g'.entries → t'.kind = .type →
    (∃ t, (k, t) ∈ g.entries ∧ t.kind = .type ∧ ¬IsDropped target? g k) ∨
      ∃ n, IsWanted config g n ∧ k = placeholder n
  gone : ∀ {k}, IsDropped target? g k → k ∉ g'.keys
  removed : ∀ v, v ∈ r.containersRemoved ↔ ∃ k, IsDropped target? g k ∧ v = .scalar k
  removed_nodup : r.containersRemoved.Nodup
  /-- No member is lost or made, and each is owned by one type. -/
  members : ∀ {k m'}, (k, m') ∈ g'.entries ∧ m'.kind = .member ↔
    ∃ m, (k, m) ∈ g.entries ∧ m.kind = .member ∧ m' = finalMember target? k m
  owned : ∀ {k m'}, (k, m') ∈ g'.entries → m'.kind = .member →
    ∃ tk, m'.holder? = some tk ∧ ∀ {i t'}, (i, t') ∈ g'.entries → (k ∈ t'.childIds ↔ i = tk)
  parameters : ∀ {k e}, (k, e) ∈ g'.entries ∧ e.kind = .parameter ↔
    (k, e) ∈ g.entries ∧ e.kind = .parameter
  /-- Assemblies and namespaces lose the types that go and may get something new. -/
  above : ∀ {k e}, (k, e) ∈ g.entries → e.kind = .assembly ∨ e.kind = .namespace →
    ∃ extra, (k, e.withChildren (e.childIds.filter (· ∈ g'.keys) ++ extra)) ∈ g'.entries ∧
      ∀ i ∈ extra, i ∉ g.keys

/-! ### Targets -/

lemma lookup_map_filter {α β : Type} {l : List α} {q : α → Bool} {f : α → Text} {u : α → β} :
    ((l.filter q).map fun y => (f y, u y)).lookup n =
      (l.find? fun y => q y && f y = n).map u := by
  induction l with
  | nil => rfl
  | cons y l ih =>
    cases hq : q y with
    | false => simp [hq, ih]
    | true =>
      by_cases hn : f y = n
      · simp [hq, hn]
      · have hbeq : (n == f y) = false := beq_eq_false_iff_ne.2 (Ne.symm hn)
        rw [List.filter_cons_of_pos hq, List.map_cons, List.lookup_cons, ih]
        simp [hq, hn, hbeq]

lemma lookup_typeTable : (typeTable g).lookup n = typeNamed? g n :=
  lookup_map_filter

/-- The key of the placeholder that was made for a name. -/
def placeholderIn (created : List (Text × Scalar)) (n : Text) : Scalar :=
  (created.lookup n).getD .null

/-- Once a pass is over, members are where their destinations are. -/
lemma Run.destination?_eq (h : Run config g (typeTable g) (candidates g) created base p)
    (hm : (mk, m) ∈ g.entries) (hcandidate : isCandidate m = true) :
    destination? config g (placeholderIn created) m = goal? p.types m := by
  unfold destination? goal?
  split
  · rfl
  case isFalse hne =>
    rw [h.types_eq, List.lookup_append, lookup_typeTable]
    cases htype : typeNamed? g (soughtName m) with
    | some k => simp
    | none =>
      simp only [Option.none_or]
      by_cases hcreate : config.createPlaceholders = true
      · have hfound := h.found (mem_candidates.2 ⟨m, hm, hcandidate⟩) hm hne hcreate
        rw [h.types_eq, List.lookup_append, lookup_typeTable, htype, Option.none_or] at hfound
        obtain ⟨k, hk⟩ := Option.isSome_iff_exists.1 hfound
        simp [hcreate, placeholderIn, hk]
      · have hnone : created = [] := by
          rw [List.eq_nil_iff_forall_not_mem]
          intro y hy
          exact hcreate (h.created_names hy).1
        simp [hcreate, hnone]

lemma Run.target?_eq (h : Run config g (typeTable g) (candidates g) created base p)
    (hm : (mk, m) ∈ g.entries) :
    target? config g (placeholderIn created) mk =
      if isCandidate m then goal? p.types m else none := by
  rw [target?, h.source.distinct.get?_eq hm, Option.bind_some]
  by_cases hcandidate : isCandidate m = true
  · rw [if_pos hcandidate, if_pos hcandidate, h.destination?_eq hm hcandidate]
  · rw [if_neg hcandidate, if_neg hcandidate]

/-! ### Moves -/

/-- Whether no type and no member has the undefined number for its id. -/
def HasDefinedIds (g : Graph) : Prop :=
  ∀ y ∈ g.entries, y.2.kind = .type ∨ y.2.kind = .member → y.1.isUndefined = false

instance (g : Graph) : Decidable (HasDefinedIds g) :=
  inferInstanceAs (Decidable (∀ y ∈ g.entries,
    y.2.kind = .type ∨ y.2.kind = .member → y.1.isUndefined = false))

lemma lookup_filterMap {l : List Scalar} {f : Scalar → Option (Scalar × Scalar)}
    (hf : ∀ {i y}, f i = some y → y.1 = i) (k : Scalar) :
    (l.filterMap f).lookup k = if k ∈ l then (f k).map (·.2) else none := by
  induction l with
  | nil => rfl
  | cons i l ih =>
    by_cases hik : i = k
    · subst hik
      cases hi : f i with
      | none =>
        rw [List.filterMap_cons_none hi, ih, hi]
        simp
      | some y =>
        rw [List.filterMap_cons_some hi, List.lookup_cons, hf hi]
        simp
    · have hmem : k ∈ i :: l ↔ k ∈ l := by simp [Ne.symm hik]
      simp only [hmem, ← ih]
      cases hi : f i with
      | none => rw [List.filterMap_cons_none hi]
      | some y =>
        have hbeq : (k == y.1) = false := by
          rw [hf hi]
          exact beq_eq_false_iff_ne.2 (Ne.symm hik)
        rw [List.filterMap_cons_some hi, List.lookup_cons, hbeq]

lemma map_filter_filterMap {l : List Scalar} {f : Scalar → Option (Scalar × Scalar)}
    (hf : ∀ {i y}, f i = some y → y.1 = i) (tk : Scalar) :
    ((l.filterMap f).filter (·.2 = tk)).map (·.1) = l.filter fun i => (f i).map (·.2) = some tk := by
  induction l with
  | nil => rfl
  | cons i l ih =>
    cases hi : f i with
    | none => simp [List.filterMap_cons_none hi, hi, ih]
    | some y =>
      rw [List.filterMap_cons_some hi, List.filter_cons, List.filter_cons]
      by_cases hy : y.2 = tk
      · simp [hi, hy, ih, hf hi]
      · simp [hi, hy, ih]

namespace Run

/-- The types that members go to have ids that compare as equal to themselves. -/
lemma key_defined (h : Run config g (typeTable g) (candidates g) created base p)
    (hdefined : HasDefinedIds g) (hmem : (n, k) ∈ p.types) : k.isUndefined = false := by
  rw [h.types_eq, List.mem_append] at hmem
  rcases hmem with hmem | hmem
  · obtain ⟨t, ht, hkind⟩ := h.table hmem
    exact hdefined _ ht (.inl hkind)
  · obtain ⟨extra, new, ha, -⟩ := h.grown.entries_eq h.source
    obtain ⟨id, name, space, remark, rfl, -⟩ := ha.type_of_created hmem
    rfl

/-- A member is moved if it has a target that is not its owner. -/
lemma move?_eq (h : Run config g (typeTable g) (candidates g) created base p)
    (hdefined : HasDefinedIds g) (hm : (mk, m) ∈ g.entries) (hcandidate : isCandidate m = true) :
    move? g p.types mk = (target? config g (placeholderIn created) mk).bind fun tk =>
      if m.holder? = some tk then none else some (mk, tk) := by
  rw [h.target?_eq hm, if_pos hcandidate, move?, h.source.distinct.get?_eq hm, Option.bind_some]
  cases hgoal : goal? p.types m with
  | none => rfl
  | some tk =>
    have htk := h.key_defined hdefined (mem_of_lookup (goal?_eq_some hgoal).2)
    simp [isSettled, htk]

lemma candidate_of_target? (hd : g.Distinct)
    (htarget : target? config g placeholder mk = some tk) (hm : (mk, m) ∈ g.entries) :
    isCandidate m = true := by
  rw [target?, hd.get?_eq hm, Option.bind_some] at htarget
  by_contra hcandidate
  rw [if_neg hcandidate] at htarget
  cases htarget

lemma lookup_movesOf (h : Run config g (typeTable g) (candidates g) created base p)
    (hdefined : HasDefinedIds g) (hm : (mk, m) ∈ g.entries) :
    (movesOf g p.types (candidates g)).lookup mk =
      (target? config g (placeholderIn created) mk).bind fun tk =>
        if m.holder? = some tk then none else some tk := by
  rw [movesOf, lookup_filterMap fst_of_move?]
  by_cases hcandidate : isCandidate m = true
  · rw [if_pos (mem_candidates.2 ⟨m, hm, hcandidate⟩), h.move?_eq hdefined hm hcandidate]
    cases target? config g (placeholderIn created) mk with
    | none => rfl
    | some tk =>
      simp only [Option.bind_some]
      split <;> rfl
  · have hnone : target? config g (placeholderIn created) mk = none := by
      rw [h.target?_eq hm, if_neg hcandidate]
    rw [if_neg, hnone]
    · rfl
    · intro hmem
      obtain ⟨m', hm', hcandidate'⟩ := mem_candidates.1 hmem
      rw [h.source.distinct.entity_unique hm' hm] at hcandidate'
      exact hcandidate hcandidate'

lemma mem_movesOf (h : Run config g (typeTable g) (candidates g) created base p)
    (hdefined : HasDefinedIds g) (hm : (mk, m) ∈ g.entries) :
    mk ∈ (movesOf g p.types (candidates g)).map (·.1) ↔
      ∃ tk, target? config g (placeholderIn created) mk = some tk ∧ m.holder? ≠ some tk := by
  have hlookup := h.lookup_movesOf hdefined hm
  rw [← not_iff_not, ← lookup_eq_none_iff, hlookup]
  cases target? config g (placeholderIn created) mk <;> simp

/-! ### Types -/

/-- A key of the larger graph under which the smaller one has children is a key of the smaller one. -/
lemma exists_of_mem_childrenAt (h : Run config g (typeTable g) (candidates g) created base p)
    (hk : k ∈ base.keys) (hj : j ∈ g.childrenAt k) : ∃ t, (k, t) ∈ g.entries ∧ j ∈ t.childIds := by
  unfold childrenAt at hj
  cases hget : g.get? k with
  | none =>
    rw [hget] at hj
    cases hj
  | some t =>
    rw [hget] at hj
    obtain ⟨i, hi, hsame⟩ := exists_of_get? hget
    have hi' := h.grown.keys_subset (mem_keys_of_mem hi)
    obtain rfl := h.base_linked.distinct.eq_of_same hi' hk hsame
    exact ⟨t, hi, hj⟩

lemma holder?_iff (h : Run config g (typeTable g) (candidates g) created base p)
    (hk : k ∈ base.keys) (hm : (mk, m) ∈ g.entries) :
    mk ∈ g.childrenAt k ↔ m.holder? = some k := by
  constructor
  · intro hmem
    obtain ⟨t, ht, hmem⟩ := h.exists_of_mem_childrenAt hk hmem
    exact (h.source.listed_iff ht hm).1 hmem
  · intro hholder
    obtain ⟨t, ht, hmem, -⟩ := h.source.exists_parent hm hholder
    rwa [childrenAt_of_mem h.source.distinct ht]

/-- The members of a type after the moves. -/
lemma spreadOne_type_eq (h : Run config g (typeTable g) (candidates g) created base p)
    (hdefined : HasDefinedIds g) (ht : (k, t) ∈ base.entries) (hkind : t.kind = .type)
    (hchildren : t.childIds = g.childrenAt k) :
    spreadOne (movesOf g p.types (candidates g)) k t =
      t.withChildren (finalMembers (target? config g (placeholderIn created)) g k) := by
  have hk := mem_keys_of_mem ht
  rw [spreadOne_type hkind, finalMembers, hchildren]
  congr 2
  · refine List.filter_congr ?_
    intro i hi
    obtain ⟨t', ht', hi'⟩ := h.exists_of_mem_childrenAt hk hi
    obtain ⟨c, hc, -, hholder⟩ := h.source.child ht' hi'
    have hmoved := h.mem_movesOf hdefined hc
    rw [hholder] at hmoved
    rw [Bool.eq_iff_iff, decide_eq_true_eq, decide_eq_true_eq, hmoved]
    cases target? config g (placeholderIn created) i <;> simp [eq_comm]
  · rw [movesOf, map_filter_filterMap fst_of_move?]
    refine List.filter_congr ?_
    intro i hi
    obtain ⟨m, hm, hcandidate⟩ := mem_candidates.1 hi
    rw [Bool.eq_iff_iff, decide_eq_true_eq, decide_eq_true_eq, h.move?_eq hdefined hm hcandidate,
      h.holder?_iff hk hm]
    cases htarget : target? config g (placeholderIn created) i with
    | none => simp
    | some tk =>
      by_cases hholder : m.holder? = some tk
      · simp only [Option.bind_some, Option.some.injEq, hholder]
        simp
      · simp only [Option.bind_some, if_neg hholder, Option.map_some, Option.some.injEq]
        constructor
        · rintro rfl
          exact ⟨rfl, hholder⟩
        · exact fun hand => hand.1

/-- The types before the moves are those of the graph and the placeholders. -/
lemma base_type_cases (h : Run config g (typeTable g) (candidates g) created base p)
    (ht : (k, t) ∈ base.entries) (hkind : t.kind = .type) :
    (k, t) ∈ g.entries ∨ (k ∉ g.keys ∧ t.childIds = [] ∧ ∃ n, (n, k) ∈ created) := by
  obtain ⟨extra, new, ha, hentries⟩ := h.grown.entries_eq h.source
  rw [hentries, List.mem_append] at ht
  rcases ht with ht | ht
  · obtain ⟨y, hy, rfl⟩ := mem_mapEntries.1 ht
    have hlow : y.kind.height ≤ 2 := by
      rw [Entity.kind_withChildren] at hkind
      simp [hkind, EntityKind.height]
    rw [ha.extra_nil hy hlow, List.append_nil, Entity.withChildren_childIds (h.source.lists hy)]
    exact .inl hy
  · exact .inr ⟨ha.fresh ht, ha.created_of_type ht hkind⟩

lemma created_mem (h : Run config g (typeTable g) (candidates g) created base p)
    (hc : (n, k) ∈ created) : k ∉ g.keys ∧ ∃ id name space remark, k = .text id ∧
      (k, madeType id name n space remark) ∈ base.entries := by
  obtain ⟨extra, new, ha, hentries⟩ := h.grown.entries_eq h.source
  obtain ⟨id, name, space, remark, hid, ht⟩ := ha.type_of_created hc
  refine ⟨ha.fresh ht, id, name, space, remark, hid, ?_⟩
  rw [hentries]
  exact List.mem_append_right _ ht

/-- The placeholders are those that are wanted. -/
lemma created_iff (h : Run config g (typeTable g) (candidates g) created base p) :
    (n, k) ∈ created ↔ IsWanted config g n ∧ k = placeholderIn created n := by
  constructor
  · intro hc
    obtain ⟨hcreate, hunknown, i, m, hm, hcandidate, hname, hne⟩ := h.created_names hc
    rw [lookup_typeTable] at hunknown
    refine ⟨⟨hcreate, hne, hunknown, i, m, hm, hcandidate, hname⟩, ?_⟩
    obtain ⟨l₁, l₂, rfl⟩ := List.append_of_mem hc
    have hnone : l₁.lookup n = none := by
      rw [List.lookup_eq_none_iff]
      rintro ⟨n', k'⟩ hy
      have hnodup := h.created_nodup
      rw [List.map_append, List.nodup_append] at hnodup
      have hne := hnodup.2.2 n' (List.mem_map_of_mem hy) n (by simp)
      simpa [bne_iff_ne] using Ne.symm hne
    simp [placeholderIn, List.lookup_append, hnone]
  · rintro ⟨⟨hcreate, hne, hunknown, i, m, hm, hcandidate, rfl⟩, rfl⟩
    have hfound := h.found (mem_candidates.2 ⟨m, hm, hcandidate⟩) hm hne hcreate
    rw [h.types_eq, List.lookup_append, lookup_typeTable, hunknown, Option.none_or] at hfound
    obtain ⟨tk, htk⟩ := Option.isSome_iff_exists.1 hfound
    simp only [placeholderIn, htk, Option.getD_some]
    exact mem_of_lookup htk

/-- A type that was there before the moves has its members of before. -/
lemma childIds_base (h : Run config g (typeTable g) (candidates g) created base p)
    (ht : (k, t) ∈ base.entries) (hkind : t.kind = .type) : t.childIds = g.childrenAt k := by
  rcases h.base_type_cases ht hkind with ht' | ⟨hnew, hempty, -⟩
  · rw [childrenAt_of_mem h.source.distinct ht']
  · rw [hempty, eq_comm, List.eq_nil_iff_forall_not_mem]
    intro i hi
    obtain ⟨t', ht', -⟩ := h.exists_of_mem_childrenAt (mem_keys_of_mem ht) hi
    exact hnew (mem_keys_of_mem ht')

/-- The types that go. -/
lemma mem_emptied_iff (h : Run config g (typeTable g) (candidates g) created base p)
    (hdefined : HasDefinedIds g) {ids : List Scalar}
    (hlost : ∀ i, i ∈ ids ↔ ∃ y ∈ movesOf g p.types (candidates g), ∃ m,
      (y.1, m) ∈ g.entries ∧ m.holder? = some i) :
    k ∈ p.graph.emptied ids ↔ IsDropped (target? config g (placeholderIn created)) g k := by
  have hafter : ∀ {t}, (k, t) ∈ g.entries → t.kind = .type → p.graph.get? k =
      some (t.withChildren (finalMembers (target? config g (placeholderIn created)) g k)) := by
    intro t ht hkind
    have ht' := h.mem_base ht (by simp [hkind, EntityKind.height])
    rw [← h.spreadOne_type_eq hdefined ht' hkind (h.childIds_base ht' hkind)]
    apply h.linked.distinct.get?_eq
    rw [h.graph_eq]
    exact mem_spread.2 ⟨t, ht', rfl⟩
  rw [mem_emptied, hlost]
  constructor
  · rintro ⟨⟨⟨i, j⟩, hy, m, hm, hholder⟩, t', hget, hkind, hempty⟩
    obtain ⟨t, ht, hlisted, htkind⟩ := h.source.exists_parent hm hholder
    obtain ⟨tk, htarget, hne⟩ := (h.mem_movesOf hdefined hm).1 (List.mem_map_of_mem hy)
    have hmkind := kind_of_isCandidate (candidate_of_target? h.source.distinct htarget hm)
    rw [hmkind] at htkind
    have htkind : t.kind = .type := (Option.some.inj htkind).symm
    rw [hafter ht htkind, Option.some.injEq] at hget
    subst hget
    refine ⟨t, ht, htkind, ⟨i, hlisted, tk, htarget, ?_⟩, by simpa using hempty⟩
    rintro rfl
    exact hne hholder
  · rintro ⟨t, ht, hkind, ⟨i, hi, tk, htarget, hne⟩, hempty⟩
    obtain ⟨m, hm, -, hholder⟩ := h.source.child ht hi
    have hmoved := (h.mem_movesOf hdefined hm).2 ⟨tk, htarget, by
      rw [hholder]
      simpa [eq_comm] using hne⟩
    obtain ⟨y, hy, rfl⟩ := List.mem_map.1 hmoved
    exact ⟨⟨y, hy, m, hm, hholder⟩, _, hafter ht hkind, hkind, by simpa using hempty⟩

/-! ### Members and the rest -/

lemma mem_of_mem_base (h : Run config g (typeTable g) (candidates g) created base p)
    (he : (k, e) ∈ base.entries) (hlow : e.kind.height ≤ 1) : (k, e) ∈ g.entries := by
  obtain ⟨extra, new, ha, hentries⟩ := h.grown.entries_eq h.source
  rw [hentries, List.mem_append] at he
  rcases he with he | he
  · obtain ⟨y, hy, rfl⟩ := mem_mapEntries.1 he
    rw [Entity.kind_withChildren] at hlow
    rwa [ha.extra_nil hy (by omega), List.append_nil,
      Entity.withChildren_childIds (h.source.lists hy)]
  · rcases ha.made he with hspace | ⟨_, _, _, _, _, -, rfl⟩
    · rw [hspace] at hlow
      simp [EntityKind.height] at hlow
    · simp [madeType, Entity.kind, Detail.kind, EntityKind.height] at hlow

lemma spreadOne_member_eq (h : Run config g (typeTable g) (candidates g) created base p)
    (hdefined : HasDefinedIds g) (hm : (mk, m) ∈ g.entries) (hkind : m.kind = .member) :
    spreadOne (movesOf g p.types (candidates g)) mk m =
      finalMember (target? config g (placeholderIn created)) mk m := by
  rw [spreadOne_member hkind, h.lookup_movesOf hdefined hm, finalMember]
  cases target? config g (placeholderIn created) mk with
  | none => rfl
  | some tk => by_cases hholder : m.holder? = some tk <;> simp [hholder]

/-- The types that go are listed by namespaces only. -/
lemma foldl_losing_eq (h : Run config g (typeTable g) (candidates g) created base p)
    {ids : List Scalar} (hx : (k, x) ∈ p.graph.entries) (hkind : x.kind ≠ .namespace) :
    (p.graph.emptied ids).foldl Entity.losing x = x := by
  refine foldl_losing_of_disjoint ?_
  intro i hi hmem
  obtain ⟨-, t, hget, htkind, -⟩ := mem_emptied.1 hi
  obtain ⟨c, hc, hckind, -⟩ := h.linked.child hx hmem
  rw [h.linked.distinct.get?_eq hc, Option.some.injEq] at hget
  rw [hget, htkind] at hckind
  exact hkind (Option.some.inj hckind).symm

/-- What is no namespace is left as it is by the removal of types. -/
lemma mem_prune_iff (h : Run config g (typeTable g) (candidates g) created base p)
    {ids : List Scalar} (hkind : x.kind ≠ .namespace) :
    (k, x) ∈ (p.graph.prune (p.graph.emptied ids)).entries ↔
      k ∉ p.graph.emptied ids ∧ (k, x) ∈ p.graph.entries := by
  rw [mem_prune]
  constructor
  · rintro ⟨hk, y, hy, rfl⟩
    rw [kind_foldl_losing] at hkind
    rw [h.foldl_losing_eq hy hkind]
    exact ⟨hk, hy⟩
  · rintro ⟨hk, hx⟩
    exact ⟨hk, x, hx, (h.foldl_losing_eq hx hkind).symm⟩

lemma not_mem_emptied (h : Run config g (typeTable g) (candidates g) created base p)
    {ids : List Scalar} (hx : (k, x) ∈ p.graph.entries) (hkind : x.kind ≠ .type) :
    k ∉ p.graph.emptied ids := by
  intro hk
  obtain ⟨-, t, hget, htkind, -⟩ := mem_emptied.1 hk
  rw [h.linked.distinct.get?_eq hx, Option.some.injEq] at hget
  rw [hget] at hkind
  exact hkind htkind

/-- The members and parameters in the end. -/
lemma mem_prune_low (h : Run config g (typeTable g) (candidates g) created base p)
    {ids : List Scalar} (hlow : x.kind.height ≤ 1) :
    (k, x) ∈ (p.graph.prune (p.graph.emptied ids)).entries ↔
      ∃ y, (k, y) ∈ g.entries ∧ y.kind.height ≤ 1 ∧
        x = spreadOne (movesOf g p.types (candidates g)) k y := by
  have hspace : x.kind ≠ .namespace := by
    intro hkind
    simp [hkind, EntityKind.height] at hlow
  have htype : x.kind ≠ .type := by
    intro hkind
    simp [hkind, EntityKind.height] at hlow
  rw [h.mem_prune_iff hspace]
  constructor
  · rintro ⟨-, hx⟩
    rw [h.graph_eq] at hx
    obtain ⟨y, hy, rfl⟩ := mem_spread.1 hx
    rw [kind_spreadOne] at hlow
    exact ⟨y, h.mem_of_mem_base hy hlow, hlow, rfl⟩
  · rintro ⟨y, hy, hylow, rfl⟩
    have hx : (k, spreadOne (movesOf g p.types (candidates g)) k y) ∈ p.graph.entries := by
      rw [h.graph_eq]
      exact mem_spread.2 ⟨y, h.mem_base hy (by omega), rfl⟩
    exact ⟨h.not_mem_emptied hx htype, hx⟩

end Run

lemma foldl_losing_withChildren (ks ids : List Scalar) (e : Entity) :
    ks.foldl Entity.losing (e.withChildren ids) = e.withChildren (ids.filter (· ∉ ks)) := by
  induction ks generalizing ids with
  | nil => simp
  | cons k ks ih =>
    have hlosing : (e.withChildren ids).losing k = e.withChildren (ids.filter (· ≠ k)) := by
      have hids := Entity.childIds_losing (x := e.withChildren ids) (k := k)
      rw [Entity.childIds_withChildren] at hids
      rw [← hids]
      unfold Entity.losing
      split <;> simp
    rw [List.foldl_cons, hlosing, ih, List.filter_filter]
    congr 1
    refine List.filter_congr ?_
    intro a _
    by_cases ha : a = k <;> simp [ha]

lemma holder?_finalMember {f : Scalar → Option Scalar} (hkind : m.kind = .member)
    (hnull : f k ≠ some .null) :
    (finalMember f k m).holder? = (f k).or m.holder? := by
  unfold finalMember
  cases hk : f k with
  | none => rfl
  | some tk =>
    simp only [Option.some_or]
    split
    case isTrue hholder => exact hholder
    case isFalse =>
      refine holder?_rehomed hkind ?_
      rintro rfl
      exact hnull hk

/-! ### The whole effect -/

namespace Run

lemma target?_ne_null (h : Run config g (typeTable g) (candidates g) created base p)
    (hm : (mk, m) ∈ g.entries) : target? config g (placeholderIn created) mk ≠ some .null := by
  intro htarget
  rw [h.target?_eq hm] at htarget
  split at htarget
  · obtain ⟨t, ht, -⟩ := h.type_of_mem (mem_of_lookup (goal?_eq_some htarget).2)
    exact not_mem_keys_of_free h.base_null (mem_keys_of_mem ht)
  · cases htarget

lemma skipped_eq (h : Run config g (typeTable g) (candidates g) created base p) :
    p.result.skipped = ((candidates g).filter fun i =>
      target? config g (placeholderIn created) i = none).map .scalar := by
  rw [h.skipped]
  congr 1
  refine List.filter_congr ?_
  intro i hi
  obtain ⟨m, hm, hcandidate⟩ := mem_candidates.1 hi
  rw [h.target?_eq hm, if_pos hcandidate, isStranded, h.source.distinct.get?_eq hm,
    Option.bind_some]
  cases goal? p.types m <;> simp

lemma order (h : Run config g (typeTable g) (candidates g) created base p) (ks : List Scalar) :
    (p.graph.prune ks).keys.filter (· ∈ g.keys) = g.keys.filter (· ∈ (p.graph.prune ks).keys) := by
  obtain ⟨extra, new, ha, hentries⟩ := h.grown.entries_eq h.source
  have hbase : base.keys = g.keys ++ new.map (·.1) := by
    rw [keys, hentries, List.map_append]
    congr 1
    exact keys_mapEntries
  have hnew : (new.map (·.1)).filter (· ∈ g.keys) = [] := by
    rw [List.filter_eq_nil_iff]
    intro i hi
    obtain ⟨⟨i, x⟩, hx, rfl⟩ := List.mem_map.1 hi
    simpa using ha.fresh hx
  have hkeys : (p.graph.prune ks).keys = (g.keys ++ new.map (·.1)).filter (· ∉ ks) := by
    rw [keys_prune, h.graph_eq, keys_spread, hbase]
  have hself : g.keys.filter (· ∈ g.keys) = g.keys := List.filter_eq_self.2 (by simp)
  calc (p.graph.prune ks).keys.filter (· ∈ g.keys)
      = ((g.keys ++ new.map (·.1)).filter (· ∈ g.keys)).filter (· ∉ ks) := by
        rw [hkeys, List.filter_filter, List.filter_filter]
        simp only [Bool.and_comm]
    _ = g.keys.filter (· ∉ ks) := by
        rw [List.filter_append, hnew, List.append_nil, hself]
    _ = g.keys.filter (· ∈ (p.graph.prune ks).keys) := by
        refine List.filter_congr ?_
        intro i hi
        rw [hkeys, Bool.eq_iff_iff, decide_eq_true_eq, decide_eq_true_eq, List.mem_filter]
        simp [hi]

/-- Assemblies and namespaces in the end. -/
lemma mem_prune_high (h : Run config g (typeTable g) (candidates g) created base p)
    {ids : List Scalar} (he : (k, e) ∈ g.entries)
    (hkind : e.kind = .assembly ∨ e.kind = .namespace) :
    ∃ extra, (k, e.withChildren (e.childIds.filter
      (· ∈ (p.graph.prune (p.graph.emptied ids)).keys) ++ extra)) ∈
        (p.graph.prune (p.graph.emptied ids)).entries ∧ ∀ i ∈ extra, i ∉ g.keys := by
  obtain ⟨extra, new, ha, hentries⟩ := h.grown.entries_eq h.source
  have htype : e.kind ≠ .type ∧ e.kind ≠ .member := by
    rcases hkind with hkind | hkind <;> simp [hkind]
  have hbase : (k, e.withChildren (e.childIds ++ extra k)) ∈ p.graph.entries := by
    rw [h.graph_eq, mem_spread]
    refine ⟨e.withChildren (e.childIds ++ extra k), ?_, ?_⟩
    · rw [hentries]
      exact List.mem_append_left _ (mem_mapEntries_of_mem he)
    · exact (spreadOne_other (by simpa using htype.1) (by simpa using htype.2)).symm
  refine ⟨(extra k).filter (· ∉ p.graph.emptied ids), ?_, ?_⟩
  · rw [mem_prune]
    refine ⟨h.not_mem_emptied hbase htype.1, _, hbase, ?_⟩
    rw [foldl_losing_withChildren, List.filter_append]
    congr 2
    refine List.filter_congr ?_
    intro i hi
    have hi' : i ∈ p.graph.keys := by
      rw [h.graph_eq, keys_spread]
      exact h.grown.keys_subset (h.source.mem_keys_of_listed he hi)
    simp [keys_prune, hi']
  · intro i hi
    obtain ⟨⟨i', x⟩, hx, rfl⟩ := List.mem_map.1 (ha.extra_new (List.mem_of_mem_filter hi))
    exact ha.fresh hx

section

variable {ids : List Scalar} (h : Run config g (typeTable g) (candidates g) created base p)
  (hdefined : HasDefinedIds g)

include h hdefined

/-- The members in the end. -/
lemma mem_prune_member : (k, e) ∈ (p.graph.prune (p.graph.emptied ids)).entries ∧
    e.kind = .member ↔ ∃ m, (k, m) ∈ g.entries ∧ m.kind = .member ∧
      e = finalMember (target? config g (placeholderIn created)) k m := by
  constructor
  · rintro ⟨he, hkind⟩
    obtain ⟨m, hm, -, rfl⟩ := (h.mem_prune_low (by simp [hkind, EntityKind.height])).1 he
    rw [kind_spreadOne] at hkind
    exact ⟨m, hm, hkind, h.spreadOne_member_eq hdefined hm hkind⟩
  · rintro ⟨m, hm, hkind, rfl⟩
    rw [← h.spreadOne_member_eq hdefined hm hkind, kind_spreadOne]
    refine ⟨(h.mem_prune_low ?_).2 ⟨m, hm, by simp [hkind, EntityKind.height], rfl⟩, hkind⟩
    simp [hkind, EntityKind.height]

variable (hlost : ∀ i, i ∈ ids ↔ ∃ y ∈ movesOf g p.types (candidates g), ∃ m,
  (y.1, m) ∈ g.entries ∧ m.holder? = some i)

include hlost

/-- The types that do not go, in the end. -/
lemma mem_prune_type (ht : (k, t) ∈ base.entries) (hkind : t.kind = .type)
    (hkept : ¬IsDropped (target? config g (placeholderIn created)) g k) :
    (k, t.withChildren (finalMembers (target? config g (placeholderIn created)) g k)) ∈
      (p.graph.prune (p.graph.emptied ids)).entries := by
  rw [h.mem_prune_iff (by simp [hkind])]
  refine ⟨fun hk => hkept ((h.mem_emptied_iff hdefined hlost).1 hk), ?_⟩
  rw [← h.spreadOne_type_eq hdefined ht hkind (h.childIds_base ht hkind), h.graph_eq]
  exact mem_spread.2 ⟨t, ht, rfl⟩

lemma type_of_mem_prune (ht : (k, t) ∈ (p.graph.prune (p.graph.emptied ids)).entries)
    (hkind : t.kind = .type) :
    (∃ t', (k, t') ∈ g.entries ∧ t'.kind = .type ∧
      ¬IsDropped (target? config g (placeholderIn created)) g k) ∨
    ∃ n, IsWanted config g n ∧ k = placeholderIn created n := by
  obtain ⟨hk, ht⟩ := (h.mem_prune_iff (by simp [hkind])).1 ht
  rw [h.graph_eq] at ht
  obtain ⟨t', ht', rfl⟩ := mem_spread.1 ht
  rw [kind_spreadOne] at hkind
  rcases h.base_type_cases ht' hkind with ht' | ⟨-, -, n, hc⟩
  · exact .inl ⟨t', ht', hkind, fun hd => hk ((h.mem_emptied_iff hdefined hlost).2 hd)⟩
  · exact .inr ⟨n, h.created_iff.1 hc⟩

/-- A pass that has dealt with every extension member, and the removal after it, relocate. -/
theorem relocates (hsound : g.Sound) (hnodup : ids.Nodup)
    (hlinked : (p.graph.prune (p.graph.emptied ids)).WellLinked) :
    Relocates config g (placeholderIn created) (target? config g (placeholderIn created))
      (p.graph.prune (p.graph.emptied ids))
      { p.result with containersRemoved := (p.graph.emptied ids).map .scalar } where
  linked := hlinked
  order := h.order _
  skipped := h.skipped_eq
  kept ht hkind hkept :=
    h.mem_prune_type hdefined hlost (h.mem_base ht (by simp [hkind, EntityKind.height])) hkind hkept
  placeholders := by
    intro n hn
    obtain ⟨hnew, id, name, space, remark, hid, hmade⟩ := h.created_mem (h.created_iff.2 ⟨hn, rfl⟩)
    refine ⟨hnew, id, name, space, remark, hid, h.mem_prune_type hdefined hlost hmade rfl ?_⟩
    rintro ⟨t, ht, -⟩
    exact hnew (mem_keys_of_mem ht)
  types := h.type_of_mem_prune hdefined hlost
  gone := by
    intro k hk
    have hk' := (h.mem_emptied_iff hdefined hlost).2 hk
    simp [keys_prune, hk']
  removed := by
    intro v
    simp only [List.mem_map, h.mem_emptied_iff hdefined hlost, eq_comm]
  removed_nodup := (hnodup.filter _).map fun a b hab => Value.scalar.inj hab
  members := h.mem_prune_member hdefined
  owned := by
    intro k m' hm' hkind
    obtain ⟨m, hm, hmkind, rfl⟩ := (h.mem_prune_member hdefined).1 ⟨hm', hkind⟩
    obtain ⟨tk, htk⟩ : ∃ tk, (finalMember (target? config g (placeholderIn created)) k m).holder? =
        some tk := by
      rw [holder?_finalMember hmkind (h.target?_ne_null hm)]
      obtain ⟨i, -, -, hi, -⟩ := h.source.parent hm (hsound.rooted hm (by simp [hmkind]))
      cases target? config g (placeholderIn created) k with
      | none => exact ⟨i, hi⟩
      | some tk => exact ⟨tk, rfl⟩
    refine ⟨tk, htk, ?_⟩
    intro i t' ht'
    rw [hlinked.listed_iff ht' hm', htk, Option.some.injEq, eq_comm]
  parameters := by
    intro k e
    constructor
    · rintro ⟨he, hkind⟩
      obtain ⟨y, hy, -, rfl⟩ := (h.mem_prune_low (by simp [hkind, EntityKind.height])).1 he
      rw [kind_spreadOne] at hkind
      rw [spreadOne_other (by simp [hkind]) (by simp [hkind])]
      exact ⟨hy, hkind⟩
    · rintro ⟨he, hkind⟩
      refine ⟨(h.mem_prune_low (by simp [hkind, EntityKind.height])).2
        ⟨e, he, by simp [hkind, EntityKind.height], ?_⟩, hkind⟩
      rw [spreadOne_other (by simp [hkind]) (by simp [hkind])]
  above := h.mem_prune_high

end

end Run

end Relocation

open Relocation in
/-- A relocation of a graph that has been read succeeds and has the effect that the targets of its
extension members give, if type names and extended types are texts and no type and no member has
the undefined number for its id. -/
theorem Graph.relocate_effect (config : Config) {data : Value} {g : Graph}
    (hread : Graph.ofValue data = .ok g)
    (htypes : HasTextNames g) (hspelled : HasTextTargets g) (hdefined : HasDefinedIds g) :
    ∃ g' r events placeholder, g.relocate config = ⟨g', .ok (r, events)⟩ ∧
      Relocates config g placeholder (target? config g placeholder) g' r := by
  have hsound := (reading_of_ofValue hread).sound
  have hcandidates : ∀ {k}, k ∈ candidates g → k.isUndefined = false := by
    intro k hk
    obtain ⟨m, hm, hcandidate⟩ := mem_candidates.1 hk
    exact hdefined _ hm (.inr (kind_of_isCandidate hcandidate))
  obtain ⟨created, base, p, ids, events, hrun, hnodup, hlost, hrelocate, hlinked⟩ :=
    relocate_eq config hsound.linked hsound.contains_null hcandidates htypes hspelled
  exact ⟨_, _, events, placeholderIn created, hrelocate,
    hrun.relocates hdefined hlost hsound hnodup hlinked⟩

namespace Graph

/-- A graph file in which the member `x` of the type `H` extends the type `T`. The member has further
fields, and the type has other members. -/
def extensionFile (fields : List (Scalar × Value)) (others : List Value) : Value :=
  let record := fun fields : List (String × Value) =>
    Value.map (fields.map fun y => (.text y.1.toList, y.2))
  let member := Value.map ([(.text "name".toList, .text ['x']),
    (.text "extension".toList, .bool true), (.text "extends".toList, .text "N.T".toList)] ++ fields)
  let types := [record [("name", .text ['T'])],
    record [("name", .text ['H']), ("members", .list (member :: others))]]
  record [("assemblies", .list [record [("name", .text ['A']),
    ("namespaces", .list [record [("name", .text ['N']), ("types", .list types)]])]])]

/-- The graph that such a file describes. -/
def extensionGraph (fields : List (Scalar × Value)) (others : List Value) : Graph :=
  (ofValue (extensionFile fields others)).toOption.getD empty

open Relocation in
theorem relocate_effect_of_extension :
    let g := extensionGraph [] []
    ∃ g' r events placeholder, g.relocate {} = ⟨g', .ok (r, events)⟩ ∧
      Relocates {} g placeholder (target? {} g placeholder) g' r :=
  relocate_effect {} (show ofValue (extensionFile [] []) = .ok (extensionGraph [] []) from rfl)
    (by decide +kernel) (by decide +kernel) (by decide +kernel)

open Relocation in
/-- A member that has the undefined number for its id is listed by both types in the end. -/
theorem not_relocates_of_undefined :
    let g := extensionGraph [(.text "id".toList, .double .nan)] []
    ofValue (extensionFile [(.text "id".toList, .double .nan)] []) = .ok g ∧ HasTextNames g ∧
      HasTextTargets g ∧ ¬∃ g' r events placeholder, g.relocate {} = ⟨g', .ok (r, events)⟩ ∧
        Relocates {} g placeholder (target? {} g placeholder) g' r := by
  intro g
  refine ⟨rfl, by decide +kernel, by decide +kernel, ?_⟩
  rintro ⟨g', r, events, placeholder, heq, hrelocates⟩
  have hg' : g' = (g.relocate {}).graph := by rw [heq]
  have hlinked : (g.relocate {}).graph.WellLinked := hg' ▸ hrelocates.linked
  have hlisted : .double .nan ∈ (g.relocate {}).graph.childrenAt (.text "T:N.H".toList) := by
    decide +kernel
  have hholder : ((g.relocate {}).graph.get? (.double .nan)).bind Entity.holder? =
      some (.text "T:N.T".toList) := by
    decide +kernel
  unfold childrenAt at hlisted
  cases hget : (g.relocate {}).graph.get? (.text "T:N.H".toList) with
  | none =>
    rw [hget] at hlisted
    cases hlisted
  | some t =>
    obtain ⟨k, hk, hsame⟩ := exists_of_get? hget
    obtain rfl := Scalar.same_text.1 hsame
    rw [hget] at hlisted
    obtain ⟨c, hc, -, howner⟩ := hlinked.child hk hlisted
    rw [hlinked.distinct.get?_eq hc, Option.bind_some, howner] at hholder
    revert hholder
    decide

end Graph

end LinkedDocs
