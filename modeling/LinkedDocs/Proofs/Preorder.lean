import LinkedDocs.Proofs.Reach

/-!
# Pre-order

A walk keeps a stack of keys. It visits the same entities in the same order as the recursive
traversal that visits an entity, then everything below the first child, then everything below the
next one, and skips what is not there and what it has visited before. The lists of the entities may
be arbitrary: they may have keys of nothing, keys of anything, a key twice, a key that another list
has too, and the key of an entity above. Main statement: a walk over any such graph is the recursive
traversal of its assemblies, and visits whatever they hold once.
-/

namespace LinkedDocs.Graph

open Relation (ReflTransGen)

variable {g : Graph} {k j : Scalar} {e : Entity} {seen seen' stack : List Scalar}

/-- Entities stand under their ids, and list keys of whatever there is or is not. -/
structure IsArena (g : Graph) : Prop where
  distinct : g.Distinct
  keyed : g.Keyed
  lists : ∀ y ∈ g.entries, y.2.children = .list (y.2.childIds.map .scalar)

/-! ### The recursive traversal -/

/-- A key that is there and has not been seen leaves fewer keys to see. -/
lemma countP_unseen_lt (hget : g.get? k = some e) (hseen : ¬hasId seen k = true)
    (more : List Scalar) : g.keys.countP (!hasId (more ++ k :: seen) ·) <
      g.keys.countP (!hasId seen ·) := by
  obtain ⟨j, hj, hs⟩ := exists_of_get? hget
  refine countP_lt_of_mem ?_ (mem_keys_of_mem hj) ?_ ?_
  · intro i hi
    simp only [hasId, List.any_append, List.any_cons, Bool.not_eq_true',
      Bool.or_eq_false_iff] at hi ⊢
    exact hi.2.2
  · simpa [hasId_congr hs] using hseen
  · simp [hasId, Scalar.same_comm k, hs]

/-- The entities below the keys, each before what it lists. -/
def preorder (g : Graph) (seen : List Scalar) : List Scalar → List (Scalar × Entity)
  | [] => []
  | k :: ks =>
    match _hget : g.get? k with
    | none => preorder g seen ks
    | some e =>
      if _hseen : hasId seen k then preorder g seen ks
      else
        let below := preorder g (k :: seen) e.childIds
        (k, e) :: below ++ preorder g (below.map (·.1) ++ k :: seen) ks
termination_by ks => (g.keys.countP (!hasId seen ·), ks.length)
decreasing_by
  · exact Prod.Lex.right _ (by simp)
  · exact Prod.Lex.right _ (by simp)
  · exact Prod.Lex.left _ _ (countP_unseen_lt _hget _hseen [])
  · exact Prod.Lex.left _ _ (countP_unseen_lt _hget _hseen _)

lemma preorder_of_none (hget : g.get? k = none) :
    g.preorder seen (k :: stack) = g.preorder seen stack := by
  rw [preorder]
  split
  · rfl
  case h_2 he =>
    rw [hget] at he
    cases he

lemma preorder_of_seen (hseen : hasId seen k = true) :
    g.preorder seen (k :: stack) = g.preorder seen stack := by
  rw [preorder]
  split
  · rfl
  · rw [dif_pos hseen]

lemma preorder_of_some (hget : g.get? k = some e) (hseen : hasId seen k = false) :
    g.preorder seen (k :: stack) = (k, e) :: g.preorder (k :: seen) e.childIds ++
      g.preorder ((g.preorder (k :: seen) e.childIds).map (·.1) ++ k :: seen) stack := by
  rw [preorder]
  split
  case h_1 he =>
    rw [hget] at he
    cases he
  case h_2 e' he =>
    obtain rfl : e' = e := Option.some.inj (he.symm.trans hget)
    rw [dif_neg (by simp [hseen])]

/-! ### The walk takes the same course -/

/-- A walk asks of the keys it has seen only which they are. -/
lemma visitFrom_congr (h : ∀ i, hasId seen i = hasId seen' i) :
    g.visitFrom seen stack = g.visitFrom seen' stack := by
  fun_induction Graph.visitFrom g seen stack generalizing seen' with
  | case1 => rw [visitFrom]
  | case2 seen key stack hget ih => rw [visitFrom_of_none hget, ih h]
  | case3 seen key stack e hget fault hid => simp only [visitFrom_of_some hget, hid]
  | case4 seen key stack e hget id hid hseen ih =>
    rw [visitFrom_of_some hget, hid]
    dsimp only
    rw [if_pos (by rw [← h, hseen]), ih h]
  | case5 seen key stack e hget id hid hseen fault hfault =>
    rw [visitFrom_of_some hget, hid]
    dsimp only
    rw [if_neg (by rwa [← h]), hfault]
  | case6 seen key stack e hget id hid hseen keys hkeys ih =>
    rw [visitFrom_of_some hget, hid]
    dsimp only
    rw [if_neg (by rwa [← h]), hkeys]
    dsimp only
    rw [ih]
    intro i
    simp only [hasId, List.any_cons] at h ⊢
    rw [h]

/-- What a walk does with the key of an entity. -/
lemma IsArena.visitFrom_cons (h : g.IsArena) (hget : g.get? k = some e) :
    g.visitFrom seen (k :: stack) =
      if hasId seen k then g.visitFrom seen stack
      else (g.visitFrom (k :: seen) (e.childIds ++ stack)).map ((k, e) :: ·) := by
  obtain ⟨j, hj, hs⟩ := exists_of_get? hget
  have hid : e.id.identifier = .ok j := by
    rw [h.keyed _ hj]
    rfl
  have hcons : ∀ i, hasId (j :: seen) i = hasId (k :: seen) i := by
    intro i
    rw [hasId, hasId, List.any_cons, List.any_cons, Scalar.same, Scalar.same, Scalar.same_iff.1 hs]
  rw [visitFrom_of_some hget, hid, childKeys_eq (h.lists _ hj)]
  dsimp only
  rw [hasId_congr hs, visitFrom_congr hcons]

/-- The walk does the traversal of the keys on top of its stack, and then goes on with the rest. -/
theorem IsArena.visitFrom_append (h : g.IsArena) (seen ks stack : List Scalar) :
    g.visitFrom seen (ks ++ stack) =
      (g.visitFrom ((g.preorder seen ks).map (·.1) ++ seen) stack).map
        (g.preorder seen ks ++ ·) := by
  fun_induction preorder g seen ks generalizing stack with
  | case1 seen => cases hv : g.visitFrom seen stack <;> simp [hv, Except.map]
  | case2 seen k ks hget ih => rw [List.cons_append, visitFrom_of_none hget, ih]
  | case3 seen k ks e hget hseen ih =>
    rw [List.cons_append, h.visitFrom_cons hget, if_pos hseen, ih]
  | case4 seen k ks e hget hseen below ihbelow ihrest =>
    -- In the end both have seen the same keys, though in another order.
    have hsame : ∀ i, hasId ((g.preorder (below.map (·.1) ++ k :: seen) ks).map (·.1) ++
        (below.map (·.1) ++ k :: seen)) i = hasId (((k, e) :: below ++
          g.preorder (below.map (·.1) ++ k :: seen) ks).map (·.1) ++ seen) i := by
      intro i
      simp only [hasId, List.map_append, List.map_cons, List.cons_append, List.any_cons,
        List.any_append]
      grind
    rw [List.cons_append, h.visitFrom_cons hget, if_neg hseen, ihbelow, ihrest,
      visitFrom_congr hsame]
    cases g.visitFrom _ stack <;> simp [Except.map, below]

lemma IsArena.visits_eq (h : g.IsArena) : g.visits = .ok (g.preorder [] g.assemblyKeys) := by
  have hwalk := h.visitFrom_append [] g.assemblyKeys []
  rw [List.append_nil] at hwalk
  rw [visits, hwalk, visitFrom]
  simp [Except.map]

/-! ### What is visited -/

/-- What the traversal visits is held by an entity that it started from. -/
lemma reaches_of_mem_preorder (hmem : (j, e) ∈ g.preorder seen stack) :
    ∃ k ∈ stack, ∃ a ∈ g.keys, a.same k = true ∧ ∃ i, ReflTransGen g.Lists a i ∧
      (i, e) ∈ g.entries := by
  fun_induction preorder g seen stack with
  | case1 => simp at hmem
  | case2 seen k ks hget ih =>
    obtain ⟨b, hb, hrest⟩ := ih hmem
    exact ⟨b, by simp [hb], hrest⟩
  | case3 seen k ks x hget hseen ih =>
    obtain ⟨b, hb, hrest⟩ := ih hmem
    exact ⟨b, by simp [hb], hrest⟩
  | case4 seen k ks x hget hseen below ihbelow ihrest =>
    obtain ⟨a, ha, hs⟩ := exists_of_get? hget
    rcases List.mem_append.1 hmem with hmem | hmem
    · refine ⟨k, by simp, a, mem_keys_of_mem ha, hs, ?_⟩
      rcases List.mem_cons.1 hmem with heq | hmem
      · obtain ⟨-, rfl⟩ := Prod.mk.inj heq
        exact ⟨a, .refl, ha⟩
      · obtain ⟨c, hc, b, hb, hbc, i, hreach, hi⟩ := ihbelow hmem
        have hlists : g.Lists a b := by
          refine ⟨hb, x, ha, List.any_eq_true.2 ⟨c, hc, ?_⟩⟩
          rwa [Scalar.same_comm]
        exact ⟨i, .head hlists hreach, hi⟩
    · obtain ⟨b, hb, hrest⟩ := ihrest hmem
      exact ⟨b, by simp [hb], hrest⟩

lemma Visited.congr {visits : List (Scalar × Entity)} (hs : j.same k = true)
    (h : Visited seen visits j) : Visited seen visits k := by
  rcases h with h | ⟨y, hy, hyj⟩
  · exact .inl (by rwa [← hasId_congr hs])
  · exact .inr ⟨y, hy, Scalar.same_trans hyj hs⟩

/-- A walk visits whatever an assembly holds. -/
lemma IsArena.visited_of_reaches (h : g.IsArena) {visits : List (Scalar × Entity)} {a : Scalar}
    (hvisits : g.visits = .ok visits) (ha : a ∈ g.assemblyKeys)
    (hreach : ReflTransGen g.Lists a k) : Visited [] visits k := by
  obtain ⟨hstack, hchildren⟩ := h.keyed.visited hvisits
  induction hreach with
  | refl =>
    obtain ⟨x, hx, -⟩ := mem_assemblyKeys.1 ha
    exact hstack a ha (by simp [h.distinct.get?_eq hx])
  | @tail i j _ hij ih =>
    obtain ⟨hj, p, hp, hlisted⟩ := hij
    obtain ⟨c, hc, hcj⟩ := List.any_eq_true.1 hlisted
    rcases ih with hseen | ⟨⟨i', p'⟩, hy, hs⟩
    · cases hseen
    · have hget := get?_of_mem_visitFrom hvisits hy
      rw [get?_congr hs, h.distinct.get?_eq hp] at hget
      obtain rfl : p = p' := Option.some.inj hget
      have hkeys : p.childKeys = .ok p.childIds := childKeys_eq (h.lists _ hp)
      obtain ⟨x, hx⟩ := mem_keys.1 hj
      refine (hchildren _ hy _ hkeys c hc ?_).congr hcj
      simp [get?_congr hcj, h.distinct.get?_eq hx]

/-- No entity is visited twice. -/
lemma IsArena.nodup_visits (h : g.IsArena) {visits : List (Scalar × Entity)}
    (hvisits : g.visits = .ok visits) : (visits.map (·.2)).Nodup := by
  rw [List.Nodup, List.pairwise_map]
  refine (h.keyed.visitFrom hvisits).2.imp_of_mem ?_
  intro y z hy hz hne heq
  obtain ⟨i, hi, his⟩ := h.keyed.id_of_get? (get?_of_mem_visitFrom hvisits hy)
  obtain ⟨j, hj, hjs⟩ := h.keyed.id_of_get? (get?_of_mem_visitFrom hvisits hz)
  rw [heq, hj] at hi
  obtain rfl : j = i := by simpa using hi
  rw [Scalar.same_comm] at his
  rw [Scalar.same_trans his hjs] at hne
  cases hne

/-- **A walk is a recursive traversal in pre-order.** It ends, visits what the traversal of the
assemblies visits and in its order, and so visits everything that an assembly holds, nothing else,
and nothing twice. -/
theorem walk_preorder (h : g.IsArena) :
    let es := (g.preorder [] g.assemblyKeys).map (·.2)
    g.walk = .ok es ∧ es.Nodup ∧
      ∀ e, e ∈ es ↔ ∃ a ∈ g.assemblyKeys, ∃ k, ReflTransGen g.Lists a k ∧ (k, e) ∈ g.entries := by
  intro es
  have hvisits := h.visits_eq
  refine ⟨by rw [walk, hvisits]; rfl, h.nodup_visits hvisits, ?_⟩
  intro e
  constructor
  · intro he
    obtain ⟨⟨j, x⟩, hmem, rfl⟩ := List.mem_map.1 he
    obtain ⟨k, hk, a, ha, hs, i, hreach, hi⟩ := reaches_of_mem_preorder hmem
    obtain ⟨y, hy, -⟩ := mem_assemblyKeys.1 hk
    rw [h.distinct.eq_of_same ha (mem_keys_of_mem hy) hs] at hreach
    exact ⟨k, hk, i, hreach, hi⟩
  · rintro ⟨a, ha, k, hreach, hk⟩
    rcases h.visited_of_reaches hvisits ha hreach with hseen | ⟨⟨j, x⟩, hmem, hs⟩
    · cases hseen
    · have hget := get?_of_mem_visitFrom hvisits hmem
      rw [get?_congr hs, h.distinct.get?_eq hk] at hget
      exact List.mem_map.2 ⟨_, hmem, (Option.some.inj hget).symm⟩

/-- An assembly that lists the namespace `N` twice and the namespace `M`, and between them a key of
nothing. The namespace `N` lists the other one and the assembly, and `M` lists itself and a type.
Nothing lists the type `U`. -/
def tangled : Graph :=
  let entry (detail : Detail) (t : Text) (ids : List Text) : Scalar × Entity :=
    (.text t, { id := .text t, name := .text t, detail, children := .list (ids.map .text) })
  let type : Detail := .type (.text []) (.proper .classType) (.bool false)
  { empty with entries := [entry type ['U'] [], entry .assembly ['A'] [['N'], ['X'], ['N'], ['M']],
      entry .namespace ['M'] [['M'], ['T']], entry .namespace ['N'] [['M'], ['A']],
      entry type ['T'] []] }

theorem walk_preorder_tangled : tangled.IsArena ∧
    ∃ visits : List (Scalar × Entity), tangled.walk = .ok (visits.map (·.2)) ∧
      visits.map (·.1) = [.text ['A'], .text ['N'], .text ['M'], .text ['T']] := by
  have h : tangled.IsArena := by
    refine ⟨by unfold Distinct; decide, ?_, ?_⟩
    all_goals
      intro y hy
      simp only [tangled, List.mem_cons, List.not_mem_nil, or_false] at hy
      rcases hy with rfl | rfl | rfl | rfl | rfl <;> rfl
  refine ⟨h, _, (walk_preorder h).1, ?_⟩
  have hroots : tangled.assemblyKeys = [.text ['A']] := rfl
  obtain ⟨a, hA, hAids⟩ : ∃ a, tangled.get? (.text ['A']) = some a ∧
      a.childIds = [.text ['N'], .text ['X'], .text ['N'], .text ['M']] := ⟨_, rfl, rfl⟩
  obtain ⟨n, hN, hNids⟩ : ∃ n, tangled.get? (.text ['N']) = some n ∧
      n.childIds = [.text ['M'], .text ['A']] := ⟨_, rfl, rfl⟩
  obtain ⟨m, hM, hMids⟩ : ∃ m, tangled.get? (.text ['M']) = some m ∧
      m.childIds = [.text ['M'], .text ['T']] := ⟨_, rfl, rfl⟩
  obtain ⟨t, hT, hTids⟩ : ∃ t, tangled.get? (.text ['T']) = some t ∧ t.childIds = [] :=
    ⟨_, rfl, rfl⟩
  have hX : tangled.get? (.text ['X']) = none := rfl
  have hnil (seen : List Scalar) : tangled.preorder seen [] = [] := by rw [preorder]
  simp (disch := decide) only [hroots, preorder_of_seen, preorder_of_some hA, hAids,
    preorder_of_some hN, hNids, preorder_of_some hM, hMids, preorder_of_some hT, hTids,
    preorder_of_none hX, hnil, List.map_cons, List.map_nil, List.cons_append, List.nil_append,
    List.append_nil]

end LinkedDocs.Graph
