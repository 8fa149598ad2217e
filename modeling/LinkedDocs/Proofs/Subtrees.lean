import LinkedDocs.Proofs.EntityRecords

/-!
# Subtrees of a graph

What an entity holds, directly and through others, is its subtree. In a well linked graph every
entity stands in exactly one subtree of an assembly. Writing a graph writes the subtrees of its
assemblies, one within the other.
-/

namespace LinkedDocs.Graph

variable {g : Graph} {k j i : Scalar} {e x c : Entity} {n : Nat}

/-- The entity with a key and the entities below it, as they are restored, at most `n` levels. -/
def subtree (g : Graph) : (n : Nat) → Scalar → List (Scalar × Entity)
  | 0, _ => []
  | n + 1, k =>
    match g.get? k with
    | some e => (k, e.restored) :: e.childIds.flatMap (subtree g n)
    | none => []

/-- The record of the entity with a key, with at most `n` levels of records. -/
def written (g : Graph) : (n : Nat) → Scalar → Value
  | 0, _ => .null
  | n + 1, k =>
    match g.get? k with
    | some e => record e (e.childIds.map (written g n))
    | none => .null

lemma subtree_succ (h : g.Distinct) (he : (k, e) ∈ g.entries) :
    g.subtree (n + 1) k = (k, e.restored) :: e.childIds.flatMap (g.subtree n) := by
  rw [subtree, h.get?_eq he]

lemma written_succ (h : g.Distinct) (he : (k, e) ∈ g.entries) :
    g.written (n + 1) k = record e (e.childIds.map (g.written n)) := by
  rw [written, h.get?_eq he]

/-- A child stands one level below. -/
lemma WellLinked.child_depth (h : g.WellLinked) (he : (k, e) ∈ g.entries) (hj : j ∈ e.childIds) :
    ∃ c, (j, c) ∈ g.entries ∧ c.kind.depth = e.kind.depth + 1 ∧ c.kind.height + 1 = e.kind.height ∧
      c.kind.parentKind? = some e.kind ∧ c.holder? = some k := by
  obtain ⟨c, hc, hkind, hholder⟩ := h.child he hj
  exact ⟨c, hc, EntityKind.depth_parentKind hkind, (EntityKind.height_parentKind hkind).symm, hkind,
    hholder⟩

/-- What stands in a subtree is an entity of the graph, and below the root unless it is the root. -/
lemma exists_of_mem_subtree (h : g.WellLinked) (he : (k, e) ∈ g.entries)
    (hx : (i, x) ∈ g.subtree n k) :
    ∃ y, (i, y) ∈ g.entries ∧ x = y.restored ∧ (i = k ∨ e.kind.depth < y.kind.depth) := by
  induction n generalizing k e with
  | zero => cases hx
  | succ n ih =>
    rw [subtree_succ h.distinct he] at hx
    rcases List.mem_cons.1 hx with heq | hx
    · obtain ⟨rfl, rfl⟩ := Prod.mk.inj heq
      exact ⟨e, he, rfl, .inl rfl⟩
    · obtain ⟨j, hj, hx⟩ := List.mem_flatMap.1 hx
      obtain ⟨c, hc, hdepth, -⟩ := h.child_depth he hj
      obtain ⟨y, hy, rfl, hroot⟩ := ih hc hx
      refine ⟨y, hy, rfl, .inr ?_⟩
      rcases hroot with rfl | hlt
      · rw [h.distinct.entity_unique hy hc]
        omega
      · omega

lemma mem_keys_of_subtree (h : g.WellLinked) (he : (k, e) ∈ g.entries)
    (hi : i ∈ (g.subtree n k).map (·.1)) : i ∈ g.keys := by
  obtain ⟨⟨i, x⟩, hx, rfl⟩ := List.mem_map.1 hi
  obtain ⟨y, hy, -⟩ := exists_of_mem_subtree h he hx
  exact mem_keys_of_mem hy

/-- An entity does not stand below itself. -/
lemma root_not_mem_below (h : g.WellLinked) (he : (k, e) ∈ g.entries) :
    k ∉ (e.childIds.flatMap (g.subtree n)).map (·.1) := by
  intro hmem
  obtain ⟨⟨i, x⟩, hx, hik⟩ := List.mem_map.1 hmem
  obtain rfl : i = k := hik
  obtain ⟨j, hj, hx⟩ := List.mem_flatMap.1 hx
  obtain ⟨c, hc, hcdepth, -⟩ := h.child_depth he hj
  obtain ⟨y, hy, -, hroot⟩ := exists_of_mem_subtree h hc hx
  obtain rfl := h.distinct.entity_unique he hy
  rcases hroot with rfl | hlt
  · rw [h.distinct.entity_unique he hc] at hcdepth
    omega
  · omega

/-- Two subtrees with roots at the same depth have nothing in common. -/
lemma root_unique {k' : Scalar} {e' : Entity} {m : Nat} (h : g.WellLinked)
    (he : (k, e) ∈ g.entries) (he' : (k', e') ∈ g.entries) (hdepth : e.kind.depth = e'.kind.depth)
    (hi : i ∈ (g.subtree n k).map (·.1)) (hi' : i ∈ (g.subtree m k').map (·.1)) : k = k' := by
  induction n generalizing k e k' e' m with
  | zero => cases hi
  | succ n ih =>
    cases m with
    | zero => cases hi'
    | succ m =>
      obtain ⟨⟨i, x⟩, hx, rfl⟩ := List.mem_map.1 hi
      obtain ⟨⟨i', x'⟩, hx', hii⟩ := List.mem_map.1 hi'
      obtain rfl : i' = i := hii
      obtain ⟨y, hy, -, hroot⟩ := exists_of_mem_subtree h he hx
      obtain ⟨y', hy', -, hroot'⟩ := exists_of_mem_subtree h he' hx'
      obtain rfl := h.distinct.entity_unique hy hy'
      rw [subtree_succ h.distinct he] at hx
      rw [subtree_succ h.distinct he'] at hx'
      rcases List.mem_cons.1 hx with heq | hx
      · -- The root of the one is not below the root of the other.
        obtain rfl : i' = k := congrArg Prod.fst heq
        obtain rfl := h.distinct.entity_unique he hy
        rcases hroot' with rfl | hlt
        · rfl
        · omega
      · rcases List.mem_cons.1 hx' with heq | hx'
        · obtain rfl : i' = k' := congrArg Prod.fst heq
          obtain rfl := h.distinct.entity_unique he' hy
          rcases hroot with rfl | hlt
          · rfl
          · omega
        · obtain ⟨j, hj, hx⟩ := List.mem_flatMap.1 hx
          obtain ⟨j', hj', hx'⟩ := List.mem_flatMap.1 hx'
          obtain ⟨c, hc, hcdepth, -, -, hholder⟩ := h.child_depth he hj
          obtain ⟨c', hc', hcdepth', -, -, hholder'⟩ := h.child_depth he' hj'
          obtain rfl := ih hc hc' (by omega) (List.mem_map.2 ⟨_, hx, rfl⟩)
            (List.mem_map.2 ⟨_, hx', rfl⟩)
          rw [h.distinct.entity_unique hc hc'] at hholder
          exact Option.some.inj (hholder.symm.trans hholder')

/-- In a row of subtrees with roots at the same depth every entity stands once. -/
lemma subtrees_nodup (h : g.WellLinked) {ids : List Scalar} {d : Nat} (hids : ids.Nodup)
    (hdepth : ∀ j ∈ ids, ∃ c, (j, c) ∈ g.entries ∧ c.kind.depth = d) :
    ((ids.flatMap (g.subtree n)).map (·.1)).Nodup := by
  induction n generalizing ids d with
  | zero =>
    have hempty : ids.flatMap (g.subtree 0) = [] := List.flatMap_eq_nil_iff.2 fun _ _ => rfl
    rw [hempty]
    exact List.nodup_nil
  | succ n ih =>
    rw [List.map_flatMap, List.nodup_flatMap]
    constructor
    · intro k hk
      obtain ⟨e, he, hd⟩ := hdepth k hk
      rw [subtree_succ h.distinct he, List.map_cons, List.nodup_cons]
      constructor
      · exact root_not_mem_below h he
      · refine ih (d := d + 1) (h.nodup he) ?_
        intro j hj
        obtain ⟨c, hc, hcdepth, -⟩ := h.child_depth he hj
        exact ⟨c, hc, by omega⟩
    · refine hids.imp_of_mem ?_
      intro a b ha hb hab i hi hi'
      obtain ⟨e, he, hd⟩ := hdepth a ha
      obtain ⟨e', he', hd'⟩ := hdepth b hb
      exact hab (root_unique h he he' (by omega) hi hi')

/-- A subtree that goes down far enough has the children of what it has. -/
lemma child_mem_subtree (h : g.WellLinked) (he : (k, e) ∈ g.entries) (hn : e.kind.height < n)
    (hi : i ∈ (g.subtree n k).map (·.1)) (hx : (i, x) ∈ g.entries) (hj : j ∈ x.childIds)
    (hc : (j, c) ∈ g.entries) : (j, c.restored) ∈ g.subtree n k := by
  induction n generalizing k e with
  | zero => cases hi
  | succ n ih =>
    rw [subtree_succ h.distinct he] at hi ⊢
    refine List.mem_cons_of_mem _ (List.mem_flatMap.2 ?_)
    rcases List.mem_cons.1 hi with rfl | hi
    · obtain rfl := h.distinct.entity_unique hx he
      obtain ⟨c', hc', -, hheight, -⟩ := h.child_depth hx hj
      obtain rfl := h.distinct.entity_unique hc hc'
      refine ⟨j, hj, ?_⟩
      cases n with
      | zero => omega
      | succ n => simp [subtree_succ h.distinct hc]
    · rw [List.map_flatMap, List.mem_flatMap] at hi
      obtain ⟨j', hj', hi⟩ := hi
      obtain ⟨c', hc', -, hheight, -⟩ := h.child_depth he hj'
      exact ⟨j', hj', ih hc' (by omega) hi⟩

lemma mem_assemblyKeys : k ∈ g.assemblyKeys ↔ ∃ e, (k, e) ∈ g.entries ∧ e.kind = .assembly := by
  simp [assemblyKeys]

lemma depth_of_assembly (hk : k ∈ g.assemblyKeys) : ∃ e, (k, e) ∈ g.entries ∧ e.kind.depth = 0 := by
  obtain ⟨e, he, hkind⟩ := mem_assemblyKeys.1 hk
  exact ⟨e, he, by rw [hkind]; rfl⟩

/-- All entities as they are restored, each assembly followed by what it holds. -/
def listing (g : Graph) : List (Scalar × Entity) :=
  g.assemblyKeys.flatMap (g.subtree 5)

/-- The listing has the entities of the graph. -/
theorem mem_listing (h : g.Sound) :
    (i, x) ∈ g.listing ↔ ∃ y, (i, y) ∈ g.entries ∧ x = y.restored := by
  constructor
  · intro hx
    obtain ⟨k, hk, hx⟩ := List.mem_flatMap.1 hx
    obtain ⟨e, he, -⟩ := mem_assemblyKeys.1 hk
    obtain ⟨y, hy, hxy, -⟩ := exists_of_mem_subtree h.linked he hx
    exact ⟨y, hy, hxy⟩
  · rintro ⟨y, hy, rfl⟩
    -- An entity below an assembly is in the listing because its parent is.
    induction hd : y.kind.depth generalizing i y with
    | zero =>
      have hkind : y.kind = .assembly := by
        cases hk : y.kind <;> simp_all [EntityKind.depth]
      refine List.mem_flatMap.2 ⟨i, mem_assemblyKeys.2 ⟨y, hy, hkind⟩, ?_⟩
      simp [subtree_succ h.linked.distinct hy]
    | succ d ih =>
      have hkind : y.kind ≠ .assembly := by
        intro hkind
        rw [hkind] at hd
        cases hd
      have hset := h.rooted hy hkind
      obtain ⟨pk, p, hp, hholder, hmem⟩ := h.linked.parent hy hset
      have hpdepth := EntityKind.depth_parentKind (h.linked.parentKind hp hy hholder)
      obtain ⟨k, hk, hpk⟩ := List.mem_flatMap.1 (ih p hp (by omega))
      obtain ⟨e, he, hekind⟩ := mem_assemblyKeys.1 hk
      refine List.mem_flatMap.2 ⟨k, hk, child_mem_subtree h.linked he ?_
        (List.mem_map_of_mem hpk) hp hmem hy⟩
      rw [hekind]
      decide

/-! ### Writing -/

lemma childKeys_eq (h : e.children = .list (e.childIds.map .scalar)) :
    e.childKeys = .ok e.childIds := by
  rw [Entity.childKeys, h]
  have hids : ∀ ids : List Scalar, (ids.map Value.scalar).mapM Value.identifier = .ok ids := by
    intro ids
    rw [mapM_eq_ok, List.forall₂_map_left_iff, List.forall₂_same]
    exact fun _ _ => rfl
  exact hids _

/-- Entities that are written one after another, looked up by their keys. -/
lemma mapM_filterMap_get? {f : Entity → Except Fault Value} {u : Scalar → Value}
    {ids : List Scalar} (h : ∀ j ∈ ids, ∃ c, g.get? j = some c ∧ f c = .ok (u j)) :
    (ids.filterMap g.get?).mapM f = .ok (ids.map u) := by
  rw [mapM_eq_ok]
  induction ids with
  | nil => exact .nil
  | cons j ids ih =>
    obtain ⟨c, hget, hone⟩ := h j (by simp)
    rw [List.filterMap_cons_some hget, List.map_cons]
    exact .cons hone (ih fun i hi => h i (by simp [hi]))

lemma dumpEntity_written (h : g.Sound) (he : (k, e) ∈ g.entries) (hn : e.kind.height < n) :
    g.dumpEntity e = .ok (g.written n k) := by
  induction n generalizing k e with
  | zero => omega
  | succ n ih =>
    rw [written_succ h.linked.distinct he]
    have hchildren : g.childrenOf e = .ok (e.childIds.filterMap g.get?) := by
      rw [childrenOf, childKeys_eq (h.linked.lists he), Except.map]
    refine dumpEntity_eq (h.readable he) (h.linked.id_eq he) (h.holds he) hchildren ?_ ?_
    · intro c hc
      obtain ⟨j, hj, hget⟩ := List.mem_filterMap.1 hc
      obtain ⟨c', hc', hkind, -⟩ := h.linked.child he hj
      rw [h.linked.distinct.get?_eq hc', Option.some.injEq] at hget
      rwa [← hget]
    · refine mapM_filterMap_get? ?_
      intro j hj
      obtain ⟨c, hc, -, hheight, -⟩ := h.linked.child_depth he hj
      exact ⟨c, h.linked.distinct.get?_eq hc, ih hc (by omega)⟩

/-- A sound graph can be written. -/
theorem dump_eq (h : g.Sound) :
    g.dump = .ok (.map [field "assemblies".toList (.list (g.assemblyKeys.map (g.written 5)))]) := by
  have hlist : g.assemblies = g.assemblyKeys.filterMap g.get? := by
    have hmap : g.assemblies = (g.entries.filter (·.2.kind = .assembly)).map (·.2) := by
      simp [assemblies, ofKind, entities, List.filter_map, Function.comp_def]
    rw [hmap, assemblyKeys, List.filterMap_map, ← List.filterMap_eq_map]
    refine List.filterMap_congr ?_
    rintro ⟨k, e⟩ he
    exact (h.linked.distinct.get?_eq (List.mem_of_mem_filter he)).symm
  have hall : g.assemblies.mapM g.dumpAssembly = .ok (g.assemblyKeys.map (g.written 5)) := by
    rw [hlist]
    refine mapM_filterMap_get? ?_
    intro k hk
    obtain ⟨e, he, hkind⟩ := mem_assemblyKeys.1 hk
    refine ⟨e, h.linked.distinct.get?_eq he, ?_⟩
    have hwritten := dumpEntity_written (n := 5) h he (by rw [hkind]; decide)
    rwa [dumpEntity, hkind] at hwritten
  rw [dump, hall]
  rfl

end LinkedDocs.Graph
