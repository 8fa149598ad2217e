import LinkedDocs.Proofs.Placeholders

/-!
# Several moves at once

A number of moves of members to types, each member at most once, has the same effect as all of them
made at once: a type loses the members that are moved and then gets those that are moved to it, in
the order of the moves. Placeholders can be added before the moves as well as after them.
-/

namespace LinkedDocs

namespace Graph

variable {g : Graph} {k j mk tk : Scalar} {e x m t : Entity} {moves : List (Scalar × Scalar)}

/-- An entity after the moves, each from a member to its target. -/
def spreadOne (moves : List (Scalar × Scalar)) (k : Scalar) (x : Entity) : Entity :=
  match x.kind with
  | .type => x.withChildren
      (x.childIds.filter (· ∉ moves.map (·.1)) ++ (moves.filter (·.2 = k)).map (·.1))
  | .member =>
    match moves.lookup k with
    | some tk => Relocation.rehomed x (.scalar tk)
    | none => x
  | _ => x

/-- The graph after the moves. -/
def spread (g : Graph) (moves : List (Scalar × Scalar)) : Graph :=
  g.mapEntries (spreadOne moves)

lemma spreadOne_type (h : x.kind = .type) : spreadOne moves k x = x.withChildren
    (x.childIds.filter (· ∉ moves.map (·.1)) ++ (moves.filter (·.2 = k)).map (·.1)) := by
  simp [spreadOne, h]

lemma spreadOne_member (h : x.kind = .member) : spreadOne moves k x =
    match moves.lookup k with
    | some tk => Relocation.rehomed x (.scalar tk)
    | none => x := by
  simp [spreadOne, h]

lemma spreadOne_other (htype : x.kind ≠ .type) (hmember : x.kind ≠ .member) :
    spreadOne moves k x = x := by
  unfold spreadOne
  split <;> simp_all

@[simp] lemma kind_spreadOne : (spreadOne moves k x).kind = x.kind := by
  unfold spreadOne
  split
  · rfl
  · split
    · exact Relocation.kind_rehomed
    · rfl
  · rfl

lemma childIds_spreadOne (h : x.kind ≠ .type) : (spreadOne moves k x).childIds = x.childIds := by
  unfold spreadOne
  split
  · contradiction
  · split
    · exact Relocation.childIds_rehomed
    · rfl
  · rfl

lemma lookup_eq_none_iff {k : Scalar} : moves.lookup k = none ↔ k ∉ moves.map (·.1) := by
  rw [List.lookup_eq_none_iff]
  constructor
  · intro h hmem
    obtain ⟨y, hy, rfl⟩ := List.mem_map.1 hmem
    simpa using h y hy
  · intro h y hy
    rw [bne_iff_ne]
    rintro rfl
    exact h (List.mem_map_of_mem hy)

lemma spread_nil (h : g.WellLinked) : g.spread [] = g := by
  refine mapEntries_eq_self ?_
  intro k x hx
  unfold spreadOne
  split
  · simpa using Entity.withChildren_childIds (h.lists hx)
  · rfl
  · rfl

/-- One more move after the others. -/
theorem transfer_spread (h : g.WellLinked) (hm : (mk, m) ∈ g.entries) (hmkind : m.kind = .member)
    (ht : (tk, t) ∈ g.entries) (htkind : t.kind = .type) (hnew : mk ∉ moves.map (·.1)) :
    (g.spread moves).transfer mk tk = g.spread (moves ++ [(mk, tk)]) := by
  rw [transfer, spread, mapEntries_mapEntries, spread]
  refine mapEntries_congr ?_
  intro i x hx
  -- A member is listed by types only.
  have hlisted : mk ∈ x.childIds → x.kind = .type := by
    intro hmem
    obtain ⟨c, hc, hkind, -⟩ := h.child hx hmem
    rw [h.distinct.entity_unique hc hm, hmkind] at hkind
    exact (Option.some.inj hkind).symm
  by_cases himk : i = mk
  · subst himk
    obtain rfl := h.distinct.entity_unique hx hm
    rw [if_pos rfl, spreadOne_member hmkind, spreadOne_member hmkind, lookup_eq_none_iff.2 hnew,
      List.lookup_append, lookup_eq_none_iff.2 hnew]
    simp
  · rw [if_neg himk]
    by_cases hkind : x.kind = .type
    · have hfilter : (x.childIds.filter (· ∉ moves.map (·.1))).filter (· ≠ mk) =
          x.childIds.filter (· ∉ (moves ++ [(mk, tk)]).map (·.1)) := by
        rw [List.filter_filter]
        refine List.filter_congr ?_
        intro a _
        simp only [List.map_append, List.map_cons, List.map_nil, List.mem_append,
          List.mem_singleton]
        by_cases ham : a = mk <;> simp [ham]
      have harrived : ((moves.filter (·.2 = i)).map (·.1)).filter (· ≠ mk) =
          (moves.filter (·.2 = i)).map (·.1) := by
        rw [List.filter_eq_self]
        intro a ha
        have hne : a ≠ mk := by
          rintro rfl
          obtain ⟨y, hy, rfl⟩ := List.mem_map.1 ha
          exact hnew (List.mem_map_of_mem (List.mem_of_mem_filter hy))
        simp [hne]
      have hlosing : (spreadOne moves i x).losing mk = x.withChildren
          (x.childIds.filter (· ∉ (moves ++ [(mk, tk)]).map (·.1)) ++
            (moves.filter (·.2 = i)).map (·.1)) := by
        have hids := Entity.childIds_losing (x := spreadOne moves i x) (k := mk)
        rw [spreadOne_type hkind] at hids ⊢
        rw [Entity.childIds_withChildren, List.filter_append, hfilter, harrived] at hids
        rw [← hids]
        unfold Entity.losing
        split
        · simp
        · simp
      rw [hlosing, spreadOne_type hkind]
      by_cases hitk : i = tk
      · subst hitk
        simp [List.filter_append]
      · rw [if_neg hitk, List.filter_append]
        simp [Ne.symm hitk]
    · have hitk : i ≠ tk := by
        rintro rfl
        rw [h.distinct.entity_unique hx ht] at hkind
        exact hkind htkind
      have hunlisted : mk ∉ (spreadOne moves i x).childIds := by
        rw [childIds_spreadOne hkind]
        exact fun hmem => hkind (hlisted hmem)
      rw [if_neg hitk, Entity.losing_of_not_mem hunlisted]
      by_cases hmember : x.kind = .member
      · rw [spreadOne_member hmember, spreadOne_member hmember, List.lookup_append]
        have hlast : [(mk, tk)].lookup i = none := lookup_eq_none_iff.2 (by simpa using himk)
        rw [hlast, Option.or_none]
      · rw [spreadOne_other hkind hmember, spreadOne_other hkind hmember]

/-- Additions and moves can be made in either order. -/
theorem attach_spread (h : g.WellLinked) (hfree : g.contains k = false)
    (hadmits : g.Admits e) (hkind : e.kind = .namespace ∨ (e.kind = .type ∧ e.children = .list []))
    (htargets : ∀ y ∈ moves, y.2 ∈ g.keys) :
    (g.spread moves).attach k e = (g.attach k e).spread moves := by
  have hnew : k ∉ g.keys := not_mem_keys_of_free hfree
  have hself : spreadOne moves k e = e := by
    rcases hkind with hkind | ⟨hkind, hchildren⟩
    · exact spreadOne_other (by simp [hkind]) (by simp [hkind])
    · have hnone : moves.filter (·.2 = k) = [] := by
        rw [List.filter_eq_nil_iff]
        intro y hy
        have hne : y.2 ≠ k := by
          rintro rfl
          exact hnew (htargets y hy)
        simp [hne]
      have hempty : e.childIds = [] := by simp [Entity.childIds, hchildren]
      rw [spreadOne_type hkind, hnone, hempty]
      simp [Entity.withChildren, ← hchildren]
  have hparent : ∀ i x, (i, x) ∈ g.entries →
      (if e.holder? = some i then (spreadOne moves i x).withChildren
        ((spreadOne moves i x).childIds ++ [k]) else spreadOne moves i x) =
      spreadOne moves i
        (if e.holder? = some i then x.withChildren (x.childIds ++ [k]) else x) := by
    intro i x hx
    split
    case isTrue hholder =>
      obtain ⟨i', p, hp, hi', hpkind⟩ := hadmits (Entity.hasParent_of_holder? hholder)
      obtain rfl : i' = i := Option.some.inj (hi'.symm.trans hholder)
      rw [h.distinct.entity_unique hp hx] at hpkind
      have hhigh : x.kind ≠ .type ∧ x.kind ≠ .member := by
        rcases hkind with hkind | ⟨hkind, -⟩ <;> rw [hkind] at hpkind <;>
          rw [← Option.some.inj hpkind] <;> simp
      rw [spreadOne_other hhigh.1 hhigh.2, spreadOne_other]
      · simpa using hhigh.1
      · simpa using hhigh.2
    case isFalse => rfl
  simp only [attach, spread, push, mapEntries, List.map_append, List.map_map, List.map_cons,
    List.map_nil, hself]
  congr 2
  refine List.map_congr_left ?_
  rintro ⟨i, x⟩ hx
  exact congrArg (Prod.mk i) (hparent i x hx)

@[simp] lemma keys_spread : (g.spread moves).keys = g.keys :=
  keys_mapEntries

lemma mem_spread : (j, x) ∈ (g.spread moves).entries ↔
    ∃ y, (j, y) ∈ g.entries ∧ x = spreadOne moves j y :=
  mem_mapEntries

lemma contains_spread (s : Scalar) : (g.spread moves).contains s = g.contains s := by
  rw [Bool.eq_iff_iff, contains_iff, contains_iff, keys_spread]

lemma admits_of_spread (h : (g.spread moves).Admits e) : g.Admits e := by
  intro hset
  obtain ⟨i, p, hp, hholder, hkind⟩ := h hset
  obtain ⟨y, hy, rfl⟩ := mem_spread.1 hp
  exact ⟨i, y, hy, hholder, by rwa [kind_spreadOne] at hkind⟩

lemma assemblies_eq_nil : g.assemblies = [] ↔ ∀ {k e}, (k, e) ∈ g.entries → e.kind ≠ .assembly := by
  rw [assemblies, ofKind, List.filter_eq_nil_iff]
  constructor
  · intro h k e he
    simpa using h e (List.mem_map_of_mem he)
  · intro h e he
    obtain ⟨⟨k, e'⟩, he', rfl⟩ := List.mem_map.1 he
    simpa using h he'

lemma assemblies_of_spread (h : (g.spread moves).assemblies = []) : g.assemblies = [] := by
  rw [assemblies_eq_nil] at h ⊢
  intro k e he
  have hne := h (mem_spread.2 ⟨e, he, rfl⟩)
  rwa [kind_spreadOne] at hne

/-- What is added after the moves can be added before them. -/
theorem Grown.of_spread {created : List (Text × Scalar)} {g' : Graph}
    (hgrown : Grown (g.spread moves) created g') (h : g.WellLinked)
    (htargets : ∀ y ∈ moves, y.2 ∈ g.keys) :
    ∃ base, Grown g created base ∧ g' = base.spread moves := by
  induction hgrown with
  | refl => exact ⟨g, .refl, rfl⟩
  | issue n _ ih =>
    obtain ⟨base, hbase, rfl⟩ := ih
    exact ⟨_, hbase.issue n, rfl⟩
  | space _ hid hfree hadmits hnull ih =>
    obtain ⟨base, hbase, rfl⟩ := ih
    rw [contains_spread] at hfree
    have hadmits := admits_of_spread hadmits
    refine ⟨_, hbase.space hid hfree hadmits fun hunset => assemblies_of_spread (hnull hunset), ?_⟩
    refine attach_spread (hbase.wellLinked h) hfree hadmits (.inl rfl) ?_
    exact fun y hy => hbase.keys_subset (htargets y hy)
  | placeholder _ hid hfree hadmits hspace hremark ih =>
    obtain ⟨base, hbase, rfl⟩ := ih
    rw [contains_spread] at hfree
    have hadmits := admits_of_spread hadmits
    refine ⟨_, hbase.placeholder hid hfree hadmits hspace hremark, ?_⟩
    refine attach_spread (hbase.wellLinked h) hfree hadmits (.inr ⟨rfl, rfl⟩) ?_
    exact fun y hy => hbase.keys_subset (htargets y hy)

end Graph

end LinkedDocs
