import LinkedDocs.Proofs.Links
import Mathlib.Logic.Relation

/-!
# Removing entities

An entity without children is removed by dropping it and taking it from the list of its parent.
An entity with children is removed after them, so that a removal is a number of such steps, one for
each entity that it holds, and keeps a graph well linked. Main statement: a removal takes away an
entity with everything below it and changes nothing else but the list of its parent. No key of the
graph may be null, since null stands for a parent that is not set.
-/

namespace LinkedDocs

namespace Entity

variable {x : Entity} {k i : Scalar}

/-- The entity with an id taken from its child list. -/
def losing (x : Entity) (k : Scalar) : Entity :=
  if k ∈ x.childIds then x.withChildren (x.childIds.filter (· ≠ k)) else x

@[simp] lemma kind_losing : (x.losing k).kind = x.kind := by
  unfold losing
  split <;> rfl

@[simp] lemma id_losing : (x.losing k).id = x.id := by
  unfold losing
  split <;> rfl

@[simp] lemma parent_losing : (x.losing k).parent = x.parent := by
  unfold losing
  split <;> rfl

@[simp] lemma holder?_losing : (x.losing k).holder? = x.holder? := by
  simp [holder?]

lemma losing_of_not_mem (h : k ∉ x.childIds) : x.losing k = x :=
  if_neg h

lemma childIds_losing : (x.losing k).childIds = x.childIds.filter (· ≠ k) := by
  unfold losing
  split
  case isTrue h => simp
  case isFalse h =>
    rw [List.filter_eq_self.2]
    intro i hi
    have hne : i ≠ k := by
      rintro rfl
      exact h hi
    simp [hne]

lemma mem_childIds_losing : i ∈ (x.losing k).childIds ↔ i ∈ x.childIds ∧ i ≠ k := by
  simp [childIds_losing]

lemma children_losing (h : x.children = .list (x.childIds.map .scalar)) :
    (x.losing k).children = .list ((x.losing k).childIds.map .scalar) := by
  unfold losing
  split
  · simp
  · exact h

lemma hasParent_losing : (x.losing k).HasParent ↔ x.HasParent := by
  simp [HasParent]

end Entity

namespace Graph

variable {P : EntityKind → Prop} {g : Graph} {k j : Scalar} {e x : Entity}

/-- The graph without an entity, which no list has any more. -/
def detach (g : Graph) (k : Scalar) : Graph :=
  { g with entries := (g.mapEntries fun _ x => x.losing k).entries.filter (·.1 ≠ k) }

lemma keys_detach : (g.detach k).keys = g.keys.filter (· ≠ k) := by
  simp [keys, detach, mapEntries, List.filter_map, Function.comp_def]

lemma mem_detach :
    (j, x) ∈ (g.detach k).entries ↔ j ≠ k ∧ ∃ y, (j, y) ∈ g.entries ∧ x = y.losing k := by
  have hmem : (j, x) ∈ (g.detach k).entries ↔
      (j, x) ∈ (g.mapEntries fun _ x => x.losing k).entries ∧ j ≠ k := by
    simp [detach]
  rw [hmem, mem_mapEntries, and_comm]

/-- Dropping an entity without children keeps a graph linked. -/
theorem Linked.detach (h : g.Linked P) (he : (k, e) ∈ g.entries)
    (hleaf : e.childIds = []) : (g.detach k).Linked P := by
  constructor
  · rw [Distinct, keys_detach]
    exact List.Pairwise.filter _ h.distinct
  · intro j x hx
    obtain ⟨-, y, hy, rfl⟩ := mem_detach.1 hx
    rw [Entity.id_losing]
    exact h.id_eq hy
  · intro j x hx
    obtain ⟨-, y, hy, rfl⟩ := mem_detach.1 hx
    exact Entity.children_losing (h.lists hy)
  · intro j x hx
    obtain ⟨-, y, hy, rfl⟩ := mem_detach.1 hx
    rw [Entity.childIds_losing]
    exact (h.nodup hy).filter _
  · intro j x i hx hi
    obtain ⟨-, y, hy, rfl⟩ := mem_detach.1 hx
    obtain ⟨hmem, hik⟩ := Entity.mem_childIds_losing.1 hi
    obtain ⟨c, hc, hkind, hholder⟩ := h.child hy hmem
    refine ⟨c.losing k, mem_detach.2 ⟨hik, c, hc, rfl⟩, ?_, ?_⟩
    · simpa using hkind
    · simpa using hholder
  · intro j x hx hset
    obtain ⟨hjk, y, hy, rfl⟩ := mem_detach.1 hx
    obtain ⟨i, p, hp, hholder, hmem⟩ := h.parent hy (Entity.hasParent_losing.1 hset)
    -- The parent is another entity, since the dropped one lists nothing.
    have hik : i ≠ k := by
      rintro rfl
      rw [h.distinct.entity_unique hp he, hleaf] at hmem
      cases hmem
    refine ⟨i, p.losing k, mem_detach.2 ⟨hik, p, hp, rfl⟩, ?_, ?_⟩
    · simpa using hholder
    · exact Entity.mem_childIds_losing.2 ⟨hmem, hjk⟩

theorem WellLinked.detach (h : g.WellLinked) (he : (k, e) ∈ g.entries)
    (hleaf : e.childIds = []) : (g.detach k).WellLinked :=
  ((h.linked _).detach he hleaf).wellLinked

/-! ### Taking an entity from its parent's list -/

lemma withoutId_scalar {ids : List Scalar} (hk : hasId ids k = true) :
    withoutId (.list (ids.map .scalar)) (.scalar k) =
      .ok (.list ((ids.filter (!k.same ·)).map .scalar)) := by
  simp [withoutId, has_scalar, hk, bind, Except.bind, pure, Except.pure, Value.untied, Value.same,
    List.filter_map, Function.comp_def]

lemma erase_losing (h : g.Distinct) (hk : k ∈ g.keys) :
    (g.mapEntries fun _ x => x.losing k).erase k = g.detach k := by
  have hentries := (h.mapEntries fun _ x => x.losing k).erase_entries (k := k) (by simpa using hk)
  simp only [erase, detach] at hentries ⊢
  rw [hentries]
  rfl

lemma erase_congr (hs : j.same k = true) : g.erase j = g.erase k := by
  unfold erase
  congr 2
  funext y
  rw [Scalar.same, Scalar.same, Scalar.same_iff.1 hs]

/-- Taking an entity from its parent's list and then from the graph detaches it, also where the id
is another spelling of its key. -/
lemma erase_unlist {id : Scalar} (h : g.Linked P) (hnull : g.contains .null = false)
    (hx : (k, x) ∈ g.entries) (hs : k.same id = true) (hP : P x.kind) (hkind : e.kind = x.kind)
    (hparent : e.parent = x.parent) :
    ∃ g', g.unlist (.scalar id) e = .ok g' ∧ g'.erase id = g.detach k := by
  have hk := mem_keys_of_mem hx
  simp only [← erase_congr hs]
  -- Only the parent lists the entity.
  have hothers : ∀ i y, (i, y) ∈ g.entries → x.holder? ≠ some i → y.losing k = y := by
    intro i y hy hne
    apply Entity.losing_of_not_mem
    intro hmem
    exact hne (h.holder?_of_listed hy hx hP hmem)
  cases hholder : x.holder? with
  | none =>
    refine ⟨g, ?_, ?_⟩
    · cases hpkind : x.kind.parentKind? with
      | none => simp [unlist, hkind, hpkind]
      | some wanted =>
        have hunset : x.parent = .null := by
          by_contra hne
          obtain ⟨i, p, -, hi, -⟩ := h.parent hx ⟨by simp [hpkind], hne⟩
          rw [hholder] at hi
          cases hi
        simp [unlist, hkind, hpkind, hparent, hunset, Value.identifier, bind, Except.bind, hnull,
          pure, Except.pure]
    · rw [← erase_losing h.distinct hk, mapEntries_eq_self]
      intro i y hy
      apply hothers i y hy
      simp [hholder]
  | some j =>
    obtain ⟨p, hp, hmem, hpkind⟩ := h.exists_parent hx hholder
    obtain ⟨-, hxparent, hne⟩ := Entity.holder?_eq_some.1 hholder
    have hlisted : hasId p.childIds id = true := by
      rw [← hasId_congr hs]
      exact (hasId_iff h.distinct (fun i hi => h.mem_keys_of_listed hp hi) hk).2 hmem
    have hwithout := withoutId_scalar hlisted
    refine ⟨g.modify j fun q => { q with
      children := .list ((p.childIds.filter (!id.same ·)).map .scalar) }, ?_, ?_⟩
    · simp [unlist, hkind, hpkind, hparent, hxparent, Value.identifier, bind, Except.bind,
        contains_of_mem (mem_keys_of_mem hp), expect_scalar, h.distinct.get?_eq hp, h.lists hp,
        hwithout, pure, Except.pure]
    · have hfilter : p.childIds.filter (!id.same ·) = p.childIds.filter (· ≠ k) := by
        refine List.filter_congr ?_
        intro i hi
        have hi' := h.mem_keys_of_listed hp hi
        rw [Scalar.same, ← Scalar.same_iff.1 hs, ← Scalar.same]
        by_cases hik : i = k
        · simp [hik]
        · simp [hik, h.distinct.same_eq_false hk hi' (Ne.symm hik)]
      rw [← erase_losing h.distinct hk, h.distinct.modify_eq (mem_keys_of_mem hp)]
      congr 1
      refine mapEntries_congr ?_
      intro i y hy
      by_cases hij : i = j
      · subst hij
        rw [if_pos rfl, h.distinct.entity_unique hy hp, Entity.losing, if_pos hmem, hfilter]
        rfl
      · rw [if_neg hij, hothers i y hy]
        rw [hholder]
        simpa [eq_comm] using hij

/-! ### Removing an entity and what it holds -/

end Graph

namespace EntityKind

/-- How many levels of entities an entity of the kind can hold. -/
def height : EntityKind → Nat
  | .assembly => 4
  | .namespace => 3
  | .type => 2
  | .member => 1
  | .parameter => 0

lemma height_parentKind {kind wanted : EntityKind} (h : kind.parentKind? = some wanted) :
    wanted.height = kind.height + 1 := by
  cases kind <;> cases h <;> rfl

end EntityKind

namespace Graph

/-- The keys with the kinds of their entities. -/
def outline (g : Graph) : List (Scalar × EntityKind) :=
  g.entries.map fun y => (y.1, y.2.kind)

/-- How many entities are of a kind that holds at most a number of levels. -/
def atMost (g : Graph) (n : Nat) : Nat :=
  g.outline.countP (·.2.height ≤ n)

variable {g g' : Graph} {k j : Scalar} {e x : Entity}

lemma mem_outline (h : (k, e) ∈ g.entries) : (k, e.kind) ∈ g.outline :=
  List.mem_map.2 ⟨(k, e), h, rfl⟩

lemma map_fst_outline : g.outline.map (·.1) = g.keys := by
  simp [outline, keys]

lemma outline_detach : (g.detach k).outline = g.outline.filter (·.1 ≠ k) := by
  simp [outline, detach, mapEntries, List.filter_map, Function.comp_def]

lemma keys_sublist_of_outline (h : g'.outline.Sublist g.outline) : g'.keys.Sublist g.keys := by
  rw [← map_fst_outline, ← map_fst_outline]
  exact h.map _

lemma contains_null_of_outline (h : g'.outline.Sublist g.outline)
    (hnull : g.contains .null = false) : g'.contains .null = false := by
  rw [contains_eq_false] at hnull ⊢
  intro i hi
  exact hnull i ((keys_sublist_of_outline h).subset hi)

lemma atMost_le_of_outline (h : g'.outline.Sublist g.outline) (n : Nat) :
    g'.atMost n ≤ g.atMost n :=
  h.countP_le

/-- An entity is not among those of the kinds below its own. -/
lemma atMost_lt (h : (k, e) ∈ g.entries) {n : Nat} (hn : e.kind.height = n + 1) :
    g.atMost n < g.atMost (n + 1) := by
  refine countP_lt_of_mem ?_ (mem_outline h) ?_ ?_
  · intro y hy
    simp only [decide_eq_true_eq] at hy ⊢
    omega
  · simp [hn]
  · simp [hn]

lemma childIds_foldl_losing (ids : List Scalar) (x : Entity) :
    (ids.foldl Entity.losing x).childIds = x.childIds.filter (· ∉ ids) := by
  induction ids generalizing x with
  | nil => simp
  | cons i ids ih =>
    rw [List.foldl_cons, ih, Entity.childIds_losing, List.filter_filter]
    refine List.filter_congr ?_
    intro a ha
    simp [Bool.and_comm]

lemma foldl_losing_of_disjoint {ids : List Scalar} (h : ∀ i ∈ ids, i ∉ x.childIds) :
    ids.foldl Entity.losing x = x := by
  induction ids with
  | nil => rfl
  | cons i ids ih =>
    rw [List.foldl_cons, Entity.losing_of_not_mem (h i (by simp))]
    exact ih fun a ha => h a (by simp [ha])

lemma foldl_losing_eq {ids : List Scalar} (hk : k ∈ ids) (h : ∀ i ∈ ids, i ∈ x.childIds → i = k) :
    ids.foldl Entity.losing x = x.losing k := by
  induction ids with
  | nil => simp at hk
  | cons i ids ih =>
    rw [List.foldl_cons]
    by_cases hik : i = k
    · subst hik
      refine foldl_losing_of_disjoint ?_
      intro a ha hmem
      obtain ⟨hmem, hne⟩ := Entity.mem_childIds_losing.1 hmem
      exact hne (h a (by simp [ha]) hmem)
    · rw [Entity.losing_of_not_mem fun hmem => hik (h i (by simp) hmem)]
      refine ih ?_ fun a ha => h a (by simp [ha])
      exact (List.mem_cons.1 hk).resolve_left (Ne.symm hik)

lemma kind_foldl_losing (ids : List Scalar) (x : Entity) :
    (ids.foldl Entity.losing x).kind = x.kind := by
  induction ids generalizing x with
  | nil => rfl
  | cons i ids ih => rw [List.foldl_cons, ih, Entity.kind_losing]

lemma parent_foldl_losing (ids : List Scalar) (x : Entity) :
    (ids.foldl Entity.losing x).parent = x.parent := by
  induction ids generalizing x with
  | nil => rfl
  | cons i ids ih => rw [List.foldl_cons, ih, Entity.parent_losing]

/-! ### Detaching several entities -/

/-- The graph with entities detached one after another. -/
def detachAll (g : Graph) (ks : List Scalar) : Graph :=
  ks.foldl detach g

lemma detachAll_append {ks ks' : List Scalar} :
    g.detachAll (ks ++ ks') = (g.detachAll ks).detachAll ks' :=
  List.foldl_append

lemma mem_detachAll {ks : List Scalar} : (j, x) ∈ (g.detachAll ks).entries ↔
    j ∉ ks ∧ ∃ y, (j, y) ∈ g.entries ∧ x = ks.foldl Entity.losing y := by
  induction ks generalizing g with
  | nil => simp [detachAll]
  | cons k ks ih =>
    change (j, x) ∈ ((g.detach k).detachAll ks).entries ↔ _
    rw [ih]
    constructor
    · rintro ⟨hj, y, hy, rfl⟩
      obtain ⟨hjk, z, hz, rfl⟩ := mem_detach.1 hy
      exact ⟨by simp [hjk, hj], z, hz, rfl⟩
    · rintro ⟨hj, y, hy, rfl⟩
      simp only [List.mem_cons, not_or] at hj
      exact ⟨hj.2, y.losing k, mem_detach.2 ⟨hj.1, y, hy, rfl⟩, rfl⟩

lemma outline_detachAll (g : Graph) (ks : List Scalar) :
    (g.detachAll ks).outline.Sublist g.outline := by
  induction ks generalizing g with
  | nil => exact List.Sublist.refl _
  | cons k ks ih =>
    refine (ih (g.detach k)).trans ?_
    rw [outline_detach]
    exact List.filter_sublist

lemma issued_detachAll (g : Graph) (ks : List Scalar) :
    (g.detachAll ks).issued = g.issued := by
  induction ks generalizing g with
  | nil => rfl
  | cons k ks ih => exact ih (g.detach k)

/-! ### Subtrees -/

open Relation (ReflTransGen)

lemma WellLinked.lists_detachAll (h : g.WellLinked) {ks : List Scalar}
    (h' : (g.detachAll ks).WellLinked) :
    (g.detachAll ks).Lists k j ↔ g.Lists k j ∧ k ∉ ks ∧ j ∉ ks := by
  rw [h'.lists_iff, h.lists_iff]
  constructor
  · rintro ⟨x, hx, hj⟩
    obtain ⟨hk, y, hy, rfl⟩ := mem_detachAll.1 hx
    rw [childIds_foldl_losing, List.mem_filter, decide_eq_true_eq] at hj
    exact ⟨⟨y, hy, hj.1⟩, hk, hj.2⟩
  · rintro ⟨⟨y, hy, hj⟩, hk, hjks⟩
    refine ⟨_, mem_detachAll.2 ⟨hk, y, hy, rfl⟩, ?_⟩
    rw [childIds_foldl_losing, List.mem_filter, decide_eq_true_eq]
    exact ⟨hj, hjks⟩

/-- A subtree of which nothing is detached stays as it is. -/
lemma WellLinked.reaches_detachAll (h : g.WellLinked) {ks : List Scalar}
    (h' : (g.detachAll ks).WellLinked) (hapart : ∀ i, ReflTransGen g.Lists k i → i ∉ ks) :
    ReflTransGen (g.detachAll ks).Lists k j ↔ ReflTransGen g.Lists k j := by
  constructor
  · intro hreach
    have hsub : (g.detachAll ks).Lists ≤ g.Lists := fun _ _ hab => ((h.lists_detachAll h').1 hab).1
    exact ReflTransGen.mono hsub _ _ hreach
  · intro hreach
    induction hreach with
    | refl => exact .refl
    | tail hki hij ih =>
      exact ih.tail ((h.lists_detachAll h').2 ⟨hij, hapart _ hki, hapart _ (hki.tail hij)⟩)

lemma WellLinked.height_of_listed (h : g.WellLinked) (he : (k, e) ∈ g.entries)
    (hj : j ∈ e.childIds) : ∃ c, (j, c) ∈ g.entries ∧ c.kind.height + 1 = e.kind.height := by
  obtain ⟨c, hc, hkind, -⟩ := h.child he hj
  exact ⟨c, hc, (EntityKind.height_parentKind hkind).symm⟩

/-- What an entity holds is of a lower kind. -/
lemma WellLinked.height_of_reaches (h : g.WellLinked) (he : (k, e) ∈ g.entries)
    (hreach : ReflTransGen g.Lists k j) :
    j = k ∨ ∃ c, (j, c) ∈ g.entries ∧ c.kind.height < e.kind.height := by
  induction hreach with
  | refl => exact .inl rfl
  | @tail i j _ hij ih =>
    obtain ⟨p, hp, hmem⟩ := h.lists_iff.1 hij
    obtain ⟨c, hc, hheight⟩ := h.height_of_listed hp hmem
    refine .inr ⟨c, hc, ?_⟩
    rcases ih with rfl | ⟨q, hq, hlt⟩
    · rw [h.distinct.entity_unique he hp]
      omega
    · rw [h.distinct.entity_unique hq hp] at hlt
      omega

/-- No entity holds the one that lists it. -/
lemma WellLinked.not_reaches_lister (h : g.WellLinked) (he : (k, e) ∈ g.entries)
    (hj : j ∈ e.childIds) : ¬ReflTransGen g.Lists j k := by
  intro hreach
  obtain ⟨c, hc, hheight⟩ := h.height_of_listed he hj
  rcases h.height_of_reaches hc hreach with rfl | ⟨d, hd, hlt⟩
  · rw [h.distinct.entity_unique he hc] at hheight
    omega
  · rw [h.distinct.entity_unique hd he] at hlt
    omega

/-- An entity holds itself and what the entities hold that it lists. -/
lemma WellLinked.reaches_iff (h : g.WellLinked) (he : (k, e) ∈ g.entries) :
    ReflTransGen g.Lists k j ↔ j = k ∨ ∃ a ∈ e.childIds, ReflTransGen g.Lists a j := by
  rw [ReflTransGen.cases_head_iff]
  refine or_congr eq_comm (exists_congr fun a => and_congr_left fun _ => ?_)
  rw [h.lists_iff]
  constructor
  · rintro ⟨e', he', ha⟩
    rwa [h.distinct.entity_unique he he']
  · exact fun ha => ⟨e, he, ha⟩

/-- An entity is listed by one other at most. -/
lemma WellLinked.lister_unique (h : g.WellLinked) :
    Relator.RightUnique (Function.swap g.Lists) := by
  intro j k k' hk hk'
  obtain ⟨p, hp, hmem⟩ := h.lists_iff.1 hk
  obtain ⟨p', hp', hmem'⟩ := h.lists_iff.1 hk'
  obtain ⟨c, hc, -, hholder⟩ := h.child hp hmem
  obtain ⟨c', hc', -, hholder'⟩ := h.child hp' hmem'
  rw [h.distinct.entity_unique hc hc', hholder'] at hholder
  exact (Option.some.inj hholder).symm

/-- Two entities of kinds of one height hold nothing in common. -/
lemma WellLinked.root_eq (h : g.WellLinked) {e' : Entity} {k' : Scalar} (he : (k, e) ∈ g.entries)
    (he' : (k', e') ∈ g.entries) (hheight : e.kind.height = e'.kind.height)
    (hreach : ReflTransGen g.Lists k j) (hreach' : ReflTransGen g.Lists k' j) : k = k' := by
  rw [← Relation.reflTransGen_swap] at hreach hreach'
  rcases ReflTransGen.total_of_right_unique h.lister_unique hreach hreach' with hone | hone
  · rcases h.height_of_reaches he' (Relation.reflTransGen_swap.1 hone) with heq | ⟨c, hc, hlt⟩
    · exact heq
    · rw [h.distinct.entity_unique hc he] at hlt
      omega
  · rcases h.height_of_reaches he (Relation.reflTransGen_swap.1 hone) with heq | ⟨c, hc, hlt⟩
    · exact heq.symm
    · rw [h.distinct.entity_unique hc he'] at hlt
      omega

/-! ### A removal -/

/-- Removing entities of one height one after another, given what the removal of one does. -/
lemma removeAllWithin_detaches {fuel n : Nat}
    (hone : ∀ {g : Graph} {k e}, g.WellLinked → g.contains .null = false → (k, e) ∈ g.entries →
      g.atMost e.kind.height ≤ fuel →
      ∃ ks, g.removeWithin fuel (.scalar k) = (g.detachAll ks, none) ∧
        (g.detachAll ks).WellLinked ∧ ∀ i, i ∈ ks ↔ ReflTransGen g.Lists k i)
    (ids : List Scalar) (h : g.WellLinked) (hnull : g.contains .null = false) (hnodup : ids.Nodup)
    (hids : ∀ a ∈ ids, ∃ c, (a, c) ∈ g.entries ∧ c.kind.height = n) (hfuel : g.atMost n ≤ fuel) :
    ∃ ks, g.removeAllWithin fuel (ids.map .scalar) = (g.detachAll ks, none) ∧
      (g.detachAll ks).WellLinked ∧
      ∀ i, i ∈ ks ↔ ∃ a ∈ ids, ReflTransGen g.Lists a i := by
  induction ids generalizing g with
  | nil => exact ⟨[], by rw [List.map_nil, removeAllWithin]; rfl, h, by simp⟩
  | cons b ids ih =>
    obtain ⟨hb, hnodup⟩ := List.nodup_cons.1 hnodup
    obtain ⟨c, hc, hheight⟩ := hids b (by simp)
    obtain ⟨ks, hremove, hlinked, hks⟩ := hone h hnull hc (by rw [hheight]; exact hfuel)
    have houtline := outline_detachAll g ks
    -- The subtrees of the others are apart from the one that is gone.
    have hapart : ∀ a ∈ ids, ∀ i, ReflTransGen g.Lists a i → i ∉ ks := by
      intro a ha i hreach hi
      obtain ⟨d, hd, hdheight⟩ := hids a (by simp [ha])
      apply hb
      rwa [h.root_eq hc hd (by omega) ((hks i).1 hi) hreach]
    have hrest : ∀ a ∈ ids, ∃ c, (a, c) ∈ (g.detachAll ks).entries ∧ c.kind.height = n := by
      intro a ha
      obtain ⟨d, hd, hdheight⟩ := hids a (by simp [ha])
      exact ⟨_, mem_detachAll.2 ⟨hapart a ha a .refl, d, hd, rfl⟩, by
        rw [kind_foldl_losing, hdheight]⟩
    obtain ⟨ks', hall, hlinked', hks'⟩ := ih hlinked (contains_null_of_outline houtline hnull)
      hnodup hrest (Nat.le_trans (atMost_le_of_outline houtline n) hfuel)
    rw [← detachAll_append] at hall hlinked'
    refine ⟨ks ++ ks', ?_, hlinked', ?_⟩
    · rw [List.map_cons, removeAllWithin, hremove]
      exact hall
    · intro i
      rw [List.mem_append, hks, hks', List.exists_mem_cons_iff]
      refine or_congr_right (exists_congr fun a => and_congr_right fun ha => ?_)
      exact h.reaches_detachAll hlinked (hapart a ha)

/-- A removal detaches an entity and what it holds, if it may go as deep as there are entities of
the kind and of those below it. -/
theorem removeWithin_detaches (fuel : Nat) {g : Graph} {k id : Scalar} {e : Entity}
    (h : g.WellLinked) (hnull : g.contains .null = false) (he : (k, e) ∈ g.entries)
    (hs : k.same id = true) (hfuel : g.atMost e.kind.height ≤ fuel) :
    ∃ ks, g.removeWithin fuel (.scalar id) = (g.detachAll ks, none) ∧
      (g.detachAll ks).WellLinked ∧ ∀ i, i ∈ ks ↔ ReflTransGen g.Lists k i := by
  induction fuel generalizing g k id e with
  | zero =>
    have hpos : 0 < g.atMost e.kind.height :=
      List.countP_pos_iff.2 ⟨_, mem_outline he, by simp⟩
    omega
  | succ fuel ih =>
    have hitems : e.children.items = .ok (e.childIds.map .scalar) := by
      rw [h.lists he]
      rfl
    -- First the children go, which are all one level below.
    obtain ⟨ks, hall, hlinked, hks⟩ : ∃ ks,
        g.removeAllWithin fuel (e.childIds.map .scalar) = (g.detachAll ks, none) ∧
        (g.detachAll ks).WellLinked ∧
        ∀ i, i ∈ ks ↔ ∃ a ∈ e.childIds, ReflTransGen g.Lists a i := by
      cases hn : e.kind.height with
      | zero =>
        have hleaf : e.childIds = [] := by
          rw [List.eq_nil_iff_forall_not_mem]
          intro a ha
          obtain ⟨c, -, hheight⟩ := h.height_of_listed he ha
          omega
        exact ⟨[], by rw [hleaf, List.map_nil, removeAllWithin]; rfl, h, by simp [hleaf]⟩
      | succ n =>
        have hlt := atMost_lt he hn
        rw [hn] at hfuel
        have hn' : ∀ a ∈ e.childIds, ∃ c, (a, c) ∈ g.entries ∧ c.kind.height = n := by
          intro a ha
          obtain ⟨c, hc, hheight⟩ := h.height_of_listed he ha
          exact ⟨c, hc, by omega⟩
        refine removeAllWithin_detaches ?_ e.childIds h hnull (h.nodup he) hn' (by omega)
        exact fun h hnull hc hfuel => ih h hnull hc (Scalar.same_self _) hfuel
    have hk : k ∉ ks := by
      intro hmem
      obtain ⟨a, ha, hreach⟩ := (hks k).1 hmem
      exact h.not_reaches_lister he ha hreach
    -- Then the entity itself goes, which lists nothing any more.
    have he' := mem_detachAll.2 ⟨hk, e, he, rfl⟩
    have hleaf : (ks.foldl Entity.losing e).childIds = [] := by
      rw [childIds_foldl_losing, List.filter_eq_nil_iff]
      intro a ha
      simpa using (hks a).2 ⟨a, ha, .refl⟩
    obtain ⟨g', hunlist, herase⟩ := erase_unlist (hlinked.linked fun _ => True)
      (contains_null_of_outline (outline_detachAll g ks) hnull) he' hs trivial
      (kind_foldl_losing ks e).symm (parent_foldl_losing ks e).symm
    have hdetach : g.detachAll (ks ++ [k]) = (g.detachAll ks).detach k := detachAll_append
    refine ⟨ks ++ [k], ?_, ?_, ?_⟩
    · rw [removeWithin, hdetach]
      simp only [Value.identifier, ← get?_congr hs, h.distinct.get?_eq he, hitems, hall, hunlist,
        herase]
    · rw [hdetach]
      exact hlinked.detach he' hleaf
    · intro i
      rw [List.mem_append, List.mem_singleton, hks, h.reaches_iff he, or_comm]

/-- A removal detaches an entity and what it holds, and keeps a graph well linked. -/
theorem remove_detaches {id : Scalar} (h : g.WellLinked) (hnull : g.contains .null = false)
    (he : (k, e) ∈ g.entries) (hs : k.same id = true) :
    ∃ ks, g.remove (.scalar id) = (g.detachAll ks, none) ∧ (g.detachAll ks).WellLinked ∧
      ∀ i, i ∈ ks ↔ ReflTransGen g.Lists k i := by
  refine removeWithin_detaches _ h hnull he hs ?_
  have hle : g.atMost e.kind.height ≤ g.outline.length := List.countP_le_length
  simp only [outline, List.length_map] at hle
  exact Nat.le_trans hle (Nat.le_succ _)

lemma remove_of_free (h : g.contains k = false) : g.remove (.scalar k) = (g, none) := by
  rw [remove, removeWithin]
  simp only [Value.identifier, get?_eq_none.2 h]

/-- Of the entities that a removal keeps, only the parent of the removed one changes. -/
lemma WellLinked.foldl_losing (h : g.WellLinked) {y : Entity} {ks : List Scalar}
    (he : (k, e) ∈ g.entries) (hks : ∀ i, i ∈ ks ↔ ReflTransGen g.Lists k i)
    (hy : (j, y) ∈ g.entries) (hj : j ∉ ks) :
    ks.foldl Entity.losing y =
      if e.holder? = some j then y.withChildren (y.childIds.filter (· ≠ k)) else y := by
  have hlisted : k ∈ y.childIds ↔ e.holder? = some j := by
    constructor
    · exact (h.linked fun _ => True).holder?_of_listed hy he trivial
    · intro hholder
      obtain ⟨p, hp, hmem, -⟩ := h.exists_parent he hholder
      rwa [h.distinct.entity_unique hy hp]
  -- What is below the removed entity is listed below it only.
  have honly : ∀ i ∈ ks, i ∈ y.childIds → i = k := by
    intro i hi hmem
    rcases ReflTransGen.cases_tail_iff _ _ _ |>.1 ((hks i).1 hi) with heq | ⟨p, hkp, hpi⟩
    · exact heq
    · have hji : g.Lists j i := h.lists_iff.2 ⟨y, hy, hmem⟩
      rw [h.lister_unique hpi hji] at hkp
      exact absurd ((hks j).2 hkp) hj
  rw [foldl_losing_eq ((hks k).2 .refl) honly, Entity.losing]
  simp only [hlisted]

/-- **A removal takes away a subtree.** Let no entity of a graph have the id null, which stands for
no parent. An entity goes with everything below it, in whatever spelling its key is given. What is
left stands in the order it had, and differs only in that the parent of the entity lists it no more.
A key that is not there is no fault and changes nothing. -/
theorem remove_subtree (h : g.WellLinked) (hnull : g.contains .null = false) (id : Scalar) :
    (g.contains id = false → g.remove (.scalar id) = (g, none)) ∧
    ∀ k e, (k, e) ∈ g.entries → k.same id = true →
      ∃ g', g.remove (.scalar id) = (g', none) ∧ g'.issued = g.issued ∧
        g'.keys.Sublist g.keys ∧
        ∀ j x, (j, x) ∈ g'.entries ↔ ¬ReflTransGen g.Lists k j ∧ ∃ y, (j, y) ∈ g.entries ∧
          x = if e.holder? = some j then y.withChildren (y.childIds.filter (· ≠ k)) else y := by
  refine ⟨remove_of_free, ?_⟩
  intro k e he hs
  obtain ⟨ks, hremove, -, hks⟩ := remove_detaches h hnull he hs
  refine ⟨_, hremove, issued_detachAll g ks,
    keys_sublist_of_outline (outline_detachAll g ks), ?_⟩
  intro j x
  rw [mem_detachAll, ← hks]
  refine and_congr_right fun hj => exists_congr fun y => and_congr_right fun hy => ?_
  rw [h.foldl_losing he hks hy hj]

/-- An assembly with the namespaces `N` and `M`, the first of which has a type. -/
def twoSpaces : Graph :=
  let assembly : Entity := { id := .text ['A'], name := .text ['A'], detail := .assembly }
  let space (t : Text) : Entity :=
    { id := .text t, name := .text t, detail := .namespace, parent := .text ['A'] }
  let type : Entity :=
    { id := .text ['T'], name := .text ['T'], parent := .text ['N'],
      detail := .type (.text ['T']) (.proper .classType) (.bool false) }
  (((empty.attach (.text ['A']) assembly).attach (.text ['N']) (space ['N'])).attach
    (.text ['M']) (space ['M'])).attach (.text ['T']) type

lemma wellLinked_twoSpaces : twoSpaces.WellLinked := by
  refine (((wellLinked_empty.attach rfl rfl rfl ?_).attach rfl rfl rfl ?_).attach
    rfl rfl rfl ?_).attach rfl rfl rfl ?_
  · exact fun h => absurd rfl h.2
  · exact fun _ => ⟨_, _, .head _, rfl, rfl⟩
  · exact fun _ => ⟨_, _, .head _, rfl, rfl⟩
  · exact fun _ => ⟨_, _, .tail _ (.head _), rfl, rfl⟩

/-- With the namespace `N` its type is gone, and the assembly lists `M` only. -/
theorem remove_subtree_of_namespace :
    twoSpaces.WellLinked ∧ twoSpaces.contains .null = false ∧
      ∃ g', twoSpaces.remove (.text ['N']) = (g', none) ∧ (∀ x, (.text ['T'], x) ∉ g'.entries) ∧
        ∃ a, (.text ['A'], a) ∈ g'.entries ∧ a.childIds = [.text ['M']] := by
  have h := wellLinked_twoSpaces
  refine ⟨h, by decide, ?_⟩
  have hN : (.text ['N'], _) ∈ twoSpaces.entries := .tail _ (.head _)
  have hA : (.text ['A'], _) ∈ twoSpaces.entries := .head _
  have hNT : twoSpaces.Lists (.text ['N']) (.text ['T']) := ⟨by decide, _, hN, by decide⟩
  have hNA : ¬ReflTransGen twoSpaces.Lists (.text ['N']) (.text ['A']) :=
    h.not_reaches_lister hA (by decide)
  obtain ⟨g', hremove, -, -, hentries⟩ :=
    (remove_subtree h (by decide) (.text ['N'])).2 _ _ hN (by decide)
  refine ⟨g', hremove, ?_, ?_⟩
  · exact fun x hx => ((hentries _ x).1 hx).1 (.single hNT)
  · exact ⟨_, (hentries _ _).2 ⟨hNA, _, hA, rfl⟩, by decide⟩

/-- An entity that lists nothing is detached. -/
theorem remove_leaf {P : EntityKind → Prop} (h : g.Linked P) (hnull : g.contains .null = false)
    (he : (k, e) ∈ g.entries) (hP : P e.kind) (hleaf : e.childIds = []) :
    g.remove (.scalar k) = (g.detach k, none) := by
  have hitems : e.children.items = .ok [] := by
    rw [h.lists he, hleaf]
    rfl
  obtain ⟨g', hunlist, herase⟩ := erase_unlist h hnull he (Scalar.same_self k) hP rfl rfl
  rw [remove, removeWithin]
  simp only [Value.identifier, h.distinct.get?_eq he, hitems, removeAllWithin, hunlist, herase]

end Graph

end LinkedDocs
