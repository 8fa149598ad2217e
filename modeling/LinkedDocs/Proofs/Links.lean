import LinkedDocs.Proofs.Arena

/-!
# Links between parents and children

An entity names its parent, and a parent lists its children. A graph is well linked if both say the
same. Adding an entity to a well linked graph either changes nothing or attaches the entity to the
parent it names, and the graph stays well linked.
-/

namespace LinkedDocs

namespace Entity

/-- The ids in the child list. -/
def childIds (e : Entity) : List Scalar :=
  match e.children with
  | .list items => items.filterMap fun
    | .scalar s => some s
    | _ => none
  | _ => []

/-- The entity with another child list. -/
def withChildren (e : Entity) (ids : List Scalar) : Entity :=
  { e with children := .list (ids.map .scalar) }

/-- Whether the field with the id of the parent is set. -/
def HasParent (e : Entity) : Prop :=
  e.kind.parentKind?.isSome ∧ e.parent ≠ .null

/-- The key of the parent, if the field is set. -/
def holder? (e : Entity) : Option Scalar :=
  match e.kind.parentKind?, e.parent with
  | some _, .scalar .null => none
  | some _, .scalar s => some s
  | _, _ => none

variable {e : Entity} {ids : List Scalar} {s : Scalar}

@[simp] lemma childIds_withChildren : (e.withChildren ids).childIds = ids := by
  simp [childIds, withChildren, List.filterMap_map]

@[simp] lemma kind_withChildren : (e.withChildren ids).kind = e.kind := rfl

@[simp] lemma id_withChildren : (e.withChildren ids).id = e.id := rfl

@[simp] lemma parent_withChildren : (e.withChildren ids).parent = e.parent := rfl

@[simp] lemma detail_withChildren : (e.withChildren ids).detail = e.detail := rfl

@[simp] lemma children_withChildren :
    (e.withChildren ids).children = .list (ids.map .scalar) := rfl

@[simp] lemma withChildren_withChildren {more : List Scalar} :
    (e.withChildren ids).withChildren more = e.withChildren more := rfl

lemma withChildren_childIds (h : e.children = .list (e.childIds.map .scalar)) :
    e.withChildren e.childIds = e := by
  simp only [withChildren, ← h]

lemma holder?_eq_some :
    e.holder? = some s ↔ e.kind.parentKind?.isSome ∧ e.parent = .scalar s ∧ s ≠ .null := by
  unfold holder?
  cases hkind : e.kind.parentKind? with
  | none => simp
  | some kind =>
    cases hparent : e.parent with
    | scalar t =>
      cases t <;> simp <;> rintro rfl <;> simp
    | list | map | tuple | set | knot => simp

lemma HasParent.holder? (h : e.HasParent) (hs : e.parent = .scalar s) : e.holder? = some s := by
  refine holder?_eq_some.2 ⟨h.1, hs, ?_⟩
  rintro rfl
  exact h.2 hs

lemma hasParent_of_holder? (h : e.holder? = some s) : e.HasParent := by
  obtain ⟨hkind, hparent, hne⟩ := holder?_eq_some.1 h
  refine ⟨hkind, ?_⟩
  rw [hparent]
  simpa using hne

end Entity

namespace Graph

/-- Parents and children name each other. -/
structure WellLinked (g : Graph) : Prop where
  distinct : g.Distinct
  /-- Every key is the id of its entity. -/
  id_eq : ∀ {k e}, (k, e) ∈ g.entries → e.id = .scalar k
  /-- Children are listed by their ids. -/
  lists : ∀ {k e}, (k, e) ∈ g.entries → e.children = .list (e.childIds.map .scalar)
  /-- No child is listed twice. -/
  nodup : ∀ {k e}, (k, e) ∈ g.entries → e.childIds.Nodup
  /-- Every listed id is the key of an entity of the kind that the list holds, and that entity has
  the one that lists it for its parent. -/
  child : ∀ {k e j}, (k, e) ∈ g.entries → j ∈ e.childIds →
    ∃ c, (j, c) ∈ g.entries ∧ c.kind.parentKind? = some e.kind ∧ c.holder? = some k
  /-- An entity whose parent is set is listed by its parent. -/
  parent : ∀ {j c}, (j, c) ∈ g.entries → c.HasParent →
    ∃ k p, (k, p) ∈ g.entries ∧ c.holder? = some k ∧ j ∈ p.childIds

/-- As much of this as is left where children of some kinds may also be listed by entities that are
not their parent. `P` says which kinds are listed by their parent only. -/
structure Linked (P : EntityKind → Prop) (g : Graph) : Prop where
  distinct : g.Distinct
  id_eq : ∀ {k e}, (k, e) ∈ g.entries → e.id = .scalar k
  lists : ∀ {k e}, (k, e) ∈ g.entries → e.children = .list (e.childIds.map .scalar)
  nodup : ∀ {k e}, (k, e) ∈ g.entries → e.childIds.Nodup
  child : ∀ {k e j}, (k, e) ∈ g.entries → j ∈ e.childIds →
    ∃ c, (j, c) ∈ g.entries ∧ c.kind.parentKind? = some e.kind ∧ (P c.kind → c.holder? = some k)
  parent : ∀ {j c}, (j, c) ∈ g.entries → c.HasParent →
    ∃ k p, (k, p) ∈ g.entries ∧ c.holder? = some k ∧ j ∈ p.childIds

lemma WellLinked.linked {g : Graph} (h : g.WellLinked) (P : EntityKind → Prop) : g.Linked P := by
  refine ⟨h.distinct, h.id_eq, h.lists, h.nodup, ?_, h.parent⟩
  intro k e j he hj
  obtain ⟨c, hc, hkind, hholder⟩ := h.child he hj
  exact ⟨c, hc, hkind, fun _ => hholder⟩

lemma Linked.wellLinked {g : Graph} (h : g.Linked fun _ => True) : g.WellLinked := by
  refine ⟨h.distinct, h.id_eq, h.lists, h.nodup, ?_, h.parent⟩
  intro k e j he hj
  obtain ⟨c, hc, hkind, hholder⟩ := h.child he hj
  exact ⟨c, hc, hkind, hholder trivial⟩

/-- Whether the parent that an entity names is there and of the kind that holds such entities. An
entity that names no parent is admitted. -/
def Admits (g : Graph) (e : Entity) : Prop :=
  e.HasParent →
    ∃ k p, (k, p) ∈ g.entries ∧ e.holder? = some k ∧ e.kind.parentKind? = some p.kind

/-- The graph with an entity at its end, listed by its parent. -/
def attach (g : Graph) (k : Scalar) (e : Entity) : Graph :=
  (g.mapEntries fun j x =>
    if e.holder? = some j then x.withChildren (x.childIds ++ [k]) else x).push k e

variable {P : EntityKind → Prop} {g : Graph} {k j : Scalar} {e x : Entity}

lemma wellLinked_empty : empty.WellLinked := by
  constructor <;> simp [empty, Distinct, keys]

namespace Linked

lemma mem_keys_of_listed (h : g.Linked P) (he : (k, e) ∈ g.entries) (hj : j ∈ e.childIds) :
    j ∈ g.keys := by
  obtain ⟨c, hc, -⟩ := h.child he hj
  exact mem_keys_of_mem hc

lemma exists_parent (h : g.Linked P) {c : Entity} (hc : (j, c) ∈ g.entries)
    (hholder : c.holder? = some k) :
    ∃ p, (k, p) ∈ g.entries ∧ j ∈ p.childIds ∧ c.kind.parentKind? = some p.kind := by
  obtain ⟨k', p, hp, hholder', hmem⟩ := h.parent hc (Entity.hasParent_of_holder? hholder)
  obtain rfl : k' = k := Option.some.inj (hholder'.symm.trans hholder)
  obtain ⟨c', hc', hkind, -⟩ := h.child hp hmem
  rw [h.distinct.entity_unique hc' hc] at hkind
  exact ⟨p, hp, hmem, hkind⟩

lemma holder?_of_listed (h : g.Linked P) {p c : Entity} (hp : (k, p) ∈ g.entries)
    (hc : (j, c) ∈ g.entries) (hP : P c.kind) (hj : j ∈ p.childIds) : c.holder? = some k := by
  obtain ⟨c', hc', -, hholder⟩ := h.child hp hj
  rw [h.distinct.entity_unique hc' hc] at hholder
  exact hholder hP

end Linked

namespace WellLinked

lemma listed_iff (h : g.WellLinked) {p c : Entity} (hp : (k, p) ∈ g.entries)
    (hc : (j, c) ∈ g.entries) : j ∈ p.childIds ↔ c.holder? = some k := by
  constructor
  · intro hmem
    obtain ⟨c', hc', -, hholder⟩ := h.child hp hmem
    rw [h.distinct.entity_unique hc hc']
    exact hholder
  · intro hholder
    obtain ⟨k', p', hp', hholder', hmem⟩ := h.parent hc (Entity.hasParent_of_holder? hholder)
    obtain rfl : k' = k := Option.some.inj (hholder'.symm.trans hholder)
    rwa [h.distinct.entity_unique hp hp']

lemma mem_keys_of_listed (h : g.WellLinked) (he : (k, e) ∈ g.entries) (hj : j ∈ e.childIds) :
    j ∈ g.keys := by
  obtain ⟨c, hc, -⟩ := h.child he hj
  exact mem_keys_of_mem hc

/-- The kind of an entity is the one that the kind of its child asks for. -/
lemma parentKind (h : g.WellLinked) {p c : Entity} (hp : (k, p) ∈ g.entries)
    (hc : (j, c) ∈ g.entries) (hholder : c.holder? = some k) :
    c.kind.parentKind? = some p.kind := by
  obtain ⟨c', hc', hkind, -⟩ := h.child hp ((h.listed_iff hp hc).2 hholder)
  rwa [h.distinct.entity_unique hc hc']

lemma exists_parent (h : g.WellLinked) {c : Entity} (hc : (j, c) ∈ g.entries)
    (hholder : c.holder? = some k) :
    ∃ p, (k, p) ∈ g.entries ∧ j ∈ p.childIds ∧ c.kind.parentKind? = some p.kind := by
  obtain ⟨k', p, hp, hholder', hmem⟩ := h.parent hc (Entity.hasParent_of_holder? hholder)
  obtain rfl : k' = k := Option.some.inj (hholder'.symm.trans hholder)
  exact ⟨p, hp, hmem, h.parentKind hp hc hholder⟩

lemma mem_keys_of_holder? (h : g.WellLinked) {c : Entity} (hc : (j, c) ∈ g.entries)
    (hholder : c.holder? = some k) : k ∈ g.keys := by
  obtain ⟨p, hp, -⟩ := h.exists_parent hc hholder
  exact mem_keys_of_mem hp

end WellLinked

/-- A change that keeps ids, kinds, parents and children keeps a graph well linked. -/
lemma WellLinked.mapEntries {f : Scalar → Entity → Entity} (h : g.WellLinked)
    (hid : ∀ k x, (f k x).id = x.id) (hkind : ∀ k x, (f k x).kind = x.kind)
    (hparent : ∀ k x, (f k x).parent = x.parent)
    (hchildren : ∀ k x, (f k x).children = x.children) : (g.mapEntries f).WellLinked := by
  have hids : ∀ k x, (f k x).childIds = x.childIds := by
    intro k x
    simp [Entity.childIds, hchildren]
  have hholder : ∀ k x, (f k x).holder? = x.holder? := by
    intro k x
    simp [Entity.holder?, hkind, hparent]
  constructor
  · exact h.distinct.mapEntries f
  · intro k e he
    obtain ⟨x, hx, rfl⟩ := mem_mapEntries.1 he
    rw [hid, h.id_eq hx]
  · intro k e he
    obtain ⟨x, hx, rfl⟩ := mem_mapEntries.1 he
    rw [hchildren, hids, ← h.lists hx]
  · intro k e he
    obtain ⟨x, hx, rfl⟩ := mem_mapEntries.1 he
    rw [hids]
    exact h.nodup hx
  · intro k e j he hj
    obtain ⟨x, hx, rfl⟩ := mem_mapEntries.1 he
    rw [hids] at hj
    obtain ⟨c, hc, hckind, hcholder⟩ := h.child hx hj
    exact ⟨f j c, mem_mapEntries_of_mem hc, by rw [hkind, hkind, hckind], by rw [hholder, hcholder]⟩
  · intro j c hc hset
    obtain ⟨x, hx, rfl⟩ := mem_mapEntries.1 hc
    have hset' : x.HasParent := by
      rwa [Entity.HasParent, hkind, hparent] at hset
    obtain ⟨k, p, hp, hk, hmem⟩ := h.parent hx hset'
    exact ⟨k, f k p, mem_mapEntries_of_mem hp, by rw [hholder, hk], by rwa [hids]⟩

/-! ### Attaching an entity -/

lemma keys_attach : (g.attach k e).keys = g.keys ++ [k] := by
  simp [attach]

lemma mem_attach : (j, x) ∈ (g.attach k e).entries ↔
    (∃ y, (j, y) ∈ g.entries ∧
      x = if e.holder? = some j then y.withChildren (y.childIds ++ [k]) else y) ∨
    (j = k ∧ x = e) := by
  rw [attach, mem_push, mem_mapEntries]

lemma Distinct.attach (h : g.Distinct) (hfree : g.contains k = false) :
    (g.attach k e).Distinct := by
  refine (h.mapEntries _).push ?_ e
  rw [contains_eq_false, keys_mapEntries]
  exact contains_eq_false.1 hfree

lemma not_mem_keys_of_free (hfree : g.contains k = false) : k ∉ g.keys := by
  intro hmem
  rw [contains_of_mem hmem] at hfree
  cases hfree

/-- Attaching an entity without children to the parent it names keeps a graph linked. -/
theorem Linked.attach (h : g.Linked P) (hid : e.id = .scalar k)
    (hfree : g.contains k = false) (hchildren : e.children = .list []) (hadmits : g.Admits e) :
    (g.attach k e).Linked P := by
  have hnew : k ∉ g.keys := not_mem_keys_of_free hfree
  have hempty : e.childIds = [] := by simp [Entity.childIds, hchildren]
  -- A child that was there keeps its kind and its parent.
  have hkept : ∀ {i c}, (i, c) ∈ g.entries → ∃ c', (i, c') ∈ (g.attach k e).entries ∧
      c'.kind = c.kind ∧ c'.holder? = c.holder? := by
    intro i c hc
    refine ⟨_, mem_attach.2 (.inl ⟨c, hc, rfl⟩), ?_, ?_⟩ <;> split <;> rfl
  constructor
  · exact h.distinct.attach hfree
  · intro j x hx
    rcases mem_attach.1 hx with ⟨y, hy, rfl⟩ | ⟨rfl, rfl⟩
    · split
      · rw [Entity.id_withChildren]
        exact h.id_eq hy
      · exact h.id_eq hy
    · exact hid
  · intro j x hx
    rcases mem_attach.1 hx with ⟨y, hy, rfl⟩ | ⟨rfl, rfl⟩
    · split
      · simp
      · exact h.lists hy
    · simp [hempty, hchildren]
  · intro j x hx
    rcases mem_attach.1 hx with ⟨y, hy, rfl⟩ | ⟨rfl, rfl⟩
    · split
      · rw [Entity.childIds_withChildren]
        refine (h.nodup hy).append (List.nodup_singleton k) (List.disjoint_singleton.2 ?_)
        intro hmem
        exact hnew (h.mem_keys_of_listed hy hmem)
      · exact h.nodup hy
    · simp [hempty]
  · intro j x i hx hi
    rcases mem_attach.1 hx with ⟨y, hy, rfl⟩ | ⟨rfl, rfl⟩
    · have hold : i ∈ y.childIds → ∃ c, (i, c) ∈ (g.attach k e).entries ∧
          c.kind.parentKind? = some y.kind ∧ (P c.kind → c.holder? = some j) := by
        intro hmem
        obtain ⟨c, hc, hkind, hholder⟩ := h.child hy hmem
        obtain ⟨c', hc', hkind', hholder'⟩ := hkept hc
        exact ⟨c', hc', by rw [hkind', hkind], by rwa [hkind', hholder']⟩
      split at hi
      case isTrue hparent =>
        rw [if_pos hparent, Entity.kind_withChildren]
        rw [Entity.childIds_withChildren, List.mem_append, List.mem_singleton] at hi
        rcases hi with hmem | rfl
        · exact hold hmem
        · obtain ⟨j', p, hp, hholder, hkind⟩ := hadmits (Entity.hasParent_of_holder? hparent)
          obtain rfl : j' = j := Option.some.inj (hholder.symm.trans hparent)
          rw [h.distinct.entity_unique hy hp]
          exact ⟨e, mem_attach.2 (.inr ⟨rfl, rfl⟩), hkind, fun _ => hparent⟩
      case isFalse hparent =>
        rw [if_neg hparent]
        exact hold hi
    · rw [hempty] at hi
      cases hi
  · intro j x hx hset
    rcases mem_attach.1 hx with ⟨y, hy, rfl⟩ | ⟨rfl, rfl⟩
    · have hset' : y.HasParent := by
        split at hset <;> exact hset
      obtain ⟨i, p, hp, hholder, hmem⟩ := h.parent hy hset'
      refine ⟨i, _, mem_attach.2 (.inl ⟨p, hp, rfl⟩), ?_, ?_⟩
      · split <;> exact hholder
      · split
        · simp [hmem]
        · exact hmem
    · obtain ⟨i, p, hp, hholder, -⟩ := hadmits hset
      refine ⟨i, _, mem_attach.2 (.inl ⟨p, hp, rfl⟩), hholder, ?_⟩
      simp [hholder]

theorem WellLinked.attach (h : g.WellLinked) (hid : e.id = .scalar k)
    (hfree : g.contains k = false) (hchildren : e.children = .list []) (hadmits : g.Admits e) :
    (g.attach k e).WellLinked :=
  ((h.linked _).attach hid hfree hchildren hadmits).wellLinked

/-! ### What adding does -/

lemma has_scalar {ids : List Scalar} :
    (Value.list (ids.map .scalar)).has (.scalar k) = .ok (hasId ids k) := by
  simp [Value.has, Value.untied, hasId, Value.same, Scalar.same_comm k, Function.comp_def]

lemma hasId_congr {seen : List Scalar} (hs : j.same k = true) : hasId seen j = hasId seen k := by
  unfold hasId
  congr 1
  funext i
  rw [Scalar.same, Scalar.same, Scalar.same_iff.1 hs]

lemma hasId_iff (hd : g.Distinct) {ids : List Scalar} (hids : ∀ j ∈ ids, j ∈ g.keys)
    (hk : k ∈ g.keys) : hasId ids k = true ↔ k ∈ ids := by
  rw [hasId, List.any_eq_true]
  constructor
  · rintro ⟨j, hj, hs⟩
    rwa [← hd.eq_of_same (hids j hj) hk hs]
  · intro hmem
    exact ⟨k, hmem, Scalar.same_self k⟩

lemma expect_scalar (wanted : EntityKind) (s : Scalar) :
    g.expect wanted (.scalar s) = match g.get? s with
      | some p => if p.kind = wanted then .ok p else .error (.wrongKind (.scalar s) wanted.title)
      | none => .error (.wrongKind (.scalar s) wanted.title) := by
  simp only [expect, find, Value.identifier, Except.map, bind, Except.bind]
  cases g.get? s <;> rfl

lemma modify_push {u : Entity → Entity} (hkj : k.same j = false) :
    (g.push k e).modify j u = (g.modify j u).push k e := by
  simp [modify, push, hkj]

/-- A parent that the graph has lists the new entity once it is added. -/
lemma add_eq_attach (h : g.Linked P) (hid : e.id = .scalar k) (hfree : g.contains k = false)
    (hadmits : g.Admits e) : g.add e = (g.attach k e, none) := by
  have hunheld : e.holder? = none → g.attach k e = g.push k e := by
    intro hnone
    rw [attach, mapEntries_eq_self]
    simp [hnone]
  cases hkind : e.kind.parentKind? with
  | none =>
    have hnone : e.holder? = none := by simp [Entity.holder?, hkind]
    simp [add, admission, hid, Value.identifier, bind, Except.bind, hfree, hkind, pure,
      Except.pure, hunheld hnone, push]
  | some wanted =>
    by_cases hnull : e.parent = .null
    · have hnone : e.holder? = none := by simp [Entity.holder?, hkind, hnull]
      simp [add, admission, hid, Value.identifier, bind, Except.bind, hfree, hkind, pure,
        Except.pure, hunheld hnone, push, hnull, Value.isNull]
    · obtain ⟨j, p, hp, hholder, hpkind⟩ := hadmits ⟨by simp [hkind], hnull⟩
      obtain ⟨-, hparent, hne⟩ := Entity.holder?_eq_some.1 hholder
      have hget : g.get? j = some p := h.distinct.get?_eq hp
      have hwanted : p.kind = wanted := by
        rw [hkind] at hpkind
        exact (Option.some.inj hpkind).symm
      have hisNull : (Value.scalar j).isNull = false := by
        cases j <;> simp_all [Value.isNull]
      have hadmission : g.admission e = .ok (k, some (j, p)) := by
        simp [admission, hid, Value.identifier, bind, Except.bind, hfree, hkind, pure, Except.pure,
          hisNull, hparent, expect_scalar, hget, hwanted]
      have hunlisted : hasId p.childIds k = false := by
        rw [hasId, List.any_eq_false]
        intro i hi
        rw [contains_eq_false.1 hfree i (h.mem_keys_of_listed hp hi)]
        simp
      have hwith : withId p.children e.id = .ok (.list ((p.childIds ++ [k]).map .scalar)) := by
        rw [h.lists hp, hid]
        simp [withId, has_scalar, hunlisted, bind, Except.bind, pure, Except.pure, Value.untied]
      let children : Value := .list ((p.childIds ++ [k]).map .scalar)
      have hadd : g.add e = ((g.push k e).modify j fun q => { q with children }, none) := by
        simp [add, hadmission, hwith, push, children]
      have hkj : k.same j = false := by
        rw [Scalar.same_comm]
        exact contains_eq_false.1 hfree j (mem_keys_of_mem hp)
      have hlinked : (g.modify j fun q => { q with children }) = g.mapEntries fun i y =>
          if e.holder? = some i then y.withChildren (y.childIds ++ [k]) else y := by
        rw [h.distinct.modify_eq (mem_keys_of_mem hp)]
        refine mapEntries_congr ?_
        intro i y hy
        by_cases hij : i = j
        · subst hij
          rw [if_pos rfl, if_pos hholder, h.distinct.entity_unique hy hp]
          rfl
        · rw [if_neg hij, if_neg]
          rw [hholder]
          simpa [eq_comm] using hij
      rw [hadd, modify_push hkj, hlinked]
      rfl

/-- Adding an entity is refused for its id, or for its parent, or attaches it. The key of its
parent is to be spelled as the parent's id is. -/
theorem add_cases (h : g.WellLinked) (hid : e.id = .scalar k)
    (hspelled : e.HasParent →
      ∃ s, e.parent = .scalar s ∧ ∀ j ∈ g.keys, j.same s = true → j = s) :
    (g.contains k = true ∧ g.add e = (g, some (.duplicateId e.id))) ∨
    (g.contains k = false ∧ ¬g.Admits e ∧ ∃ wanted, e.kind.parentKind? = some wanted ∧
      g.add e = (g, some (.wrongKind e.parent wanted.title))) ∨
    (g.contains k = false ∧ g.Admits e ∧ g.add e = (g.attach k e, none)) := by
  cases hfree : g.contains k with
  | true =>
    refine .inl ⟨rfl, ?_⟩
    simp [add, admission, hid, Value.identifier, bind, Except.bind, hfree]
  | false =>
    by_cases hadmits : g.Admits e
    · exact .inr (.inr ⟨rfl, hadmits, add_eq_attach (h.linked fun _ => True) hid hfree hadmits⟩)
    · refine .inr (.inl ⟨rfl, hadmits, ?_⟩)
      obtain ⟨hset, hnone⟩ := Classical.not_imp.1 hadmits
      obtain ⟨s, hparent, hexact⟩ := hspelled hset
      obtain ⟨wanted, hkind⟩ := Option.isSome_iff_exists.1 hset.1
      have hholder := hset.holder? hparent
      have hisNull : (Value.scalar s).isNull = false := by
        have hne := (Entity.holder?_eq_some.1 hholder).2.2
        cases s <;> simp_all [Value.isNull]
      -- Whatever stands under the parent's key is not of the kind that is wanted.
      have hwrong : g.expect wanted (.scalar s) =
          .error (.wrongKind (.scalar s) wanted.title) := by
        rw [expect_scalar]
        cases hget : g.get? s with
        | none => rfl
        | some p =>
          obtain ⟨j, hj, hs⟩ := exists_of_get? hget
          obtain rfl := hexact j (mem_keys_of_mem hj) hs
          refine if_neg ?_
          rintro rfl
          exact hnone ⟨j, p, hj, hholder, hkind⟩
      refine ⟨wanted, hkind, ?_⟩
      simp [add, admission, hid, Value.identifier, bind, Except.bind, hfree, hkind, hparent,
        hisNull, hwrong]

/-! ### What an entity holds -/

/-- The entity with the one key lists the entity with the other. -/
def Lists (g : Graph) (k j : Scalar) : Prop :=
  j ∈ g.keys ∧ ∃ e, (k, e) ∈ g.entries ∧ hasId e.childIds j = true

lemma WellLinked.lists_iff (h : g.WellLinked) :
    g.Lists k j ↔ ∃ e, (k, e) ∈ g.entries ∧ j ∈ e.childIds := by
  constructor
  · rintro ⟨hj, e, he, hlisted⟩
    exact ⟨e, he, (hasId_iff h.distinct (fun i hi => h.mem_keys_of_listed he hi) hj).1 hlisted⟩
  · rintro ⟨e, he, hmem⟩
    have hj := h.mem_keys_of_listed he hmem
    exact ⟨hj, e, he, (hasId_iff h.distinct (fun i hi => h.mem_keys_of_listed he hi) hj).2 hmem⟩

end Graph

end LinkedDocs
