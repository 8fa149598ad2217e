import LinkedDocs.Proofs.Moves

/-!
# Placeholders

A member can extend a type that the graph does not have. The type gets a placeholder, and the
namespace of the placeholder is made too if the assembly has none of its name. `Grown` says what
such additions do to a graph. Making a placeholder never fails in a well linked graph.
-/

namespace LinkedDocs

namespace Graph

variable {P : EntityKind → Prop} {g b : Graph} {k j : Scalar} {e x m : Entity}

/-- A namespace for placeholders. -/
def madeNamespace (id name : Text) (assembly : Value) : Entity where
  id := .text id
  name := .text name
  detail := .namespace
  parent := assembly

/-- A placeholder for a type. -/
def madeType (id name fullName : Text) (space remark : Value) : Entity where
  id := .text id
  name := .text name
  detail := .type (.text fullName) (.proper .classType) (.bool true)
  parent := space
  notes := { remarks := remark }

/-- The graphs that come of adding placeholders, with the names and keys of these. -/
inductive Grown (g : Graph) : List (Text × Scalar) → Graph → Prop where
  | refl : Grown g [] g
  | issue {created b} (n : Nat) : Grown g created b → Grown g created { b with issued := n }
  | space {created b id name assembly} : Grown g created b → id ≠ [] →
      b.contains (.text id) = false → b.Admits (madeNamespace id name assembly) →
      (assembly = .null → b.assemblies = []) →
      Grown g created (b.attach (.text id) (madeNamespace id name assembly))
  | placeholder {created b id name fullName space remark} : Grown g created b → id ≠ [] →
      b.contains (.text id) = false → b.Admits (madeType id name fullName space remark) →
      space ≠ .null → (remark = .null ∨ ∃ t, remark = .text t) →
      Grown g (created ++ [(fullName, .text id)])
        (b.attach (.text id) (madeType id name fullName space remark))

lemma Grown.trans {created more : List (Text × Scalar)} {c : Graph} (h : Grown g created b)
    (h' : Grown b more c) : Grown g (created ++ more) c := by
  induction h' with
  | refl => simpa using h
  | issue n _ ih => exact .issue n ih
  | space _ hid hfree hadmits hnull ih => exact .space ih hid hfree hadmits hnull
  | placeholder _ hid hfree hadmits hnull hremark ih =>
    rw [← List.append_assoc]
    exact .placeholder ih hid hfree hadmits hnull hremark

lemma Linked.issue (h : g.Linked P) (n : Nat) : ({ g with issued := n } : Graph).Linked P :=
  ⟨h.distinct, h.id_eq, h.lists, h.nodup, h.child, h.parent⟩

lemma WellLinked.issue (h : g.WellLinked) (n : Nat) : ({ g with issued := n } : Graph).WellLinked :=
  ((h.linked _).issue n).wellLinked

lemma Grown.linked {created : List (Text × Scalar)} (hg : Grown g created b)
    (h : g.Linked P) : b.Linked P := by
  induction hg with
  | refl => exact h
  | issue n _ ih => exact ih.issue n
  | space _ _ hfree hadmits _ ih => exact ih.attach rfl hfree rfl hadmits
  | placeholder _ _ hfree hadmits _ _ ih => exact ih.attach rfl hfree rfl hadmits

lemma Grown.wellLinked {created : List (Text × Scalar)} (hg : Grown g created b)
    (h : g.WellLinked) : b.WellLinked :=
  (hg.linked (h.linked _)).wellLinked

lemma contains_attach {s : Scalar} (hne : k.same s = false) :
    (g.attach k e).contains s = g.contains s := by
  rw [Bool.eq_iff_iff, contains_iff, contains_iff, keys_attach]
  constructor
  · rintro ⟨i, hi, hs⟩
    rcases List.mem_append.1 hi with hi | hi
    · exact ⟨i, hi, hs⟩
    · rw [List.mem_singleton.1 hi, hne] at hs
      cases hs
  · rintro ⟨i, hi, hs⟩
    exact ⟨i, List.mem_append_left _ hi, hs⟩

lemma Grown.contains_null {created : List (Text × Scalar)} (hg : Grown g created b)
    (hnull : g.contains .null = false) : b.contains .null = false := by
  induction hg with
  | refl => exact hnull
  | issue n _ ih => exact ih
  | space _ _ _ _ _ ih => rwa [contains_attach (by rfl)]
  | placeholder _ _ _ _ _ _ ih => rwa [contains_attach (by rfl)]

lemma Grown.keys_subset {created : List (Text × Scalar)} (hg : Grown g created b) :
    g.keys ⊆ b.keys := by
  induction hg with
  | refl => exact List.Subset.refl _
  | issue n _ ih => exact ih
  | space _ _ _ _ _ ih | placeholder _ _ _ _ _ _ ih =>
    rw [keys_attach]
    exact fun i hi => List.mem_append_left _ (ih hi)

/-- What has been added to a graph: to each of its entities some ids of new children, and new
entities, which are namespaces and placeholders. -/
structure Addition (g : Graph) (created : List (Text × Scalar)) (extra : Scalar → List Scalar)
    (new : List (Scalar × Entity)) : Prop where
  fresh : ∀ {k e}, (k, e) ∈ new → k ∉ g.keys
  made : ∀ {k e}, (k, e) ∈ new → e.kind = .namespace ∨
    ∃ id name n space remark, k = .text id ∧ e = madeType id name n space remark
  created_eq : (new.filter (·.2.kind = .type)).map (fun y => (y.2.fullName, y.1)) =
    created.map fun c => (.text c.1, c.2)
  extra_new : ∀ {k i}, i ∈ extra k → i ∈ new.map (·.1)
  /-- Only assemblies and namespaces get new children. -/
  extra_nil : ∀ {k e}, (k, e) ∈ g.entries → e.kind.height ≤ 2 → extra k = []

namespace Addition

variable {created : List (Text × Scalar)} {extra : Scalar → List Scalar}
  {new : List (Scalar × Entity)} {n : Text}

/-- A placeholder is a new type of its name. -/
lemma type_of_created (h : Addition g created extra new) (hc : (n, k) ∈ created) :
    ∃ id name space remark, k = .text id ∧ (k, madeType id name n space remark) ∈ new := by
  have hmade : (.text n, k) ∈ created.map fun c => (Value.text c.1, c.2) :=
    List.mem_map.2 ⟨(n, k), hc, rfl⟩
  rw [← h.created_eq] at hmade
  obtain ⟨⟨i, t⟩, ht, heq⟩ := List.mem_map.1 hmade
  obtain ⟨hname, rfl⟩ := Prod.mk.inj heq
  obtain ⟨ht, hkind⟩ := List.mem_filter.1 ht
  rcases h.made ht with hspace | ⟨id, name, n', space, remark, rfl, rfl⟩
  · simp [hspace] at hkind
  · obtain rfl : n' = n := by simpa [madeType, Entity.fullName] using hname
    exact ⟨id, name, space, remark, rfl, ht⟩

/-- A new type is a placeholder. -/
lemma created_of_type (h : Addition g created extra new) (he : (k, e) ∈ new)
    (hkind : e.kind = .type) : e.childIds = [] ∧ ∃ n, (n, k) ∈ created := by
  rcases h.made he with hspace | ⟨id, name, n, space, remark, rfl, rfl⟩
  · rw [hspace] at hkind
    cases hkind
  · have hmem : (.text n, .text id) ∈ (new.filter (·.2.kind = .type)).map
        fun y => (y.2.fullName, y.1) :=
      List.mem_map.2 ⟨_, List.mem_filter.2 ⟨he, rfl⟩, rfl⟩
    rw [h.created_eq] at hmem
    obtain ⟨⟨n', k'⟩, hc, heq⟩ := List.mem_map.1 hmem
    obtain ⟨-, rfl⟩ := Prod.mk.inj heq
    exact ⟨rfl, n', hc⟩

end Addition

/-- The new children of each entity once an entity is attached. -/
def extraWith (e : Entity) (k : Scalar) (extra : Scalar → List Scalar) (j : Scalar) :
    List Scalar :=
  if e.holder? = some j then extra j ++ [k] else extra j

lemma entries_attach {extra : Scalar → List Scalar} {new : List (Scalar × Entity)}
    (hb : b.entries = (g.mapEntries fun j x => x.withChildren (x.childIds ++ extra j)).entries ++
      new) :
    (b.attach k e).entries =
      (g.mapEntries fun j x => x.withChildren (x.childIds ++ extraWith e k extra j)).entries ++
        (new.map (fun y => (y.1, if e.holder? = some y.1 then
          y.2.withChildren (y.2.childIds ++ [k]) else y.2)) ++ [(k, e)]) := by
  simp only [attach, push, mapEntries, hb, List.map_append, List.map_map, List.append_assoc]
  congr 1
  refine List.map_congr_left ?_
  rintro ⟨j, x⟩ -
  simp only [Function.comp_apply, extraWith]
  split <;> simp

/-- The parent of what is above a member is above a type. -/
lemma Admits.holder?_ne (h : b.Admits e) (hb : b.Linked P) (hkind : 2 ≤ e.kind.height)
    (hx : (j, x) ∈ b.entries) (hle : x.kind.height ≤ 2) : e.holder? ≠ some j := by
  intro hholder
  obtain ⟨i, p, hp, hi, hpkind⟩ := h (Entity.hasParent_of_holder? hholder)
  obtain rfl : i = j := Option.some.inj (hi.symm.trans hholder)
  rw [hb.distinct.entity_unique hp hx] at hpkind
  have hheight := EntityKind.height_parentKind hpkind
  omega

lemma typeNames_map {new : List (Scalar × Entity)} :
    ((new.map (fun y => (y.1, if e.holder? = some y.1 then
      y.2.withChildren (y.2.childIds ++ [k]) else y.2))).filter (·.2.kind = .type)).map
        (fun y => (y.2.fullName, y.1)) =
    (new.filter (·.2.kind = .type)).map fun y => (y.2.fullName, y.1) := by
  have hfilter : new.filter ((fun y => decide (y.2.kind = .type)) ∘ fun y => (y.1,
      if e.holder? = some y.1 then y.2.withChildren (y.2.childIds ++ [k]) else y.2)) =
      new.filter (·.2.kind = .type) := by
    refine List.filter_congr ?_
    rintro ⟨j, x⟩ -
    simp only [Function.comp_apply]
    split <;> rfl
  rw [List.filter_map, List.map_map, hfilter]
  refine List.map_congr_left ?_
  rintro ⟨j, x⟩ -
  simp only [Function.comp_apply]
  split <;> rfl

lemma Addition.attach {created : List (Text × Scalar)} {extra : Scalar → List Scalar}
    {new : List (Scalar × Entity)} (ha : Addition g created extra new) (hb : b.WellLinked)
    (hentries : b.entries =
      (g.mapEntries fun j x => x.withChildren (x.childIds ++ extra j)).entries ++ new)
    (hfree : b.contains k = false) (hadmits : b.Admits e) {more : List (Text × Scalar)}
    (hmade : (e.kind = .namespace ∧ more = []) ∨
      ∃ id name n space remark, k = .text id ∧ e = madeType id name n space remark ∧
        more = [(n, k)]) :
    Addition g (created ++ more) (extraWith e k extra)
      (new.map (fun y => (y.1, if e.holder? = some y.1 then
          y.2.withChildren (y.2.childIds ++ [k]) else y.2)) ++ [(k, e)]) := by
  have hkind : 2 ≤ e.kind.height := by
    rcases hmade with ⟨h, -⟩ | ⟨_, _, _, _, _, -, rfl, -⟩
    · simp [h, EntityKind.height]
    · exact Nat.le_refl _
  have hhigh : ∀ {j x}, (j, x) ∈ b.entries → x.kind.height ≤ 2 → e.holder? ≠ some j :=
    fun hx hle => hadmits.holder?_ne (hb.linked fun _ => True) hkind hx hle
  have hnew : ∀ {j x}, (j, x) ∈ new → (j, x) ∈ b.entries := by
    intro j x hx
    rw [hentries]
    exact List.mem_append_right _ hx
  constructor
  · intro j x hx
    rcases List.mem_append.1 hx with hx | hx
    · obtain ⟨⟨j', y⟩, hy, heq⟩ := List.mem_map.1 hx
      obtain rfl : j' = j := congrArg Prod.fst heq
      exact ha.fresh hy
    · obtain ⟨rfl, rfl⟩ := Prod.mk.inj (List.mem_singleton.1 hx)
      intro hmem
      refine not_mem_keys_of_free hfree ?_
      rw [keys, hentries, List.map_append]
      refine List.mem_append_left _ ?_
      show j ∈ (g.mapEntries _).keys
      rwa [keys_mapEntries]
  · intro j x hx
    rcases List.mem_append.1 hx with hx | hx
    · obtain ⟨⟨j', y⟩, hy, heq⟩ := List.mem_map.1 hx
      obtain ⟨rfl, rfl⟩ := Prod.mk.inj heq
      rcases ha.made hy with hspace | hplaceholder
      · left
        split <;> simpa using hspace
      · right
        have hle : y.kind.height ≤ 2 := by
          obtain ⟨_, _, _, _, _, -, rfl⟩ := hplaceholder
          exact Nat.le_refl _
        rw [if_neg (hhigh (hnew hy) hle)]
        exact hplaceholder
    · obtain ⟨rfl, rfl⟩ := Prod.mk.inj (List.mem_singleton.1 hx)
      rcases hmade with ⟨h, -⟩ | ⟨id, name, n, space, remark, hk, he, -⟩
      · exact .inl h
      · exact .inr ⟨id, name, n, space, remark, hk, he⟩
  · rw [List.filter_append, List.map_append, List.map_append, typeNames_map, ha.created_eq]
    congr 1
    rcases hmade with ⟨h, rfl⟩ | ⟨_, _, _, _, _, -, rfl, rfl⟩
    · simp [h]
    · rfl
  · intro j i hi
    rw [List.map_append, List.map_map, List.mem_append]
    have hold : i ∈ extra j → i ∈ new.map (·.1) := ha.extra_new
    simp only [extraWith] at hi
    split at hi
    · rcases List.mem_append.1 hi with hi | hi
      · exact .inl (by simpa [Function.comp_def] using hold hi)
      · exact .inr (by simpa using hi)
    · exact .inl (by simpa [Function.comp_def] using hold hi)
  · intro j x hx hle
    have hx' : (j, x.withChildren (x.childIds ++ extra j)) ∈ b.entries := by
      rw [hentries]
      exact List.mem_append_left _ (mem_mapEntries_of_mem hx)
    rw [extraWith, if_neg (hhigh hx' hle)]
    exact ha.extra_nil hx hle

/-- The entries of a graph after additions. -/
theorem Grown.entries_eq {created : List (Text × Scalar)} (hg : Grown g created b)
    (h : g.WellLinked) :
    ∃ extra new, Addition g created extra new ∧ b.entries =
      (g.mapEntries fun j x => x.withChildren (x.childIds ++ extra j)).entries ++ new := by
  induction hg with
  | refl =>
    refine ⟨fun _ => [], [], by constructor <;> simp, ?_⟩
    rw [mapEntries_eq_self]
    · simp
    · intro j x hx
      simpa using Entity.withChildren_childIds (h.lists hx)
  | issue n _ ih => exact ih
  | space hgrown _ hfree hadmits _ ih =>
    obtain ⟨extra, new, ha, hentries⟩ := ih
    have hnext := ha.attach (hgrown.wellLinked h) hentries hfree hadmits (.inl ⟨rfl, rfl⟩)
    rw [List.append_nil] at hnext
    exact ⟨_, _, hnext, entries_attach hentries⟩
  | placeholder hgrown _ hfree hadmits _ _ ih =>
    obtain ⟨extra, new, ha, hentries⟩ := ih
    exact ⟨_, _, ha.attach (hgrown.wellLinked h) hentries hfree hadmits
      (.inr ⟨_, _, _, _, _, rfl, rfl, rfl⟩), entries_attach hentries⟩

end Graph

/-! ### Ids -/

namespace Relocation

open LinkedDocs.Graph

variable {P : EntityKind → Prop} {g : Graph} {k j : Scalar} {e x m : Entity}

/-- An id for something documented elsewhere is a text that is free. -/
lemma externalId_spec (g : Graph) (preferred : Text) :
    ∃ id n, externalId g preferred = (.text id, { g with issued := n }) ∧ id ≠ [] ∧
      g.contains (.text id) = false := by
  unfold externalId
  by_cases htaken : g.contains (.text ("external:".toList ++ preferred)) = true
  · rw [if_pos htaken]
    refine ⟨_, _, rfl, by simp, ?_⟩
    have hfree := freshId_free g ("external:".toList ++ preferred)
    exact hfree
  · rw [if_neg htaken]
    exact ⟨_, g.issued, rfl, by simp, by simpa using htaken⟩

/-! ### The assembly of a member -/

/-- An entity of a kind that can be held has no parent, or one that the graph has. -/
lemma parent_cases (wanted : EntityKind) (h : g.Linked P) (hnull : g.contains .null = false)
    (hx : (j, x) ∈ g.entries) (hkind : x.kind.parentKind? = some wanted) :
    (x.parent = .null ∧ g.find x.parent = .ok none) ∨
    ∃ k p, (k, p) ∈ g.entries ∧ p.kind = wanted ∧ x.parent = .scalar k ∧ k ≠ .null ∧
      g.find x.parent = .ok (some p) := by
  by_cases hunset : x.parent = .null
  · refine .inl ⟨hunset, ?_⟩
    rw [hunset, find, Value.identifier, Except.map, get?_eq_none.2 hnull]
  · obtain ⟨k, p, hp, hholder, -⟩ := h.parent hx ⟨by simp [hkind], hunset⟩
    obtain ⟨-, hparent, hne⟩ := Entity.holder?_eq_some.1 hholder
    obtain ⟨p', hp', -, hpkind⟩ := h.exists_parent hx hholder
    rw [hkind, h.distinct.entity_unique hp' hp] at hpkind
    refine .inr ⟨k, p, hp, (Option.some.inj hpkind).symm, hparent, hne, ?_⟩
    rw [hparent, find, Value.identifier, Except.map, h.distinct.get?_eq hp]

lemma namespaceOf_cases (h : g.Linked P) (hnull : g.contains .null = false)
    (hx : (j, x) ∈ g.entries) (hkind : x.kind = .type) :
    g.namespaceOf x = .ok none ∨
      ∃ k n, (k, n) ∈ g.entries ∧ n.kind = .namespace ∧ g.namespaceOf x = .ok (some n) := by
  rcases parent_cases .namespace h hnull hx (by rw [hkind]; rfl) with
    ⟨hparent, -⟩ | ⟨k, n, hn, hnkind, hparent, hne, hfind⟩
  · left
    simp [namespaceOf, hparent, Value.isNull]
  · right
    refine ⟨k, n, hn, hnkind, ?_⟩
    have hset : x.parent.isNull = false := by
      rw [hparent]
      cases k <;> simp_all [Value.isNull]
    simp [namespaceOf, hset, hfind, Except.map, hnkind]

/-- The first assembly is one that the graph has, unless there is none. -/
lemma first_cases (h : g.Linked P) (hnull : g.contains .null = false) :
    (assemblyOf.first g = .null ∧ g.assemblies = []) ∨
      ∃ i a, (i, a) ∈ g.entries ∧ a.kind = .assembly ∧ i ≠ .null ∧
        assemblyOf.first g = .scalar i := by
  unfold assemblyOf.first
  cases hlist : g.assemblies with
  | nil => exact .inl ⟨rfl, rfl⟩
  | cons a as =>
    have ha : a ∈ g.ofKind .assembly := by
      show a ∈ g.assemblies
      simp [hlist]
    obtain ⟨ha, hakind⟩ := List.mem_filter.1 ha
    obtain ⟨⟨i, a'⟩, hi, rfl⟩ := List.mem_map.1 ha
    refine .inr ⟨i, a', hi, by simpa using hakind, ?_, ?_⟩
    · rintro rfl
      exact not_mem_keys_of_free hnull (mem_keys_of_mem hi)
    · simp [h.id_eq hi]

/-- The assembly of a member is one that the graph has, unless there is none. -/
lemma assemblyOf_cases (h : g.Linked P) (hnull : g.contains .null = false)
    (hm : (k, m) ∈ g.entries) (hkind : m.kind = .member) :
    ∃ v, assemblyOf g m = .ok v ∧
      ((v = .null ∧ g.assemblies = []) ∨
        ∃ i a, (i, a) ∈ g.entries ∧ a.kind = .assembly ∧ i ≠ .null ∧ v = .scalar i) := by
  have hfirst := first_cases h hnull
  cases hholds : m.parent.holds with
  | false =>
    refine ⟨_, ?_, hfirst⟩
    simp [assemblyOf, hholds, bind, Except.bind, pure, Except.pure]
  | true =>
    rcases parent_cases .type h hnull hm (by rw [hkind]; rfl) with
      ⟨-, hfind⟩ | ⟨i, t, ht, htkind, -, -, hfind⟩
    · refine ⟨_, ?_, hfirst⟩
      simp [assemblyOf, hholds, hfind, bind, Except.bind, pure, Except.pure]
    · have howner : (some t).filter (·.kind = .type) = some t := by simp [Option.filter, htkind]
      rcases namespaceOf_cases h hnull ht htkind with hspace | ⟨j, n, hn, hnkind, hspace⟩
      · refine ⟨_, ?_, hfirst⟩
        simp [assemblyOf, hholds, hfind, howner, hspace, bind, Except.bind, pure, Except.pure]
      · rcases parent_cases .assembly h hnull hn (by rw [hnkind]; rfl) with
          ⟨hparent, -⟩ | ⟨i, a, ha, hakind, hparent, hne, -⟩
        · refine ⟨_, ?_, hfirst⟩
          simp [assemblyOf, hholds, hfind, howner, hspace, hparent, Value.isNull, bind,
            Except.bind, pure, Except.pure]
        · refine ⟨.scalar i, ?_, .inr ⟨i, a, ha, hakind, hne, rfl⟩⟩
          have hset : (Value.scalar i).isNull = false := by
            cases i <;> simp_all [Value.isNull]
          simp [assemblyOf, hholds, hfind, howner, hspace, hparent, hset, bind, Except.bind, pure,
            Except.pure]

/-! ### Making a placeholder -/

/-- The namespace of a placeholder is there already, or is made. -/
lemma ensureNamespace_spec {p : Pass} {assembly : Value} (name : Text) (h : p.graph.Linked P)
    (hassembly : (assembly = .null ∧ p.graph.assemblies = []) ∨
      ∃ i a, (i, a) ∈ p.graph.entries ∧ a.kind = .assembly ∧ i ≠ .null ∧ assembly = .scalar i) :
    ∃ g' count k n, ensureNamespace p assembly name =
        ({ p with graph := g', result := { p.result with namespacesCreated := count } },
          .ok (.scalar k)) ∧
      Grown p.graph [] g' ∧ (k, n) ∈ g'.entries ∧ n.kind = .namespace := by
  cases hfind : p.graph.findNamespace? assembly (.text name) with
  | some n =>
    obtain ⟨hn, hnkind⟩ := List.mem_filter.1 (List.mem_of_find?_eq_some hfind)
    obtain ⟨⟨k, n'⟩, hk, rfl⟩ := List.mem_map.1 hn
    refine ⟨p.graph, p.result.namespacesCreated, k, n', ?_, .refl, hk, by simpa using hnkind⟩
    simp [ensureNamespace, hfind, h.id_eq hk]
  | none =>
    obtain ⟨id, n, hid, hne, hfree⟩ := externalId_spec p.graph ("N:".toList ++ name)
    let issued : Graph := { p.graph with issued := n }
    have hadmits : issued.Admits (madeNamespace id name assembly) := by
      intro hset
      rcases hassembly with ⟨hunset, -⟩ | ⟨i, a, ha, hakind, -, hi⟩
      · exact absurd hunset hset.2
      · exact ⟨i, a, ha, hset.holder? hi, by rw [hakind]; rfl⟩
    have hadd := add_eq_attach (g := issued) (e := madeNamespace id name assembly) (h.issue n) rfl
      hfree hadmits
    refine ⟨issued.attach (.text id) (madeNamespace id name assembly),
      p.result.namespacesCreated + 1, .text id, _, ?_,
      .space (.issue n .refl) hne hfree hadmits ?_, mem_attach.2 (.inr ⟨rfl, rfl⟩), rfl⟩
    · simp only [madeNamespace] at hadd
      simp only [ensureNamespace, hfind, hid]
      rw [hadd]
      rfl
    · intro hunset
      rcases hassembly with ⟨-, hlist⟩ | ⟨i, a, -, -, hinull, hi⟩
      · exact hlist
      · rw [hunset] at hi
        exact absurd (Value.scalar.inj hi).symm hinull

/-- A placeholder can always be made. -/
theorem createPlaceholder_spec (config : Config) {p : Pass} (typeName extended : Text)
    (h : p.graph.Linked P) (hnull : p.graph.contains .null = false)
    (hm : (k, m) ∈ p.graph.entries) (hkind : m.kind = .member) :
    ∃ g' count events tk t, createPlaceholder config p m typeName extended =
        ({ p with
          graph := g'
          types := p.types ++ [(typeName, tk)]
          result := { p.result with
            placeholdersCreated := p.result.placeholdersCreated + 1, namespacesCreated := count }
          events := p.events ++ events }, .ok tk) ∧
      Grown p.graph [(typeName, tk)] g' ∧ (tk, t) ∈ g'.entries ∧ t.kind = .type := by
  obtain ⟨v, hv, hassembly⟩ := assemblyOf_cases h hnull hm hkind
  obtain ⟨g₁, count, nk, n, hensure, hgrown, hn, hnkind⟩ :=
    ensureNamespace_spec (Symbol.splitNamespace typeName).1 h hassembly
  have h₁ := hgrown.linked h
  have hnk : nk ≠ .null := by
    rintro rfl
    exact not_mem_keys_of_free (hgrown.contains_null hnull) (mem_keys_of_mem hn)
  obtain ⟨id, i, hid, hne, hfree⟩ := externalId_spec g₁ ("T:".toList ++ typeName)
  let issued : Graph := { g₁ with issued := i }
  let made := madeType id (Symbol.splitNamespace typeName).2 typeName (.scalar nk)
    (placeholderRemark config typeName (Symbol.splitNamespace typeName).2 extended)
  have hadmits : issued.Admits made := by
    intro hset
    exact ⟨nk, n, hn, hset.holder? rfl, by rw [hnkind]; rfl⟩
  have hadd := add_eq_attach (g := issued) (e := made) (h₁.issue i) rfl hfree hadmits
  have hremark : made.notes.remarks = .null ∨ ∃ t, made.notes.remarks = .text t := by
    simp only [made, madeType, placeholderRemark]
    split
    · exact .inr ⟨_, rfl⟩
    · exact .inl rfl
  refine ⟨issued.attach (.text id) made, count,
    [.placeholderCreated typeName (Symbol.splitNamespace typeName).1], .text id, made, ?_, ?_,
    mem_attach.2 (.inr ⟨rfl, rfl⟩), rfl⟩
  · simp only [made, madeType] at hadd
    simp only [createPlaceholder, hv, hensure, hid]
    rw [hadd]
    rfl
  · have hspace : Value.scalar nk ≠ .null := by simpa using hnk
    have hissued : Grown p.graph [] issued := hgrown.issue i
    exact hissued.trans (.placeholder .refl hne hfree hadmits hspace hremark)

end Relocation

end LinkedDocs
