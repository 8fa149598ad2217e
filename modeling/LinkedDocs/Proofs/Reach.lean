import LinkedDocs.Proofs.Isolation
import LinkedDocs.Proofs.Postings

/-!
# What is reached

A walk over a keyed graph misses nothing: it visits what it starts from, and what a visited entity
lists. So every posted symbol is visited. Walks and postings depend on the shape of a graph only,
and so does its being workable; a revision of the entities, which keeps the shape, changes none of
them.
-/

namespace LinkedDocs

/-- The posting without the content of its entities. -/
def Posting.bare : Posting → Posting
  | .assembly a => .assembly a.bare
  | .space s => .space s.bare
  | .type s t => .type s.bare t.bare
  | .member s t m => .member s.bare t.bare m.bare

namespace Graph

variable {P : EntityKind → Prop} {g g' : Graph} {k j : Scalar} {e e' c : Entity}
  {seen stack : List Scalar} {visits : List (Scalar × Entity)}

/-! ### Completeness of a walk -/

/-- Whether a key has been seen or is visited. -/
def Visited (seen : List Scalar) (visits : List (Scalar × Entity)) (k : Scalar) : Prop :=
  hasId seen k = true ∨ ∃ y ∈ visits, y.1.same k = true

lemma Visited.of_cons {id : Scalar} (hsame : id.same k = true) (h : Visited (id :: seen) visits j) :
    Visited seen ((k, e) :: visits) j := by
  rcases h with h | ⟨y, hy, hs⟩
  · rw [hasId, List.any_cons, Bool.or_eq_true] at h
    rcases h with h | h
    · refine .inr ⟨(k, e), by simp, ?_⟩
      rw [Scalar.same, ← Scalar.same_iff.1 hsame]
      exact h
    · exact .inl h
  · exact .inr ⟨y, by simp [hy], hs⟩

/-- A walk visits what is on its stack, and what a visited entity lists. -/
lemma Keyed.visited (h : g.Keyed) (hvisits : g.visitFrom seen stack = .ok visits) :
    (∀ k ∈ stack, (g.get? k).isSome → Visited seen visits k) ∧
      ∀ y ∈ visits, ∀ keys, y.2.childKeys = .ok keys →
        ∀ k ∈ keys, (g.get? k).isSome → Visited seen visits k := by
  fun_induction Graph.visitFrom g seen stack generalizing visits with
  | case1 =>
    obtain rfl := Except.ok.inj hvisits
    simp
  | case2 seen key stack hget ih =>
    refine ⟨?_, (ih hvisits).2⟩
    intro k hk hsome
    rcases List.mem_cons.1 hk with rfl | hk
    · rw [hget] at hsome
      cases hsome
    · exact (ih hvisits).1 k hk hsome
  | case3 => cases hvisits
  | case4 seen key stack e hget id hid hseen ih =>
    refine ⟨?_, (ih hvisits).2⟩
    intro k hk hsome
    rcases List.mem_cons.1 hk with rfl | hk
    · obtain ⟨j, hj, hs⟩ := h.id_of_get? hget
      obtain rfl : j = id := by simpa [hj, Value.identifier] using hid
      exact .inl (by rw [← hasId_congr hs, hseen])
    · exact (ih hvisits).1 k hk hsome
  | case5 => cases hvisits
  | case6 seen key stack e hget id hid hseen keys hkeys ih =>
    obtain ⟨rest, hrest, rfl⟩ := map_eq_ok.1 hvisits
    obtain ⟨hstack, hchildren⟩ := ih hrest
    obtain ⟨j, hj, hs⟩ := h.id_of_get? hget
    obtain rfl : j = id := by simpa [hj, Value.identifier] using hid
    constructor
    · intro k hk hsome
      rcases List.mem_cons.1 hk with rfl | hk
      · exact .inr ⟨(k, e), by simp, by simp⟩
      · exact (hstack k (by simp [hk]) hsome).of_cons hs
    · intro y hy keys' hkeys' k hk hsome
      rcases List.mem_cons.1 hy with rfl | hy
      · obtain rfl : keys = keys' := Except.ok.inj (hkeys.symm.trans hkeys')
        exact (hstack k (by simp [hk]) hsome).of_cons hs
      · exact (hchildren y hy keys' hkeys' k hk hsome).of_cons hs

/-- What is visited of a linked graph is in its walk. -/
lemma Linked.mem_visits (h : g.Linked P) (hvisits : g.visits = .ok visits)
    (he : (k, e) ∈ g.entries) (hvisited : Visited [] visits k) : ∃ j, (j, e) ∈ visits := by
  rcases hvisited with hseen | ⟨⟨j, e'⟩, hj, hs⟩
  · cases hseen
  · have hget := get?_of_mem_visitFrom hvisits hj
    rw [get?_congr hs, h.distinct.get?_eq he] at hget
    rw [Option.some.inj hget]
    exact ⟨j, hj⟩

/-- A walk visits every posted symbol. -/
lemma Linked.exists_visit (h : g.Linked P) (hvisits : g.visits = .ok visits) {p : Posting}
    (hp : p ∈ g.postings) : ∃ j, (j, p.entity) ∈ visits := by
  obtain ⟨hstack, hchildren⟩ := h.keyed.visited hvisits
  have hlisted : ∀ {i e c kind}, (i, e) ∈ visits → kind.parentKind? = some e.kind →
      c ∈ g.listed kind e → ∃ j, (j, c) ∈ visits := by
    intro i e c kind hi hkind hc
    obtain ⟨k, hk, -⟩ := exists_of_get? (get?_of_mem_visitFrom hvisits hi)
    obtain ⟨j, hj, hjc⟩ := (mem_listed h hk hkind).1 hc
    refine h.mem_visits hvisits hjc (hchildren _ hi _ (childKeys_eq (h.lists hk)) j hj ?_)
    rw [h.distinct.get?_eq hjc]
    rfl
  obtain ⟨a, ha, hcases⟩ := mem_postings.1 hp
  obtain ⟨k, hk, hakind⟩ := mem_assemblies.1 ha
  obtain ⟨i, hi⟩ : ∃ i, (i, a) ∈ visits := by
    refine h.mem_visits hvisits hk (hstack k ?_ ?_)
    · exact List.mem_map_of_mem (List.mem_filter.2 ⟨hk, by simpa using hakind⟩)
    · rw [h.distinct.get?_eq hk]
      rfl
  rcases hcases with rfl | ⟨s, hs, hcases⟩
  · exact ⟨i, hi⟩
  obtain ⟨i, hi⟩ := hlisted hi (by rw [hakind]; rfl) hs
  rcases hcases with rfl | ⟨t, ht, hcases⟩
  · exact ⟨i, hi⟩
  obtain ⟨i, hi⟩ := hlisted hi (by rw [kind_of_mem_listed hs]; rfl) ht
  rcases hcases with rfl | ⟨m, hm, rfl⟩
  · exact ⟨i, hi⟩
  exact hlisted hi (by rw [kind_of_mem_listed ht]; rfl) hm

/-! ### Shape -/

lemma get?_shape : g.shape.get? k = (g.get? k).map Entity.bare := by
  simp [shape, mapEntries, get?, List.find?_map, Function.comp_def]

lemma assemblies_shape : g.shape.assemblies = g.assemblies.map Entity.bare := by
  simp only [shape, mapEntries, assemblies, ofKind, entities, List.map_map, List.filter_map,
    Function.comp_def]
  rfl

lemma assemblyKeys_shape : g.shape.assemblyKeys = g.assemblyKeys := by
  simp only [shape, mapEntries, assemblyKeys, List.map_map, List.filter_map, Function.comp_def]
  rfl

lemma expect_shape (kind : EntityKind) (id : Value) :
    g.shape.expect kind id = (g.expect kind id).map Entity.bare := by
  unfold expect find
  cases id.identifier with
  | error fault => rfl
  | ok j =>
    simp only [Except.map, get?_shape]
    cases g.get? j with
    | none => rfl
    | some e =>
      change (if e.kind = kind then _ else _) = Except.map _ (if e.kind = kind then _ else _)
      split <;> rfl

lemma listed_shape (kind : EntityKind) (e : Entity) :
    g.shape.listed kind e.bare = (g.listed kind e).map Entity.bare := by
  rw [listed, listed, List.map_filterMap]
  refine List.filterMap_congr ?_
  intro id _
  rw [expect_shape]
  cases g.expect kind id <;> rfl

lemma postings_shape : g.shape.postings = g.postings.map Posting.bare := by
  have htype : ∀ s t, g.shape.typePostings s.bare t.bare =
      (g.typePostings s t).map Posting.bare := by
    intro s t
    simp [typePostings, listed_shape, Posting.bare, Function.comp_def]
  have hspace : ∀ s, g.shape.spacePostings s.bare = (g.spacePostings s).map Posting.bare := by
    intro s
    simp [spacePostings, listed_shape, List.flatMap_map, List.map_flatMap, htype, Posting.bare]
  have hassembly : ∀ a, g.shape.assemblyPostings a.bare =
      (g.assemblyPostings a).map Posting.bare := by
    intro a
    simp [assemblyPostings, listed_shape, List.flatMap_map, List.map_flatMap, hspace, Posting.bare]
  simp [postings, assemblies_shape, List.flatMap_map, List.map_flatMap, hassembly]

lemma visitFrom_of_none (hget : g.get? k = none) :
    g.visitFrom seen (k :: stack) = g.visitFrom seen stack := by
  rw [visitFrom]
  split
  · rfl
  case h_2 he =>
    rw [hget] at he
    cases he

lemma visitFrom_of_some (hget : g.get? k = some e) : g.visitFrom seen (k :: stack) =
    match e.id.identifier with
    | .error fault => .error fault
    | .ok id =>
      if hasId seen id then g.visitFrom seen stack
      else
        match e.childKeys with
        | .error fault => .error fault
        | .ok keys => (g.visitFrom (id :: seen) (keys ++ stack)).map ((k, e) :: ·) := by
  rw [visitFrom]
  split
  case h_1 he =>
    rw [hget] at he
    cases he
  case h_2 e' he =>
    obtain rfl : e = e' := Option.some.inj (hget.symm.trans he)
    split
    case h_1 hid => rw [hid]
    case h_2 hid =>
      rw [hid]
      rfl

lemma visitFrom_shape (seen stack : List Scalar) : g.shape.visitFrom seen stack =
    (g.visitFrom seen stack).map fun visits => visits.map fun y => (y.1, y.2.bare) := by
  have hsome : ∀ {k e}, g.get? k = some e → g.shape.get? k = some e.bare := by
    intro k e hget
    rw [get?_shape, hget]
    rfl
  have hkeys : ∀ e : Entity, e.bare.childKeys = e.childKeys := fun _ => rfl
  have hids : ∀ e : Entity, e.bare.id = e.id := fun _ => rfl
  fun_induction visitFrom g seen stack with
  | case1 =>
    rw [visitFrom]
    rfl
  | case2 seen key stack hget ih =>
    rw [visitFrom_of_none (by rw [get?_shape, hget]; rfl), ih]
  | case3 seen key stack e hget fault hid =>
    rw [visitFrom_of_some (hsome hget), hids, hid]
    rfl
  | case4 seen key stack e hget id hid hseen ih =>
    rw [visitFrom_of_some (hsome hget), hids, hid]
    dsimp only
    rw [if_pos hseen, ih]
  | case5 seen key stack e hget id hid hseen fault hfault =>
    rw [visitFrom_of_some (hsome hget), hids, hid]
    dsimp only
    rw [if_neg hseen, hkeys, hfault]
    rfl
  | case6 seen key stack e hget id hid hseen keys hok ih =>
    rw [visitFrom_of_some (hsome hget), hids, hid]
    dsimp only
    rw [if_neg hseen, hkeys, hok]
    dsimp only
    rw [ih]
    cases g.visitFrom (id :: seen) (keys ++ stack) <;> rfl

/-- Graphs of one shape are walked over in the same way. -/
lemma exists_of_mem_visits {visits' : List (Scalar × Entity)} (hshape : g'.shape = g.shape)
    (hvisits : g.visits = .ok visits) (hvisits' : g'.visits = .ok visits')
    (he : (k, e) ∈ visits') : ∃ x, (k, x) ∈ visits ∧ x.bare = e.bare := by
  have hkeys : g'.assemblyKeys = g.assemblyKeys := by
    rw [← assemblyKeys_shape, hshape, assemblyKeys_shape]
  have hwalk := visitFrom_shape (g := g) [] g.assemblyKeys
  have hwalk' := visitFrom_shape (g := g') [] g'.assemblyKeys
  rw [show g.visitFrom [] g.assemblyKeys = .ok visits from hvisits] at hwalk
  rw [show g'.visitFrom [] g'.assemblyKeys = .ok visits' from hvisits', hshape, hkeys, hwalk]
    at hwalk'
  have hsame : (visits.map fun y => (y.1, y.2.bare)) = visits'.map fun y => (y.1, y.2.bare) :=
    Except.ok.inj hwalk'
  have hbare : (k, e.bare) ∈ visits.map fun y => (y.1, y.2.bare) := by
    rw [hsame]
    exact List.mem_map.2 ⟨_, he, rfl⟩
  obtain ⟨⟨j, x⟩, hx, heq⟩ := List.mem_map.1 hbare
  obtain ⟨rfl, hxe⟩ := Prod.mk.inj heq
  exact ⟨x, hx, hxe⟩

lemma exists_of_mem_postings (hshape : g'.shape = g.shape) {p : Posting} (hp : p ∈ g.postings) :
    ∃ q ∈ g'.postings, q.bare = p.bare := by
  have hbare : p.bare ∈ g'.postings.map Posting.bare := by
    rw [← postings_shape, hshape, postings_shape]
    exact List.mem_map_of_mem hp
  exact List.mem_map.1 hbare

lemma linked_shape : g.shape.Linked P ↔ g.Linked P := by
  have hmem : ∀ {k e}, (k, e) ∈ g.entries → (k, e.bare) ∈ g.shape.entries :=
    fun he => mem_mapEntries_of_mem he
  have hdistinct : g.shape.Distinct ↔ g.Distinct := by
    rw [Distinct, shape, keys_mapEntries]
    rfl
  constructor
  · intro h
    refine ⟨hdistinct.1 h.distinct, fun he => (h.id_eq (hmem he) :),
      fun he => (h.lists (hmem he) :), fun he => (h.nodup (hmem he) :), ?_, ?_⟩
    · intro k e j he hj
      obtain ⟨c, hc, hkind, hholder⟩ := h.child (hmem he) hj
      obtain ⟨x, hx, rfl⟩ := mem_mapEntries.1 hc
      exact ⟨x, hx, hkind, hholder⟩
    · intro j c hc hset
      obtain ⟨k, p, hp, hholder, hlisted⟩ := h.parent (hmem hc) hset
      obtain ⟨x, hx, rfl⟩ := mem_mapEntries.1 hp
      exact ⟨k, x, hx, hholder, hlisted⟩
  · intro h
    constructor
    case distinct => exact hdistinct.2 h.distinct
    case child =>
      intro k e j he hj
      obtain ⟨x, hx, rfl⟩ := mem_mapEntries.1 he
      obtain ⟨c, hc, hkind, hholder⟩ := h.child hx hj
      exact ⟨c.bare, hmem hc, hkind, hholder⟩
    case parent =>
      intro j c hc hset
      obtain ⟨x, hx, rfl⟩ := mem_mapEntries.1 hc
      obtain ⟨k, p, hp, hholder, hlisted⟩ := h.parent hx hset
      exact ⟨k, p.bare, hmem hp, hholder, hlisted⟩
    all_goals
      intro k e he
      obtain ⟨x, hx, rfl⟩ := mem_mapEntries.1 he
    · exact (h.id_eq hx :)
    · exact (h.lists hx :)
    · exact (h.nodup hx :)

lemma workable_shape : g.shape.Workable ↔ g.Workable := by
  have hnull : g.shape.contains .null = g.contains .null := by
    simp [contains, shape, mapEntries, Function.comp_def]
  have husable : ∀ {e : Entity}, e.bare.Usable ↔ e.Usable :=
    ⟨fun h => ⟨h.name, h.fullName, h.memberKind⟩, fun h => ⟨h.name, h.fullName, h.memberKind⟩⟩
  constructor
  · intro h
    refine ⟨linked_shape.1 h.linked, hnull ▸ h.null, ?_⟩
    intro k e he
    exact husable.1 (h.usable (mem_mapEntries_of_mem he))
  · intro h
    refine ⟨linked_shape.2 h.linked, hnull.trans h.null, ?_⟩
    intro k e he
    obtain ⟨x, hx, rfl⟩ := mem_mapEntries.1 he
    exact husable.2 (h.usable hx)

end Graph

end LinkedDocs
