import LinkedDocs.Proofs.Edits

/-!
# Walks over a graph

A graph is keyed if every entity stands under its own id. Every edit keeps a graph keyed, so that
additions, removals and relocations do, whatever the ids are. A walk over a keyed graph visits no
entity twice, so what is done to one visited entity is not seen at another.
-/

namespace LinkedDocs

namespace Graph

variable {g g' : Graph} {k j s : Scalar} {e x : Entity}

/-- Every entity stands under its own id. -/
def Keyed (g : Graph) : Prop :=
  ∀ y ∈ g.entries, y.2.id = .scalar y.1

/-! ### What keeps a graph keyed -/

lemma get?_modify {u : Entity → Entity} :
    (g.modify k u).get? s = (g.get? s).map fun e => if s.same k then u e else e := by
  have hmap : (g.modify k u).entries.find? (·.1.same s) =
      (g.entries.find? (·.1.same s)).map fun y => (y.1, if y.1.same k then u y.2 else y.2) :=
    List.find?_map ..
  rw [get?, hmap, get?]
  cases hfind : g.entries.find? (·.1.same s) with
  | none => rfl
  | some y =>
    have hs : y.1.same s = true := by simpa using List.find?_some hfind
    have hk : y.1.same k = s.same k := by
      rw [Scalar.same, Scalar.same, Scalar.same_iff.1 hs]
    simp only [Option.map_some, hk]

lemma Keyed.modify {u : Entity → Entity} (h : g.Keyed) (hu : ∀ e, (u e).id = e.id) :
    (g.modify k u).Keyed := by
  rintro ⟨j, x⟩ hx
  rw [modify_eq_mapEntries] at hx
  obtain ⟨y, hy, rfl⟩ := mem_mapEntries.1 hx
  dsimp only
  split
  · rw [hu, h _ hy]
  · exact h _ hy

lemma Keyed.push (h : g.Keyed) (hid : e.id = .scalar k) : (g.push k e).Keyed := by
  rintro ⟨j, x⟩ hx
  rcases mem_push.1 hx with hx | ⟨rfl, rfl⟩
  · exact h _ hx
  · exact hid

lemma Keyed.erase (h : g.Keyed) : (g.erase k).Keyed :=
  fun y hy => h y (List.mem_of_mem_filter hy)

lemma Keyed.add (h : g.Keyed) (e : Entity) : (g.add e).1.Keyed := by
  unfold Graph.add
  split
  · exact h
  case h_2 key parent? hadmission =>
    have hkey : e.id = .scalar key := by
      obtain ⟨key', hid, hrest⟩ := bind_eq_ok.1 hadmission
      have heq : key' = key := by
        split at hrest
        · cases hrest
        · split at hrest
          · split at hrest
            · exact congrArg Prod.fst (Except.ok.inj hrest)
            · obtain ⟨parent, -, hrest⟩ := bind_eq_ok.1 hrest
              obtain ⟨id, -, hrest⟩ := bind_eq_ok.1 hrest
              exact congrArg Prod.fst (Except.ok.inj hrest)
          · exact congrArg Prod.fst (Except.ok.inj hrest)
      rw [← heq]
      cases hv : e.id <;> simp_all [Value.identifier]
    have hgrown : (g.push key e).Keyed := h.push hkey
    dsimp only
    split
    · exact hgrown
    · split
      · exact hgrown.modify fun _ => rfl
      · exact hgrown

/-- Every edit keeps a graph keyed. -/
lemma Keyed.edits {rs : List IdRequest} (h : g.Keyed) (hedits : Edits g rs g') : g'.Keyed := by
  induction hedits with
  | refl => exact h
  | freshId _ _ ih => exact ih
  | add _ e ih => exact ih.add e
  | modify _ _ hu ih => exact ih.modify hu
  | erase _ _ ih => exact ih.erase

/-- A relocation keeps a graph keyed, also where it fails. -/
lemma Keyed.relocate (h : g.Keyed) (config : Config) : (g.relocate config).graph.Keyed :=
  h.edits (Relocation.edits_relocate config g)

/-! ### Walks -/

/-- The entity under a key has an id that is the same key. -/
lemma Keyed.id_of_get? (h : g.Keyed) (hget : g.get? k = some e) :
    ∃ j, e.id = .scalar j ∧ j.same k = true := by
  obtain ⟨j, hj, hs⟩ := exists_of_get? hget
  exact ⟨j, h _ hj, hs⟩

/-- A walk over a keyed graph visits nothing that has been seen, and nothing twice. -/
lemma Keyed.visitFrom (h : g.Keyed) {seen stack : List Scalar} {visits : List (Scalar × Entity)}
    (hvisits : g.visitFrom seen stack = .ok visits) :
    (∀ y ∈ visits, hasId seen y.1 = false) ∧
      visits.Pairwise fun a b => a.1.same b.1 = false := by
  fun_induction Graph.visitFrom g seen stack generalizing visits with
  | case1 =>
    obtain rfl := Except.ok.inj hvisits
    exact ⟨by simp, .nil⟩
  | case2 _ _ _ _ ih => exact ih hvisits
  | case3 => cases hvisits
  | case4 _ _ _ _ _ _ _ _ ih => exact ih hvisits
  | case5 => cases hvisits
  | case6 seen key stack e hget id hid hseen keys _ ih =>
    obtain ⟨rest, hrest, rfl⟩ := map_eq_ok.1 hvisits
    obtain ⟨hfresh, hdistinct⟩ := ih hrest
    obtain ⟨j, hj, hs⟩ := h.id_of_get? hget
    obtain rfl : j = id := by simpa [hj, Value.identifier] using hid
    have hother : ∀ y ∈ rest, hasId seen y.1 = false ∧ key.same y.1 = false := by
      intro y hy
      have hnew := hfresh y hy
      simp only [hasId, List.any_cons, Bool.or_eq_false_iff] at hnew
      refine ⟨hnew.2, ?_⟩
      rw [Scalar.same, ← Scalar.same_iff.1 hs]
      exact hnew.1
    refine ⟨?_, .cons (fun y hy => (hother y hy).2) hdistinct⟩
    intro y hy
    rcases List.mem_cons.1 hy with rfl | hy
    · rw [← hasId_congr hs]
      simpa using hseen
    · exact (hother y hy).1

/-- A walk of so many steps at most. -/
def visitWithin (g : Graph) : Nat → List Scalar → List Scalar → Option (List (Scalar × Entity))
  | 0, _, _ => none
  | _ + 1, _, [] => some []
  | n + 1, seen, key :: stack =>
    match g.get? key with
    | none => g.visitWithin n seen stack
    | some e =>
      match e.id.identifier with
      | .error _ => none
      | .ok id =>
        if hasId seen id then g.visitWithin n seen stack
        else
          match e.childKeys with
          | .error _ => none
          | .ok keys => (g.visitWithin n (id :: seen) (keys ++ stack)).map ((key, e) :: ·)

lemma visitFrom_of_within {n : Nat} {seen stack : List Scalar} {visits : List (Scalar × Entity)}
    (h : g.visitWithin n seen stack = some visits) : g.visitFrom seen stack = .ok visits := by
  induction n generalizing seen stack visits with
  | zero => cases h
  | succ n ih =>
    cases stack with
    | nil =>
      obtain rfl := Option.some.inj h
      rw [Graph.visitFrom]
    | cons key stack =>
      rw [visitWithin] at h
      rw [Graph.visitFrom]
      split
      case h_1 hget =>
        rw [hget] at h
        exact ih h
      case h_2 e hget =>
        rw [hget] at h
        dsimp only at h
        split
        case h_1 hid => simp [hid] at h
        case h_2 id hid =>
          rw [hid] at h
          split
          case isTrue hseen =>
            dsimp only at h
            rw [if_pos hseen] at h
            exact ih h
          case isFalse hseen =>
            dsimp only at h
            rw [if_neg hseen] at h
            split
            case h_1 hkeys => simp [hkeys] at h
            case h_2 keys hkeys =>
              rw [hkeys] at h
              obtain ⟨rest, hrest, rfl⟩ := Option.map_eq_some_iff.1 h
              exact map_eq_ok.2 ⟨rest, ih hrest, rfl⟩

end Graph

end LinkedDocs
