import LinkedDocs.Proofs.Reach

/-!
# Forests

The entries of a graph are a forest if every entity is followed by what it holds, in the order of
its list. Main statement: a walk over such a graph visits its entities in the order in which they
were added.
-/

namespace LinkedDocs.Graph

variable {g : Graph} {d : Nat} {roots roots' seen stack : List Scalar}
  {block block' : List (Scalar × Entity)}

/-- Trees one after another, with their roots at a depth. -/
inductive Forest : Nat → List Scalar → List (Scalar × Entity) → Prop where
  | nil {d : Nat} : Forest d [] []
  | cons {d : Nat} {k : Scalar} {e : Entity} {roots : List Scalar}
      {below rest : List (Scalar × Entity)} (hdepth : e.kind.depth = d)
      (hbelow : Forest (d + 1) e.childIds below) (hrest : Forest d roots rest) :
      Forest d (k :: roots) ((k, e) :: below ++ rest)

namespace Forest

lemma append (h : Forest d roots block) (h' : Forest d roots' block') :
    Forest d (roots ++ roots') (block ++ block') := by
  induction h with
  | nil => exact h'
  | cons hdepth hbelow _ _ ih =>
    rw [List.append_assoc]
    exact .cons hdepth hbelow (ih h')

/-- The assemblies of a forest are its roots. -/
lemma assemblyKeys (h : Forest d roots block) :
    (block.filter (·.2.kind = .assembly)).map (·.1) = if d = 0 then roots else [] := by
  induction h with
  | nil => simp
  | @cons d k e roots below rest hdepth _ _ ihbelow ihrest =>
    have hkind : e.kind = .assembly ↔ d = 0 := by
      rw [← hdepth]
      cases e.kind <;> decide
    rw [if_neg (Nat.succ_ne_zero d)] at ihbelow
    rw [List.cons_append, List.filter_cons, List.filter_append]
    by_cases hd : d = 0
    · simp [hkind, hd, ihbelow, ihrest]
    · simp [hkind, hd, ihbelow, ihrest]

/-- A walk visits the trees on its stack one after another. -/
lemma visitFrom (h : Forest d roots block) (hlinked : g.WellLinked)
    (hblock : ∀ y ∈ block, y ∈ g.entries) (hnodup : (block.map (·.1)).Nodup)
    (hkeys : ∀ j ∈ seen, j ∈ g.keys) (hseen : ∀ j ∈ block.map (·.1), j ∉ seen) :
    g.visitFrom seen (roots ++ stack) =
      (g.visitFrom ((block.map (·.1)).reverse ++ seen) stack).map (block ++ ·) := by
  induction h generalizing seen stack with
  | nil =>
    rw [List.nil_append, List.map_nil, List.reverse_nil, List.nil_append]
    cases g.visitFrom seen stack <;> rfl
  | @cons d k e roots below rest _ _ _ ihbelow ihrest =>
    have he : (k, e) ∈ g.entries := hblock _ (by simp)
    have hk : k ∈ g.keys := mem_keys_of_mem he
    have hfresh : hasId seen k = false := by
      rw [Bool.eq_false_iff, Ne, hasId_iff hlinked.distinct hkeys hk]
      exact hseen k (by simp)
    simp only [List.cons_append, List.map_cons, List.map_append, List.nodup_cons, List.mem_append,
      not_or, List.nodup_append'] at hnodup
    obtain ⟨⟨hkbelow, hkrest⟩, hbelow, hrest, hdisjoint⟩ := hnodup
    have hbelowkeys : ∀ j ∈ below.map (·.1), j ∈ g.keys := by
      intro j hj
      obtain ⟨y, hy, rfl⟩ := List.mem_map.1 hj
      exact mem_keys_of_mem (hblock y (by simp [hy]))
    -- Below the root first, with the root seen; then the trees after it, with all of that seen.
    have hfirst := @ihbelow (k :: seen) (roots ++ stack)
      (fun y hy => hblock y (by simp [hy])) hbelow (List.forall_mem_cons.2 ⟨hk, hkeys⟩) (by
        intro j hj hmem
        rcases List.mem_cons.1 hmem with rfl | hmem
        · exact hkbelow hj
        · exact hseen j (by simp [hj]) hmem)
    have hsecond := @ihrest ((below.map (·.1)).reverse ++ k :: seen) stack
      (fun y hy => hblock y (by simp [hy])) hrest (by
        intro j hj
        rcases List.mem_append.1 hj with hj | hj
        · exact hbelowkeys j (List.mem_reverse.1 hj)
        · exact List.forall_mem_cons.2 ⟨hk, hkeys⟩ j hj) (by
        intro j hj hmem
        rcases List.mem_append.1 hmem with hmem | hmem
        · exact hdisjoint (List.mem_reverse.1 hmem) hj
        · rcases List.mem_cons.1 hmem with rfl | hmem
          · exact hkrest hj
          · exact hseen j (by simp [hj]) hmem)
    rw [List.cons_append, visitFrom_of_some (hlinked.distinct.get?_eq he), hlinked.id_eq he]
    simp only [Value.identifier, hfresh, Bool.false_eq_true, if_false,
      childKeys_eq (hlinked.lists he), hfirst, hsecond]
    simp only [List.map_cons, List.map_append, List.cons_append, List.reverse_cons,
      List.reverse_append, List.append_assoc, List.nil_append]
    cases g.visitFrom _ stack <;> simp [Except.map]

/-- A graph that is a forest is walked over in its own order. -/
theorem walk (h : Forest 0 roots g.entries) (hlinked : g.WellLinked) :
    g.walk = .ok g.entities := by
  have hroots : g.assemblyKeys = roots := by
    rw [Graph.assemblyKeys, h.assemblyKeys, if_pos rfl]
  have hvisits := @visitFrom g 0 roots [] [] g.entries h hlinked (fun y hy => hy)
    hlinked.distinct.nodup (by simp) (by simp)
  have hend (seen : List Scalar) : g.visitFrom seen [] = .ok [] := by rw [Graph.visitFrom]
  rw [List.append_nil, hend] at hvisits
  rw [Graph.walk, Graph.visits, hroots, hvisits]
  simp [Except.map, entities]

end Forest

end LinkedDocs.Graph
