import LinkedDocs.Graph.Basic

/-!
# Walking the graph

`walk` visits every entity that can be reached from an assembly, an entity before the entities it
holds and each of them once, whatever the child lists look like.
-/

namespace LinkedDocs.Graph

/-- Whether the entity has been visited, of which the ids in `seen` tell. -/
def isSeen (seen : List Scalar) (e : Entity) : Bool :=
  match e.id with
  | .scalar id => hasId seen id
  | _ => false

/-- How many entities have not been visited. -/
def unseen (g : Graph) (seen : List Scalar) : Nat :=
  g.entities.countP fun e => !isSeen seen e

theorem get?_mem {g : Graph} {id : Scalar} {e : Entity} (h : g.get? id = some e) :
    e ∈ g.entities := by
  obtain ⟨entry, hfind, rfl⟩ := Option.map_eq_some_iff.1 h
  exact List.mem_map_of_mem (List.mem_of_find?_eq_some hfind)

/-- Fewer elements meet the stronger of two conditions, if one of them tells the two apart. -/
theorem countP_lt_of_mem {α : Type} {p q : α → Bool} (hqp : ∀ x, q x = true → p x = true)
    {l : List α} {a : α} (ha : a ∈ l) (hp : p a = true) (hq : q a = false) :
    l.countP q < l.countP p := by
  induction l with
  | nil => cases ha
  | cons x xs ih =>
    have hle : xs.countP q ≤ xs.countP p := List.countP_mono_left fun x _ => hqp x
    rcases List.mem_cons.1 ha with rfl | hmem
    · simp only [List.countP_cons, hp, hq]
      simp
      omega
    · have hlt := ih hmem
      simp only [List.countP_cons]
      by_cases hqx : q x = true
      · rw [if_pos hqx, if_pos (hqp x hqx)]
        omega
      · rw [if_neg hqx]
        omega

theorem unseen_cons_lt {g : Graph} {seen : List Scalar} {e : Entity} {id : Scalar}
    (he : e ∈ g.entities) (hid : e.id.identifier = .ok id) (hseen : hasId seen id = false) :
    g.unseen (id :: seen) < g.unseen seen := by
  have heid : e.id = .scalar id := by
    cases h : e.id <;> simp_all [Value.identifier]
  refine countP_lt_of_mem (fun x hx => ?_) he (by simp [isSeen, heid, hseen])
    (by simp [isSeen, heid, hasId])
  cases hx' : x.id <;> simp_all [isSeen, hasId]

/-- Visits the entities with the keys on the stack, those that an entity holds before the rest of the
stack, and answers them with their keys. -/
def visitFrom (g : Graph) (seen : List Scalar) :
    (stack : List Scalar) → Except Fault (List (Scalar × Entity))
  | [] => .ok []
  | key :: stack =>
    match _h : g.get? key with
    | none => visitFrom g seen stack
    | some e =>
      match _hid : e.id.identifier with
      | .error fault => .error fault
      | .ok id =>
        if _hs : hasId seen id then visitFrom g seen stack
        else
          match e.childKeys with
          | .error fault => .error fault
          | .ok keys => (visitFrom g (id :: seen) (keys ++ stack)).map ((key, e) :: ·)
termination_by stack => (g.unseen seen, stack.length)
decreasing_by
  · exact Prod.Lex.right _ (by simp)
  · exact Prod.Lex.right _ (by simp)
  · exact Prod.Lex.left _ _ (unseen_cons_lt (get?_mem _h) _hid (by simpa using _hs))

/-- The keys of the assemblies. -/
def assemblyKeys (g : Graph) : List Scalar :=
  (g.entries.filter (·.2.kind = .assembly)).map (·.1)

/-- Every entity that can be reached from an assembly, in pre-order, with its key. -/
def visits (g : Graph) : Except Fault (List (Scalar × Entity)) :=
  g.visitFrom [] g.assemblyKeys

/-- Every entity that can be reached from an assembly, in pre-order. -/
def walk (g : Graph) : Except Fault (List Entity) :=
  g.visits.map (·.map (·.2))

end LinkedDocs.Graph
