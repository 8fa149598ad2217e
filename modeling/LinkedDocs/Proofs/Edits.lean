import LinkedDocs.Proofs.Moves
import LinkedDocs.Proofs.Runs

/-!
# Edits of a graph

Everything that is done to a graph is done in steps of four kinds: an id is made up, an entity is
added, an entity is changed under its id, and an entity is erased. Removals, relocations and
transformations are sequences of such steps, also where they fail, so what each step keeps is kept
by all of them. The ids that are made up on the way are listed by the requests for them.
-/

namespace LinkedDocs

namespace Graph

variable {g g' g'' : Graph}

/-- A request for a fresh id: the graph as it is then, and the stem. -/
structure IdRequest where
  graph : Graph
  stem : Text

/-- The second graph comes of the first by edits, and these are the requests for fresh ids among
them, in order. -/
inductive Edits (g : Graph) : List IdRequest → Graph → Prop where
  | refl : Edits g [] g
  | freshId {rs : List IdRequest} {g' : Graph} (h : Edits g rs g') (stem : Text) :
      Edits g (rs ++ [⟨g', stem⟩]) (g'.freshId stem).2
  | add {rs : List IdRequest} {g' : Graph} (h : Edits g rs g') (e : Entity) :
      Edits g rs (g'.add e).1
  | modify {rs : List IdRequest} {g' : Graph} (h : Edits g rs g') (k : Scalar)
      {u : Entity → Entity} (hu : ∀ e, (u e).id = e.id) : Edits g rs (g'.modify k u)
  | erase {rs : List IdRequest} {g' : Graph} (h : Edits g rs g') (k : Scalar) :
      Edits g rs (g'.erase k)

lemma Edits.trans {rs rs' : List IdRequest} (h : Edits g rs g') (h' : Edits g' rs' g'') :
    Edits g (rs ++ rs') g'' := by
  induction h' with
  | refl => rwa [List.append_nil]
  | freshId _ stem ih =>
    rw [← List.append_assoc]
    exact ih.freshId stem
  | add _ e ih => exact ih.add e
  | modify _ k hu ih => exact ih.modify k hu
  | erase _ k ih => exact ih.erase k

lemma edits_of_add {rs : List IdRequest} {e : Entity} {fault? : Option Fault} (h : Edits g rs g')
    (hadd : g'.add e = (g'', fault?)) : Edits g rs g'' := by
  have hstep := h.add e
  rwa [hadd] at hstep

/-! ### Removals -/

lemma edits_unlist {id : Value} {e : Entity} (h : g.unlist id e = .ok g') : Edits g [] g' := by
  unfold unlist at h
  split at h
  · rw [← Except.ok.inj h]
    exact .refl
  · obtain ⟨key, -, h⟩ := bind_eq_ok.1 h
    split at h
    · obtain ⟨parent, -, h⟩ := bind_eq_ok.1 h
      obtain ⟨children, -, h⟩ := bind_eq_ok.1 h
      rw [← Except.ok.inj h]
      exact Edits.refl.modify key fun _ => rfl
    · rw [← Except.ok.inj h]
      exact .refl

mutual

/-- The levels of a removal are taken one by one; within a level the children go first. -/
lemma edits_removeWithin (g : Graph) (fuel : Nat) (id : Value) :
    Edits g [] (g.removeWithin fuel id).1 := by
  cases fuel with
  | zero =>
    rw [removeWithin]
    exact .refl
  | succ fuel =>
    rw [removeWithin]
    split
    · exact .refl
    · split
      · exact .refl
      · split
        · exact .refl
        case h_2 ids _ =>
          have hchildren := edits_removeAllWithin g fuel ids
          split
          case h_1 heq => rwa [heq] at hchildren
          case h_2 heq =>
            rw [heq] at hchildren
            split
            case h_1 hunlist => exact (hchildren.trans (edits_unlist hunlist)).erase _
            case h_2 => exact hchildren
termination_by (fuel, 0)

lemma edits_removeAllWithin (g : Graph) (fuel : Nat) (ids : List Value) :
    Edits g [] (g.removeAllWithin fuel ids).1 := by
  cases ids with
  | nil =>
    rw [removeAllWithin]
    exact .refl
  | cons id ids =>
    have hone := edits_removeWithin g fuel id
    rw [removeAllWithin]
    split
    case h_1 g' heq =>
      rw [heq] at hone
      exact hone.trans (edits_removeAllWithin g' fuel ids)
    case h_2 heq => rwa [heq] at hone
termination_by (fuel, ids.length + 1)

end

lemma edits_remove (g : Graph) (id : Value) : Edits g [] (g.remove id).1 :=
  edits_removeWithin g _ id

end Graph

/-! ### Relocations -/

namespace Relocation

open LinkedDocs.Graph

variable {config : Config} {p : Pass}

/-- The requests for the id of something documented elsewhere: none if the preferred one is free. -/
def externalRequests (g : Graph) (preferred : Text) : List IdRequest :=
  let candidate := "external:".toList ++ preferred
  if g.contains (.text candidate) then [⟨g, candidate⟩] else []

/-- The requests for the namespace of a name. -/
def namespaceRequests (p : Pass) (assembly : Value) (name : Text) : List IdRequest :=
  match p.graph.findNamespace? assembly (.text name) with
  | some _ => []
  | none => externalRequests p.graph ("N:".toList ++ name)

/-- The requests for a placeholder, those for its namespace first. -/
def placeholderRequests (p : Pass) (member : Entity) (typeName : Text) : List IdRequest :=
  match assemblyOf p.graph member with
  | .error _ => []
  | .ok assembly =>
    let spaceName := (Symbol.splitNamespace typeName).1
    namespaceRequests p assembly spaceName ++
      match ensureNamespace p assembly spaceName with
      | (_, .error _) => []
      | (p, .ok _) => externalRequests p.graph ("T:".toList ++ typeName)

/-- The requests for the type that a member is to be moved to. -/
def targetRequests (config : Config) (p : Pass) (member : Entity) (typeName : Text) :
    List IdRequest :=
  match p.types.lookup typeName with
  | some _ => []
  | none => if config.createPlaceholders then placeholderRequests p member typeName else []

/-- The requests for the move of one extension member. -/
def moveRequests (config : Config) (p : Pass) (memberKey : Scalar) : List IdRequest :=
  match p.graph.get? memberKey with
  | none => []
  | some member =>
    match member.detail with
    | .member _ _ _ extended =>
      match extended.expectText "strip".toList with
      | .error _ => []
      | .ok extended =>
        let typeName := Symbol.normalize extended
        if typeName = [] then [] else targetRequests config p member typeName
    | _ => []

/-- The requests for the moves of extension members, up to the first that fails. -/
def moveAllRequests (config : Config) (p : Pass) : List Scalar → List IdRequest
  | [] => []
  | key :: keys =>
    moveRequests config p key ++
      match moveOne config p key with
      | (p, none) => moveAllRequests config p keys
      | (_, some _) => []

/-- The requests of a relocation. -/
def requests (config : Config) (g : Graph) : List IdRequest :=
  match namedTypes g with
  | .error _ => []
  | .ok types => moveAllRequests config { graph := g, types } (candidates g)

lemma edits_externalId (g : Graph) (preferred : Text) :
    Edits g (externalRequests g preferred) (externalId g preferred).2 := by
  unfold externalRequests externalId
  dsimp only
  split
  · exact Edits.refl.freshId _
  · exact .refl

lemma edits_ensureNamespace (p : Pass) (assembly : Value) (name : Text) :
    Edits p.graph (namespaceRequests p assembly name)
      (ensureNamespace p assembly name).1.graph := by
  unfold namespaceRequests ensureNamespace
  cases p.graph.findNamespace? assembly (.text name) with
  | some space => exact .refl
  | none =>
    have hid := edits_externalId p.graph ("N:".toList ++ name)
    dsimp only
    split
    case h_1 hadd => exact edits_of_add hid hadd
    case h_2 hadd => exact edits_of_add hid hadd

lemma edits_createPlaceholder (config : Config) (p : Pass) (member : Entity)
    (typeName extended : Text) :
    Edits p.graph (placeholderRequests p member typeName)
      (createPlaceholder config p member typeName extended).1.graph := by
  unfold placeholderRequests createPlaceholder
  dsimp only
  cases assemblyOf p.graph member with
  | error fault => exact .refl
  | ok assembly =>
    have hspace := edits_ensureNamespace p assembly (Symbol.splitNamespace typeName).1
    rcases heq : ensureNamespace p assembly (Symbol.splitNamespace typeName).1 with
      ⟨p', fault | space⟩
    · rw [heq] at hspace
      simpa [heq] using hspace
    · rw [heq] at hspace
      have hid := hspace.trans (edits_externalId p'.graph ("T:".toList ++ typeName))
      simp only [heq]
      split
      case h_1 hadd => exact edits_of_add hid hadd
      case h_2 hadd => exact edits_of_add hid hadd

lemma edits_targetFor (config : Config) (p : Pass) (member : Entity) (typeName extended : Text) :
    Edits p.graph (targetRequests config p member typeName)
      (targetFor config p member typeName extended).1.graph := by
  unfold targetRequests targetFor
  cases p.types.lookup typeName with
  | some key => exact .refl
  | none =>
    have hmade := edits_createPlaceholder config p member typeName extended
    dsimp only
    split
    · split
      case h_1 heq => rwa [heq] at hmade
      case h_2 heq => rwa [heq] at hmade
    · exact .refl

lemma id_loseMember (id : Value) (e : Entity) : (loseMember id e).id = e.id := by
  unfold loseMember
  split <;> rfl

lemma edits_loseMembers (g : Graph) (owners : List (Scalar × Entity)) (id : Value) :
    Edits g [] (loseMembers g owners id) := by
  induction owners generalizing g with
  | nil => exact .refl
  | cons owner owners ih =>
    have hfirst : Edits g [] (g.modify owner.1 (loseMember id)) :=
      Edits.refl.modify owner.1 (id_loseMember id)
    exact hfirst.trans (ih _)

lemma edits_place (p : Pass) (memberKey : Scalar) (member : Entity) (targetKey : Scalar)
    (target : Entity) : Edits p.graph [] (place p memberKey member targetKey target).1.graph := by
  unfold place
  split
  · exact .refl
  · exact .refl
  · exact .refl
  case h_4 owners _ _ _ =>
    have hlost := edits_loseMembers p.graph owners member.id
    dsimp only
    split
    · exact hlost
    · refine (hlost.modify targetKey ?_).modify memberKey fun _ => id_rehomed
      exact fun _ => rfl

lemma edits_moveOne (config : Config) (p : Pass) (k : Scalar) :
    Edits p.graph (moveRequests config p k) (moveOne config p k).1.graph := by
  unfold moveRequests moveOne
  cases p.graph.get? k with
  | none => exact .refl
  | some member =>
    dsimp only
    cases member.detail with
    | member kind declaring isExtension extended =>
      dsimp only
      cases extended.expectText "strip".toList with
      | error fault => exact .refl
      | ok extended =>
        dsimp only
        split
        · exact .refl
        · have htarget := edits_targetFor config p member (Symbol.normalize extended) extended
          split
          case h_1 heq => rwa [heq] at htarget
          case h_2 heq => rwa [heq] at htarget
          case h_3 heq =>
            rw [heq] at htarget
            split
            · simpa using htarget.trans (edits_place _ _ _ _ _)
            · exact htarget
    | _ => exact .refl

lemma edits_moveAll (config : Config) (p : Pass) (ks : List Scalar) :
    Edits p.graph (moveAllRequests config p ks) (moveAll config p ks).1.graph := by
  induction ks generalizing p with
  | nil => exact .refl
  | cons k ks ih =>
    have hone := edits_moveOne config p k
    rw [moveAllRequests, moveAll]
    rcases heq : moveOne config p k with ⟨p', _ | fault⟩
    · rw [heq] at hone
      exact hone.trans (ih p')
    · rw [heq] at hone
      simpa using hone

lemma edits_removeEmptied (p : Pass) (ids : List Value) :
    Edits p.graph [] (removeEmptied p ids).1.graph := by
  induction ids generalizing p with
  | nil => exact .refl
  | cons id ids ih =>
    rw [removeEmptied]
    split
    · exact .refl
    · exact ih p
    · split
      · have hremove := edits_remove p.graph id
        split
        case h_1 heq => rwa [heq] at hremove
        case h_2 g' heq =>
          rw [heq] at hremove
          let removed := p.result.containersRemoved ++ [id]
          let result := { p.result with containersRemoved := removed }
          exact hremove.trans (ih { p with graph := g', result })
      · exact ih p

/-- A relocation is a sequence of edits, also where it fails. -/
lemma edits_relocate (config : Config) (g : Graph) :
    Edits g (requests config g) (g.relocate config).graph := by
  unfold requests Graph.relocate
  cases candidates g with
  | nil => cases namedTypes g <;> exact .refl
  | cons k ks =>
    cases namedTypes g with
    | error fault => exact .refl
    | ok types =>
      have hmoved := edits_moveAll config { graph := g, types } (k :: ks)
      dsimp only
      split
      case h_1 heq => rwa [heq] at hmoved
      case h_2 p heq =>
        rw [heq] at hmoved
        have hremoved := hmoved.trans (edits_removeEmptied p p.losers)
        rw [List.append_nil] at hremoved
        split
        case h_1 heq' => rwa [heq'] at hremoved
        case h_2 heq' => rwa [heq'] at hremoved

end Relocation

/-! ### Transformations -/

/-- A transformation makes no requests beyond those of its relocation. -/
lemma Transform.edits_runWith {worker : Resolver → Entity → Option Work} {config : Config}
    {g : Graph} {outcome : Outcome} (hrun : runWith worker config g = some outcome) :
    Graph.Edits g (Relocation.requests config g) outcome.graph := by
  refine runWith_keeps (P := Graph.Edits g (Relocation.requests config g)) hrun
    (Relocation.edits_relocate config g) ?_
  intro _ y _ revision b _ _ _ _ hedits
  exact hedits.modify y.1 fun _ => rfl

end LinkedDocs
