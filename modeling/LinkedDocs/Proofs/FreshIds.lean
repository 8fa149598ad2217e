import LinkedDocs.Proofs.Edits
import LinkedDocs.Proofs.Histories

/-!
# Ids that are made up

An id is made up of a stem and a number, and numbers are tried one after another until the id of one
is free. A relocation makes up ids too, for namespaces and placeholders whose own ids are taken.
Main statement: in every run of operations each of these searches ends, with an id that the graph
does not have, and no id is made up twice, whatever the stems are.
-/

namespace LinkedDocs

namespace Graph

variable {g g' : Graph} {stem : Text} {m n a b c : Nat}

/-! ### The search for a number -/

/-- The search without a bound: it goes from number to number, up to the first whose id is free. -/
inductive Search (g : Graph) (stem : Text) : (start found : Nat) → Prop where
  | free {n : Nat} : g.contains (numberedId stem n) = false → Search g stem n n
  | taken {n m : Nat} : g.contains (numberedId stem n) = true → Search g stem (n + 1) m →
      Search g stem n m

lemma Search.le (h : Search g stem m n) : m ≤ n := by
  induction h with
  | free _ => exact Nat.le_refl _
  | taken _ _ ih => omega

/-- The bounded search is the one without a bound if it comes to a free id. -/
lemma search_firstFree (fuel n : Nat)
    (h : g.contains (numberedId stem (g.firstFree stem fuel n)) = false) :
    Search g stem n (g.firstFree stem fuel n) := by
  induction fuel generalizing n with
  | zero => exact .free h
  | succ fuel ih =>
    rw [firstFree] at h ⊢
    cases hn : g.contains (numberedId stem n) with
    | true =>
      rw [hn, if_pos rfl] at h
      rw [if_pos rfl]
      exact .taken hn (ih (n + 1) h)
    | false =>
      rw [if_neg Bool.false_ne_true]
      exact .free hn

lemma firstFree_le (g : Graph) (stem : Text) (fuel n : Nat) :
    g.firstFree stem fuel n ≤ n + fuel := by
  induction fuel generalizing n with
  | zero => exact Nat.le_refl _
  | succ fuel ih =>
    rw [firstFree]
    split
    · have := ih (n + 1)
      omega
    · omega

lemma eq_nil_of_numbered {w : Text} (h : '#' :: Text.ofNat m = w ++ '#' :: Text.ofNat n) :
    w = [] := by
  cases w with
  | nil => rfl
  | cons d w =>
    -- The sign in front of the other number would stand among the digits of this one.
    have hdigits : Text.ofNat m = w ++ '#' :: Text.ofNat n := (List.cons.inj h).2
    have hmem : '#' ∈ Text.ofNat m := by
      rw [hdigits]
      simp
    exact absurd (Nat.isDigit_of_mem_toDigits (by decide) (by decide) hmem) (by decide)

/-- An id that is made up determines its stem and its number, also if there are signs and digits in
the stem. -/
lemma numberedId_inj {s t : Text} (h : numberedId s m = numberedId t n) : s = t ∧ m = n := by
  have hstem : s = t := by
    rcases List.append_eq_append_iff.1 (Scalar.text.inj h) with ⟨w, rfl, hw⟩ | ⟨w, rfl, hw⟩
    · rw [eq_nil_of_numbered hw, List.append_nil]
    · rw [eq_nil_of_numbered hw, List.append_nil]
  subst hstem
  exact ⟨rfl, numberedId_injective s h⟩

/-! ### Requests -/

namespace IdRequest

/-- The id that is made up. -/
def id (r : IdRequest) : Scalar :=
  (r.graph.freshId r.stem).1

/-- The number of that id, which the graph keeps. -/
def number (r : IdRequest) : Nat :=
  (r.graph.freshId r.stem).2.issued

lemma id_eq (r : IdRequest) : r.id = numberedId r.stem r.number :=
  rfl

lemma search (r : IdRequest) : Search r.graph r.stem (r.graph.issued + 1) r.number :=
  search_firstFree _ _ (freshId_free r.graph r.stem)

lemma number_le (r : IdRequest) : r.number ≤ r.graph.issued + 1 + r.graph.size :=
  firstFree_le _ _ _ _

lemma issued_lt (r : IdRequest) : r.graph.issued < r.number :=
  Nat.lt_of_succ_le r.search.le

end IdRequest

/-- The numbers used go from the first to the last by these requests, one after another, and by
nothing else. -/
inductive Counted : Nat → List IdRequest → Nat → Prop where
  | done (n : Nat) : Counted n [] n
  | request (r : IdRequest) {rs : List IdRequest} {n : Nat} (h : Counted r.number rs n) :
      Counted r.graph.issued (r :: rs) n

namespace Counted

variable {rs rs' : List IdRequest}

lemma append (h : Counted a rs b) (h' : Counted b rs' c) : Counted a (rs ++ rs') c := by
  induction h with
  | done _ => exact h'
  | request r _ ih => exact .request r (ih h')

lemma lt_number (h : Counted a rs b) : ∀ r ∈ rs, a < r.number := by
  induction h with
  | done _ => simp
  | request r _ ih =>
    intro r' hr'
    rcases List.mem_cons.1 hr' with rfl | hr'
    · exact r'.issued_lt
    · exact Nat.lt_trans r.issued_lt (ih r' hr')

lemma nodup (h : Counted a rs b) : (rs.map IdRequest.id).Nodup := by
  induction h with
  | done _ => simp
  | request r hrest ih =>
    rw [List.map_cons, List.nodup_cons]
    refine ⟨?_, ih⟩
    intro hmem
    obtain ⟨r', hr', hid⟩ := List.mem_map.1 hmem
    -- A later request has a greater number, and the number can be read off the id.
    have hlt := hrest.lt_number r' hr'
    rw [r.id_eq, r'.id_eq] at hid
    exact absurd (numberedId_inj hid).2 (Nat.ne_of_gt hlt)

end Counted

/-! ### Edits -/

lemma issued_add (g : Graph) (e : Entity) : (g.add e).1.issued = g.issued := by
  unfold add
  split
  · rfl
  · dsimp only
    split
    · rfl
    · split <;> rfl

/-- Only requests use numbers. -/
lemma Edits.counted {rs : List IdRequest} (h : Edits g rs g') : Counted g.issued rs g'.issued := by
  induction h with
  | refl => exact .done _
  | freshId _ stem ih => exact ih.append (.request ⟨_, stem⟩ (.done _))
  | add _ e ih => rwa [issued_add]
  | modify _ _ _ ih => exact ih
  | erase _ _ ih => exact ih

end Graph

/-! ### Runs -/

namespace Operation

open LinkedDocs.Graph

/-- The requests for fresh ids that an operation makes. -/
def requests (g : Graph) : Operation → List IdRequest
  | .add _ => []
  | .freshId stem => [⟨g, stem⟩]
  | .remove _ => []
  | .relocate config => Relocation.requests config g
  | .transform _ config => Relocation.requests config g

/-- The graph after a run of operations. -/
def runAll (g : Graph) : List Operation → Graph
  | [] => g
  | op :: ops => runAll (op.run g) ops

/-- The requests of a run of operations, in order. -/
def allRequests (g : Graph) : List Operation → List IdRequest
  | [] => []
  | op :: ops => op.requests g ++ allRequests (op.run g) ops

lemma edits_run (g : Graph) (op : Operation) : Edits g (op.requests g) (op.run g) := by
  cases op with
  | add e => exact Edits.refl.add e
  | freshId stem => exact Edits.refl.freshId stem
  | remove id => exact edits_remove g id
  | relocate config => exact Relocation.edits_relocate config g
  | transform worker config =>
    unfold Operation.run
    dsimp only
    split
    case h_1 hrun => exact Transform.edits_runWith hrun
    case h_2 => exact Relocation.edits_relocate config g

lemma edits_runAll (g : Graph) (ops : List Operation) :
    Edits g (allRequests g ops) (runAll g ops) := by
  induction ops generalizing g with
  | nil => exact .refl
  | cons op ops ih => exact (edits_run g op).trans (ih (op.run g))

/-- In a run of operations from any graph, every search for a fresh id ends, after at most one
number more than the graph has entities, and the id is not in the graph as it is then. All ids that
are made up in the run are different. The requests are those of the edits that the run consists of,
so none is left out. -/
theorem fresh_ids_differ (g : Graph) (ops : List Operation) :
    Edits g (allRequests g ops) (runAll g ops) ∧
      (∀ r ∈ allRequests g ops, ∃ n,
        r.graph.freshId r.stem = (numberedId r.stem n, { r.graph with issued := n }) ∧
        Search r.graph r.stem (r.graph.issued + 1) n ∧ n ≤ r.graph.issued + 1 + r.graph.size ∧
        r.graph.contains r.id = false) ∧
      ((allRequests g ops).map IdRequest.id).Nodup := by
  have hedits := edits_runAll g ops
  refine ⟨hedits, ?_, hedits.counted.nodup⟩
  intro r _
  exact ⟨r.number, rfl, r.search, r.number_le, freshId_free r.graph r.stem⟩

/-- A relocation makes up an id between two others, and a stem can look like an earlier id. -/
example :
    (allRequests Graph.empty [
      .freshId "a".toList,
      .add { id := .text "external:N:".toList, name := .text ['A'], detail := .assembly },
      .add {
        id := .text ['M'], name := .text ['M']
        detail := .member (.proper .method) .null (.bool true) (.text ['X']) },
      .relocate {},
      .freshId "a#1".toList]).map IdRequest.id =
    [.text "a#1".toList, .text "external:N:#2".toList, .text "a#1#3".toList] := by
  decide +kernel

end Operation

end LinkedDocs
