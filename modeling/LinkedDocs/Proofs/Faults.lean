import LinkedDocs.Proofs.Results

/-!
# Faults that come from content

Reading a value of any shape fails, if it fails, with a fault about its content: a computation of
which every step fails only in such a way fails only in such a way as a whole.
-/

namespace LinkedDocs

variable {α β ε : Type}

lemma bind_eq_error {x : Except ε α} {f : α → Except ε β} {fault : ε} :
    (x >>= f) = .error fault ↔ x = .error fault ∨ ∃ a, x = .ok a ∧ f a = .error fault := by
  cases x <;> simp [bind, Except.bind]

lemma map_eq_error {x : Except ε α} {f : α → β} {fault : ε} :
    x.map f = .error fault ↔ x = .error fault := by
  cases x <;> simp [Except.map]

/-- Whatever fault the computation has comes from the content of a value. -/
def FaultsFromContent (x : Except Fault α) : Prop :=
  ∀ fault, x = .error fault → fault.isFromContent = true

namespace FaultsFromContent

lemma ok (a : α) : FaultsFromContent (.ok a) := by
  intro fault h
  cases h

lemma error {fault : Fault} (h : fault.isFromContent = true) :
    FaultsFromContent (.error fault : Except Fault α) := by
  rintro _ ⟨⟩
  exact h

lemma bind {x : Except Fault α} {f : α → Except Fault β} (hx : FaultsFromContent x)
    (hf : ∀ a, FaultsFromContent (f a)) : FaultsFromContent (x >>= f) := by
  intro fault h
  rcases bind_eq_error.1 h with h | ⟨a, -, h⟩
  · exact hx fault h
  · exact hf a fault h

lemma map {x : Except Fault α} {f : α → β} (hx : FaultsFromContent x) :
    FaultsFromContent (x.map f) :=
  fun fault h => hx fault (map_eq_error.1 h)

lemma mapM {f : α → Except Fault β} (hf : ∀ a, FaultsFromContent (f a)) (l : List α) :
    FaultsFromContent (l.mapM f) := by
  induction l with
  | nil => exact ok []
  | cons a l ih =>
    rw [List.mapM_cons]
    exact (hf a).bind fun b => ih.bind fun bs => ok (b :: bs)

lemma foldlM {f : β → α → Except Fault β} (hf : ∀ b a, FaultsFromContent (f b a)) (l : List α)
    (b : β) : FaultsFromContent (l.foldlM f b) := by
  induction l generalizing b with
  | nil => exact ok b
  | cons a l ih =>
    rw [List.foldlM_cons]
    exact (hf b a).bind ih

end FaultsFromContent

namespace Value

open FaultsFromContent

lemma faults_entries (v : Value) : FaultsFromContent v.entries := by
  unfold entries
  split
  · exact ok _
  · exact error rfl

lemma faults_items (v : Value) : FaultsFromContent v.items := by
  unfold items
  split
  case h_7 => exact error rfl
  all_goals exact ok _

lemma faults_itemsUnder (record : List (Scalar × Value)) (key : Text) :
    FaultsFromContent (itemsUnder record key) := by
  unfold itemsUnder
  dsimp only
  split
  · exact faults_items _
  · exact ok _

lemma faults_identifier (v : Value) : FaultsFromContent v.identifier := by
  unfold identifier
  split
  · exact ok _
  · exact error rfl

lemma faults_shown (v : Value) : FaultsFromContent v.shown := by
  unfold shown
  split
  · exact ok _
  · exact error rfl

lemma faults_word {α : Type} (title : Text) (all : List α) (text : α → Text) (value : Value) :
    FaultsFromContent (word title all text value) := by
  unfold word
  split
  · exact ok _
  · refine (faults_shown value).bind fun spelled => ?_
    split
    · exact ok _
    · exact error rfl

lemma faults_has (container item : Value) : FaultsFromContent (container.has item) := by
  unfold has
  split
  · exact ok _
  · exact ok _
  · exact (faults_identifier item).map
  · exact (faults_identifier item).map
  · split
    · exact ok _
    · exact error rfl
  · exact error rfl

end Value

end LinkedDocs
