import LinkedDocs.Proofs.Tokens
import Mathlib.Algebra.GroupWithZero.Nat

/-!
# Sound stashes

A stash is sound if each of its texts holds tokens of earlier texts only. Main statement: putting
back the texts of a sound stash ends, and leaves no token and no mark, as long as the numbers of
its tokens are not too long to be read. Each round lowers the bound on the tokens that are left.
-/

namespace LinkedDocs.Markup

open Text

variable {n : Nat} {t : Text} {before : Option Char}

/-- The tokens that are found in a whole text lie below its bound. -/
lemma Whole.lt_of_mem_finds (h : Whole n t) {digits : Text} (hmem : digits ∈ finds tokenDigits t) :
    digitsValue digits < n := by
  have hpieces : ∀ before, .found digits ∈ pieces tokenDigits before t →
      digitsValue digits < n := by
    clear hmem
    induction h with
    | nil => simp [pieces]
    | @char c t hc _ ih =>
      intro before hfound
      have hopen : c ≠ tokenOpen := by
        rintro rfl
        cases hc
      rw [pieces_cons_of_none (tokenDigits_of_ne hopen)] at hfound
      exact ih _ (by simpa using hfound)
    | @numbered k t hk _ ih =>
      intro before hfound
      rw [pieces_append_of_found tokenDigits_token (by simp [token])] at hfound
      rcases List.mem_cons.1 hfound with heq | hfound
      · rw [Piece.found.inj heq, digitsValue_ofNat]
        exact hk
      · exact ih _ hfound
  obtain ⟨piece, hpiece, heq⟩ := List.mem_filterMap.1 hmem
  cases piece with
  | plain c => cases heq
  | found a =>
    obtain rfl := Option.some.inj heq
    exact hpieces none hpiece

namespace Stash

variable {s : Stash}

/-- Every text that was taken out holds tokens of earlier ones only. -/
def Sound (s : Stash) : Prop :=
  ∀ i t, s.items[i]? = some t → Whole i t

/-- A sound stash in which the numbers below `n` are taken. -/
structure Ready (s : Stash) (n : Nat) : Prop where
  sound : s.Sound
  le : n ≤ s.items.length

/-- There are more texts than numbers that can be read. -/
def Overfull (s : Stash) : Prop :=
  10 ^ Numeral.maxDigits < s.items.length

lemma ready_empty : Ready {} 0 :=
  ⟨fun i t h => by simp at h, Nat.le_refl 0⟩

lemma Ready.put (h : s.Ready n) (ht : Whole n t) :
    (s.put t).2.Ready (s.items.length + 1) ∧ Whole (s.items.length + 1) (s.put t).1 := by
  refine ⟨⟨?_, by simp [Stash.put]⟩, whole_token (Nat.lt_succ_self _)⟩
  intro i u hu
  change (s.items ++ [t])[i]? = some u at hu
  by_cases hi : i < s.items.length
  · rw [List.getElem?_append_left hi] at hu
    exact h.sound i u hu
  · have hlt := (List.getElem?_eq_some_iff.1 hu).1
    obtain rfl : i = s.items.length := by
      rw [List.length_append, List.length_singleton] at hlt
      omega
    rw [List.getElem?_concat_length] at hu
    obtain rfl := Option.some.inj hu
    exact ht.mono h.le

/-! ### Putting back -/

lemma get_ofNat_cases {k : Nat} (h : s.items[k]? = some t) :
    s.get (Text.ofNat k) = .ok t ∨
      s.Overfull ∧ ∃ l, s.get (Text.ofNat k) = .error (.longInteger l) := by
  unfold Stash.get
  split
  case isTrue hlong =>
    refine .inr ⟨?_, _, rfl⟩
    have hk := (List.getElem?_eq_some_iff.1 h).1
    have hpow : ¬ k < 10 ^ Numeral.maxDigits := by
      rw [← Nat.length_toDigits_le_iff (by decide) (by decide)]
      exact Nat.not_le_of_lt hlong
    exact Nat.lt_of_le_of_lt (Nat.le_of_not_lt hpow) hk
  · rw [digitsValue_ofNat, h]
    exact .inl rfl

/-- One round lowers the bound on the tokens by one. -/
lemma Sound.restoreOnce_cases (hs : s.Sound) (h : Whole n t) (hn : n ≤ s.items.length) :
    (∃ u, s.restoreOnce t = .ok u ∧ Whole (n - 1) u) ∨
      s.Overfull ∧ ∃ l, s.restoreOnce t = .error (.longInteger l) := by
  have hpieces : ∀ before,
      (∃ parts, (pieces tokenDigits before t).mapM s.piece = .ok parts ∧
        Whole (n - 1) parts.flatten) ∨
      s.Overfull ∧ ∃ l, (pieces tokenDigits before t).mapM s.piece = .error (.longInteger l) := by
    induction h with
    | nil =>
      intro before
      rw [pieces]
      exact .inl ⟨[], rfl, .nil⟩
    | @char c t hc _ ih =>
      intro before
      have hopen : c ≠ tokenOpen := by
        rintro rfl
        cases hc
      rw [pieces_cons_of_none (tokenDigits_of_ne hopen), List.mapM_cons]
      rcases ih (some c) with ⟨parts, hparts, hwhole⟩ | ⟨hfull, l, herror⟩
      · rw [hparts]
        exact .inl ⟨[c] :: parts, rfl, .char hc hwhole⟩
      · rw [herror]
        exact .inr ⟨hfull, l, rfl⟩
    | @numbered k t hk _ ih =>
      intro before
      rw [pieces_append_of_found tokenDigits_token (by simp [token]), List.mapM_cons, Stash.piece]
      have hget := List.getElem?_eq_getElem (l := s.items) (Nat.lt_of_lt_of_le hk hn)
      rcases get_ofNat_cases hget with hok | ⟨hfull, l, herror⟩
      · rw [hok]
        rcases ih (token k).getLast? with ⟨parts, hparts, hwhole⟩ | ⟨hfull, l, herror⟩
        · rw [hparts]
          exact .inl ⟨_ :: parts, rfl, ((hs k _ hget).mono (by omega)).append hwhole⟩
        · rw [herror]
          exact .inr ⟨hfull, l, rfl⟩
      · rw [herror]
        exact .inr ⟨hfull, l, rfl⟩
  rcases hpieces none with ⟨parts, hparts, hwhole⟩ | ⟨hfull, l, herror⟩
  · exact .inl ⟨_, by rw [restoreOnce, hparts]; rfl, hwhole⟩
  · exact .inr ⟨hfull, l, by rw [restoreOnce, herror]; rfl⟩

/-- Putting back ends and leaves no marks: the bound on the tokens also bounds the rounds. -/
lemma Sound.restore_cases (hs : s.Sound) (h : Whole n t) (hn : n ≤ s.items.length) :
    (∃ r, s.restore t = .ok r ∧ Unmarked r) ∨
      s.Overfull ∧ ∃ l, s.restore t = .error (.fault (.longInteger l)) := by
  induction n generalizing t with
  | zero =>
    have hsame := restoreOnce_eq_self s (unmarked_iff.1 h.unmarked).1
    exact .inl ⟨t, atRest_of_still hsame, h.unmarked⟩
  | succ n ih =>
    rcases hs.restoreOnce_cases h hn with ⟨u, hok, hwhole⟩ | ⟨hfull, l, herror⟩
    · have hfirst : s.restore t = s.restore u := atRest_of_step hok
      rw [hfirst]
      exact ih hwhole (by omega)
    · exact .inr ⟨hfull, l, restore_of_error herror⟩

theorem Ready.restore_cases (h : s.Ready n) (ht : Whole n t) :
    (∃ r, s.restore t = .ok r ∧ Unmarked r) ∨
      s.Overfull ∧ ∃ l, s.restore t = .error (.fault (.longInteger l)) :=
  h.sound.restore_cases ht h.le

end Stash

end LinkedDocs.Markup
