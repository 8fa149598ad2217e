import LinkedDocs.Markup.Tag
import LinkedDocs.Proofs.Restoring
import LinkedDocs.Text.Case

/-!
# Texts with whole tokens

A text is whole if the characters that tokens start and end with stand in tokens only, and the
numbers of its tokens lie below a bound. A whole text may be cut next to every character that no
token holds, and then both parts are whole. Taking, trimming, joining and changing case keep texts
whole.
-/

namespace LinkedDocs.Markup

open Text

variable {n k : Nat} {c : Char} {t u v w : Text} {p : Char → Bool}

/-! ### Characters -/

/-- Whether tokens start or end with the character. -/
def isMark (c : Char) : Bool :=
  c == tokenOpen || c == tokenClose

/-- Whether a text may be cut next to the character, which no token holds. -/
def isSeam (c : Char) : Bool :=
  !isMark c && !Text.isDigit c

lemma isMark_of_isSeam (h : isSeam c = true) : isMark c = false := by
  simp only [isSeam, Bool.and_eq_true, Bool.not_eq_true'] at h
  exact h.1

lemma isSeam_of_mem_token (h : c ∈ token k) : isSeam c = false := by
  rcases List.mem_append.1 h with h | h
  · rcases List.mem_cons.1 h with rfl | h
    · decide
    · simp [isSeam, isDigit_of_mem_ofNat h]
  · obtain rfl := List.mem_singleton.1 h
    decide

lemma isMark_of_toNat (h : 4 ≤ c.toNat) : isMark c = false := by
  simp only [isMark, Bool.or_eq_false_iff, beq_eq_false_iff_ne]
  constructor
  · rintro rfl
    exact absurd h (by decide)
  · rintro rfl
    exact absurd h (by decide)

lemma exists_zero_of_isDigit (h : Text.isDigit c = true) :
    ∃ z ∈ '0'.toNat :: digitZeros, z ≤ c.toNat ∧ c.toNat ≤ z + 9 := by
  unfold Text.isDigit digitValue? at h
  split at h
  · split at h
    case isTrue hdigit =>
      simp only [Char.isDigit, Bool.and_eq_true, decide_eq_true_eq] at hdigit
      exact ⟨_, List.mem_cons_self, hdigit.1, hdigit.2⟩
    · cases h
  · rw [Option.isSome_map, List.find?_isSome] at h
    obtain ⟨z, hz, hc⟩ := h
    simp only [Bool.and_eq_true, decide_eq_true_eq] at hc
    exact ⟨z, List.mem_cons_of_mem _ hz, hc⟩

lemma isMark_of_isDigit (h : Text.isDigit c = true) : isMark c = false := by
  have hzeros : ∀ z ∈ '0'.toNat :: digitZeros, 4 ≤ z := by decide
  obtain ⟨z, hz, hle, -⟩ := exists_zero_of_isDigit h
  exact isMark_of_toNat (Nat.le_trans (hzeros z hz) hle)

lemma isSeam_of_isBlank (h : isBlank c = true) : isSeam c = true := by
  have hapart : ∀ r ∈ blankRanges, 4 ≤ r.1 ∧
      ∀ z ∈ '0'.toNat :: digitZeros, r.2 < z ∨ z + 9 < r.1 := by decide
  obtain ⟨r, hr, hc⟩ := List.any_eq_true.1 h
  simp only [Bool.and_eq_true, decide_eq_true_eq] at hc
  obtain ⟨hmark, hzeros⟩ := hapart r hr
  have hdigit : Text.isDigit c = false := by
    rw [← Bool.not_eq_true]
    intro hdigit
    obtain ⟨z, hz, hle⟩ := exists_zero_of_isDigit hdigit
    have := hzeros z hz
    omega
  rw [isSeam, hdigit, isMark_of_toNat (Nat.le_trans hmark hc.1)]
  rfl

lemma isMark_toLower (c : Char) : isMark c.toLower = isMark c := by
  unfold Char.toLower
  split
  case isTrue hc =>
    have hlow : 65 ≤ c.val.toNat := UInt32.le_iff_toNat_le.1 hc.1
    have hhigh : c.val.toNat ≤ 90 := UInt32.le_iff_toNat_le.1 hc.2
    have hsum : (c.val + 32).toNat = c.val.toNat + 32 := by
      rw [UInt32.toNat_add]
      exact Nat.mod_eq_of_lt (by change c.val.toNat + 32 < _; omega)
    rw [isMark_of_toNat (c := c) (Nat.le_trans (by decide) hlow)]
    refine isMark_of_toNat (show 4 ≤ (c.val + 32).toNat from ?_)
    omega
  · rfl

lemma isMark_letter (c : Char) : isMark (letter c) = isMark c := by
  unfold letter
  split
  · exact isMark_toLower c
  · have hc : isMark c = false := isMark_of_toNat (by omega)
    rw [hc]
    split_ifs
    · decide
    · decide
    · decide
    · exact hc

/-! ### Texts without marks -/

/-- The text has no character that tokens start or end with. -/
def Unmarked (t : Text) : Prop :=
  ∀ c ∈ t, isMark c = false

instance : DecidablePred Unmarked := fun t => List.decidableBAll (fun c => isMark c = false) t

lemma unmarked_iff : Unmarked t ↔ tokenOpen ∉ t ∧ tokenClose ∉ t := by
  constructor
  · intro h
    exact ⟨fun hmem => absurd (h _ hmem) (by decide), fun hmem => absurd (h _ hmem) (by decide)⟩
  · rintro ⟨hopen, hclose⟩ c hc
    simp only [isMark, Bool.or_eq_false_iff, beq_eq_false_iff_ne]
    exact ⟨fun h => hopen (h ▸ hc), fun h => hclose (h ▸ hc)⟩

lemma Unmarked.append (ht : Unmarked t) (hu : Unmarked u) : Unmarked (t ++ u) :=
  List.forall_mem_append.2 ⟨ht, hu⟩

lemma Unmarked.of_subset (h : Unmarked t) (hu : u ⊆ t) : Unmarked u :=
  fun c hc => h c (hu hc)

lemma unmarked_ofNat (n : Nat) : Unmarked (Text.ofNat n) :=
  fun _ hc => isMark_of_isDigit (isDigit_of_mem_ofNat hc)

/-! ### Whole texts -/

/-- Marks stand in tokens only, and the numbers of the tokens lie below `n`. -/
inductive Whole (n : Nat) : Text → Prop where
  | nil : Whole n []
  | char {c : Char} {t : Text} (hc : isMark c = false) (ht : Whole n t) : Whole n (c :: t)
  | numbered {k : Nat} {t : Text} (hk : k < n) (ht : Whole n t) : Whole n (token k ++ t)

lemma Whole.append (ht : Whole n t) (hu : Whole n u) : Whole n (t ++ u) := by
  induction ht with
  | nil => exact hu
  | char hc _ ih => exact .char hc ih
  | numbered hk _ ih =>
    rw [List.append_assoc]
    exact .numbered hk ih

lemma Whole.mono {m : Nat} (h : Whole n t) (hm : n ≤ m) : Whole m t := by
  induction h with
  | nil => exact .nil
  | char hc _ ih => exact .char hc ih
  | numbered hk _ ih => exact .numbered (Nat.lt_of_lt_of_le hk hm) ih

lemma Unmarked.whole (h : Unmarked t) : Whole n t := by
  induction t with
  | nil => exact .nil
  | cons c t ih => exact .char (h c List.mem_cons_self) (ih fun d hd => h d (.tail _ hd))

lemma whole_token (h : k < n) : Whole n (token k) := by
  simpa using Whole.numbered h .nil

lemma Whole.unmarked (h : Whole 0 t) : Unmarked t := by
  induction h with
  | nil => exact List.forall_mem_nil _
  | char hc _ ih => exact List.forall_mem_cons.2 ⟨hc, ih⟩
  | numbered hk => exact absurd hk (Nat.not_lt_zero _)

lemma Whole.tail (h : Whole n (c :: t)) (hc : isMark c = false) : Whole n t := by
  generalize hu : c :: t = u at h
  cases h with
  | nil => cases hu
  | char _ ht =>
    obtain ⟨-, rfl⟩ := List.cons.inj hu
    exact ht
  | numbered =>
    obtain ⟨rfl, -⟩ := List.cons.inj hu
    cases hc

/-! ### Cutting -/

/-- A text may be cut between two parts: one of them is empty there or has a seam. -/
def Seamed (u v : Text) : Prop :=
  (∀ c ∈ u.getLast?, isSeam c = true) ∨ ∀ c ∈ v.head?, isSeam c = true

lemma Seamed.of_append (h : Seamed (w ++ u) v) : Seamed u v := by
  refine h.imp_left fun hlast c hc => hlast c ?_
  rw [List.getLast?_append, Option.mem_def.1 hc]
  rfl

/-- A token is not cut at a seam, since it holds none. -/
theorem Whole.cut (h : Whole n (u ++ v)) (hseam : Seamed u v) : Whole n u ∧ Whole n v := by
  generalize ht : u ++ v = t at h
  induction h generalizing u with
  | nil =>
    obtain ⟨rfl, rfl⟩ := List.append_eq_nil_iff.1 ht
    exact ⟨.nil, .nil⟩
  | @char c t hc htail ih =>
    cases u with
    | nil =>
      rw [List.nil_append] at ht
      exact ⟨.nil, ht ▸ .char hc htail⟩
    | cons d u =>
      obtain ⟨rfl, htl⟩ := List.cons.inj ht
      obtain ⟨hu, hv⟩ := ih (Seamed.of_append (w := [d]) hseam) htl
      exact ⟨.char hc hu, hv⟩
  | @numbered k t hk htail ih =>
    rcases List.append_eq_append_iff.1 ht with ⟨w, hw, hv⟩ | ⟨w, rfl, hw⟩
    · -- The cut would lie within the token, unless one side of it is empty.
      rcases List.eq_nil_or_concat u with rfl | ⟨u', c, rfl⟩
      · rw [List.nil_append] at hw
        exact ⟨.nil, by rw [hv, ← hw]; exact .numbered hk htail⟩
      · cases w with
        | nil =>
          rw [List.append_nil] at hw
          exact ⟨hw ▸ whole_token hk, by rwa [hv, List.nil_append]⟩
        | cons d w =>
          exfalso
          rcases hseam with hseam | hseam
          · have hc := hseam c (by simp)
            rw [isSeam_of_mem_token (k := k) (by rw [hw]; simp)] at hc
            cases hc
          · have hd := hseam d (by rw [hv]; rfl)
            rw [isSeam_of_mem_token (k := k) (by rw [hw]; simp)] at hd
            cases hd
    · obtain ⟨hu, hv⟩ := ih (Seamed.of_append hseam) hw.symm
      exact ⟨.numbered hk hu, hv⟩

/-- The part up to the first character without a property, if that character is a seam. -/
lemma Whole.takeWhile (h : Whole n t) (hp : ∀ c, p c = false → isSeam c = true) :
    Whole n (t.takeWhile p) ∧ Whole n (t.dropWhile p) := by
  rw [← List.takeWhile_append_dropWhile (p := p) (l := t)] at h
  refine h.cut (.inr fun c hc => hp c ?_)
  have hnot := List.head?_dropWhile_not p t
  rw [Option.mem_def.1 hc] at hnot
  exact hnot

/-- What is left without the leading characters that have a property. -/
lemma Whole.dropWhile (h : Whole n t) (hp : ∀ c, p c = true → isMark c = false) :
    Whole n (t.dropWhile p) := by
  induction t with
  | nil => exact h
  | cons c t ih =>
    rw [List.dropWhile_cons]
    split
    case isTrue hc => exact ih (h.tail (hp c hc))
    · exact h

/-- What is left without the last characters that have a property. -/
lemma Whole.dropWhile_reverse (h : Whole n t) (hp : ∀ c, p c = true → isSeam c = true) :
    Whole n (t.reverse.dropWhile p).reverse := by
  have happend : (t.reverse.dropWhile p).reverse ++ (t.reverse.takeWhile p).reverse = t := by
    rw [← List.reverse_append, List.takeWhile_append_dropWhile, List.reverse_reverse]
  rw [← happend] at h
  refine (h.cut (.inr fun c hc => hp c ?_)).1
  exact List.mem_takeWhile_imp (List.mem_reverse.1 (List.mem_of_mem_head? hc))

/-- The part after the last character without a property, if that character is a seam. -/
lemma Whole.takeWhile_reverse (h : Whole n t) (hp : ∀ c, p c = false → isSeam c = true) :
    Whole n (t.reverse.takeWhile p).reverse := by
  have happend : (t.reverse.dropWhile p).reverse ++ (t.reverse.takeWhile p).reverse = t := by
    rw [← List.reverse_append, List.takeWhile_append_dropWhile, List.reverse_reverse]
  rw [← happend] at h
  refine (h.cut (.inl fun c hc => hp c ?_)).2
  have hnot := List.head?_dropWhile_not p t.reverse
  rw [List.getLast?_reverse, Option.mem_def] at hc
  rw [hc] at hnot
  exact hnot

lemma Whole.stripLeft (h : Whole n t) : Whole n (stripLeft t) :=
  h.dropWhile fun _ hc => isMark_of_isSeam (isSeam_of_isBlank hc)

lemma Whole.strip (h : Whole n t) : Whole n (strip t) :=
  h.stripLeft.dropWhile_reverse fun _ => isSeam_of_isBlank

/-! ### Putting together -/

lemma Whole.flatMap {f : Char → Text} (h : Whole n t)
    (hf : ∀ c, isMark c = false → Whole n (f c)) (hself : ∀ c, isSeam c = false → f c = [c]) :
    Whole n (t.flatMap f) := by
  induction h with
  | nil => exact .nil
  | @char c t hc _ ih => exact (hf c hc).append ih
  | @numbered k t hk _ ih =>
    have htoken : (token k).flatMap f = token k := by
      rw [List.flatMap_congr fun c hc => hself c (isSeam_of_mem_token hc)]
      exact List.flatMap_singleton' _
    rw [List.flatMap_append, htoken]
    exact .numbered hk ih

lemma Whole.replaceChar {image : Text} (h : Whole n t) (hc : isSeam c = true)
    (himage : Whole n image) : Whole n (replaceChar c image t) := by
  refine h.flatMap (fun d hd => ?_) fun d hd => ?_
  · split
    · exact himage
    · exact .char hd .nil
  · rw [if_neg]
    rintro rfl
    rw [hc] at hd
    cases hd

lemma whole_join {separator : Text} {parts : List Text} (hseparator : Whole n separator)
    (h : ∀ part ∈ parts, Whole n part) : Whole n (join separator parts) := by
  fun_induction join separator parts with
  | case1 => exact .nil
  | case2 part => exact h part List.mem_cons_self
  | case3 part parts hne ih =>
    have hrest := ih fun q hq => h q (.tail _ hq)
    exact ((h part List.mem_cons_self).append hseparator).append hrest

/-! ### Case -/

lemma isMark_ofNat {m : Nat} (h : 4 ≤ m) : isMark (Char.ofNat m) = false := by
  by_cases hm : m.isValidChar
  · refine isMark_of_toNat ?_
    rw [Char.ofNat, dif_pos hm]
    exact h
  · rw [Char.ofNat, dif_neg hm]
    decide

lemma le_shifted_lowerRuns {m : Nat} (h : 4 ≤ m) : 4 ≤ shifted lowerRuns m := by
  have hruns : ∀ r ∈ lowerRuns, 4 ≤ (r.1 : Int) + r.2.2.2 := by decide +kernel
  unfold shifted
  split
  case h_1 first last step offset hfind =>
    have hrun := hruns _ (List.mem_of_find?_eq_some hfind)
    have hholds := List.find?_some hfind
    simp only [Bool.and_eq_true, decide_eq_true_eq] at hholds hrun
    omega
  · exact h

lemma unmarked_lowerChar (hc : isMark c = false) : Unmarked (lowerChar c) := by
  unfold lowerChar
  split
  · intro d hd
    rw [List.mem_singleton.1 hd, isMark_toLower, hc]
  · split
    · decide
    · intro d hd
      rw [List.mem_singleton.1 hd]
      exact isMark_ofNat (le_shifted_lowerRuns (by omega))

lemma lowerAfter_append {before : Text} (hu : ∀ c ∈ u, c.toNat < 128 ∧ c.toLower = c) :
    lowerAfter before (u ++ t) = u ++ lowerAfter (u.reverse ++ before) t := by
  induction u generalizing before with
  | nil => rfl
  | cons c u ih =>
    obtain ⟨hascii, hlower⟩ := hu c List.mem_cons_self
    rw [List.cons_append, lowerAfter, if_neg (by omega), lowerChar, if_pos hascii, hlower,
      ih fun d hd => hu d (.tail _ hd)]
    simp

lemma toLower_of_mem_token (h : c ∈ token k) : c.toNat < 128 ∧ c.toLower = c := by
  rcases List.mem_append.1 h with h | h
  · rcases List.mem_cons.1 h with rfl | h
    · decide
    · have hdigit : c.isDigit = true := Nat.isDigit_of_mem_toDigits (by decide) (by decide) h
      simp only [Char.isDigit, Bool.and_eq_true, decide_eq_true_eq] at hdigit
      have hle : c.val.toNat ≤ 57 := UInt32.le_iff_toNat_le.1 hdigit.2
      refine ⟨show c.val.toNat < 128 by omega, dif_neg fun hupper => ?_⟩
      have hlow : 65 ≤ c.val.toNat := UInt32.le_iff_toNat_le.1 hupper.1
      omega
  · obtain rfl := List.mem_singleton.1 h
    decide

lemma Whole.lower (h : Whole n t) : Whole n (lower t) := by
  -- What stands before decides on the form of sigma only.
  have hafter (before : Text) : Whole n (lowerAfter before t) := by
    induction h generalizing before with
    | nil => exact .nil
    | @char c t hc _ ih =>
      rw [lowerAfter]
      refine Whole.append ?_ (ih _)
      split
      · split
        · exact .char (by decide) .nil
        · exact .char (by decide) .nil
      · exact (unmarked_lowerChar hc).whole
    | numbered hk _ ih =>
      rw [lowerAfter_append fun c hc => toLower_of_mem_token hc]
      exact .numbered hk (ih _)
  exact hafter []

end LinkedDocs.Markup
