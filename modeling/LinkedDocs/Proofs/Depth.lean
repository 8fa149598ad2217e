import LinkedDocs.Proofs.TypeSpellings

/-!
# Text outside all brackets

Lists of arguments are dropped from a name until there are none, each pass taking those that have no
list in them. Main statement: if the brackets of a text come in pairs, whatever their styles, then
exactly the characters outside all pairs are left.
-/

namespace LinkedDocs.Symbol

open Text

variable {t u rest : Text} {c : Char} {before : Option Char} {depth : Nat}

/-- The characters outside all brackets, where so many are open before the text. -/
def outermost : (depth : Nat) → Text → Text
  | _, [] => []
  | depth, c :: t =>
    if isOpenBracket c then outermost (depth + 1) t
    else if isCloseBracket c then outermost (depth - 1) t
    else if depth = 0 then c :: outermost depth t
    else outermost depth t

/-- Whether the text closes the brackets that are open before it and those that it opens, and no
others. -/
def closes : (depth : Nat) → Text → Bool
  | depth, [] => depth == 0
  | depth, c :: t =>
    if isOpenBracket c then closes (depth + 1) t
    else if isCloseBracket c then decide (0 < depth) && closes (depth - 1) t
    else closes depth t

/-- The brackets of the text come in pairs. -/
def Balanced (t : Text) : Prop :=
  closes 0 t = true

instance : DecidablePred Balanced := fun _ => inferInstanceAs (Decidable (_ = true))

lemma isCloseBracket_of_isOpenBracket (h : isOpenBracket c = true) : isCloseBracket c = false := by
  have hc : c = '<' ∨ c = '{' := by simpa [isOpenBracket] using h
  rcases hc with rfl | rfl <;> decide

/-! ### Reading a text bracket by bracket -/

lemma outermost_cons_open (h : isOpenBracket c = true) :
    outermost depth (c :: t) = outermost (depth + 1) t := by
  rw [outermost, if_pos h]

lemma closes_cons_open (h : isOpenBracket c = true) :
    closes depth (c :: t) = closes (depth + 1) t := by
  rw [closes, if_pos h]

lemma isOpenBracket_of_isCloseBracket (h : isCloseBracket c = true) : isOpenBracket c = false :=
  Bool.eq_false_iff.2 fun hopen => by simp [isCloseBracket_of_isOpenBracket hopen] at h

lemma outermost_cons_close (h : isCloseBracket c = true) :
    outermost (depth + 1) (c :: t) = outermost depth t := by
  rw [outermost, if_neg (by simp [isOpenBracket_of_isCloseBracket h]), if_pos h,
    Nat.add_sub_cancel]

lemma closes_cons_close (h : isCloseBracket c = true) :
    closes (depth + 1) (c :: t) = closes depth t := by
  rw [closes, if_neg (by simp [isOpenBracket_of_isCloseBracket h]), if_pos h,
    Nat.add_sub_cancel]
  simp

lemma outermost_of_not_bracket (h : ∀ c ∈ t, isBracket c = false) : outermost 0 t = t := by
  induction t with
  | nil => rfl
  | cons c t ih =>
    obtain ⟨hopen, hclose⟩ := Bool.or_eq_false_iff.1 (h c List.mem_cons_self)
    rw [outermost, if_neg (by simp [hopen]), if_neg (by simp [hclose]), if_pos rfl,
      ih fun d hd => h d (List.mem_cons_of_mem _ hd)]

lemma balanced_of_not_bracket (h : ∀ c ∈ t, isBracket c = false) : Balanced t := by
  rw [Balanced]
  induction t with
  | nil => rfl
  | cons c t ih =>
    obtain ⟨hopen, hclose⟩ := Bool.or_eq_false_iff.1 (h c List.mem_cons_self)
    rw [closes, if_neg (by simp [hopen]), if_neg (by simp [hclose])]
    exact ih fun d hd => h d (List.mem_cons_of_mem _ hd)

/-- Text that closes so many brackets leaves the others open. -/
lemma closes_append_of_closes (h : closes depth u = true) (k : Nat) :
    closes (depth + k) (u ++ t) = closes k t := by
  induction u generalizing depth with
  | nil =>
    obtain rfl : depth = 0 := by simpa [closes] using h
    rw [Nat.zero_add, List.nil_append]
  | cons c u ih =>
    rw [closes] at h
    rw [List.cons_append, closes]
    split_ifs at h ⊢ with hopen hclose
    · rw [Nat.add_right_comm]
      exact ih h
    · obtain ⟨hdepth, hu⟩ := Bool.and_eq_true_iff.1 h
      have hpos : 0 < depth := of_decide_eq_true hdepth
      rw [decide_eq_true (show 0 < depth + k by omega), Bool.true_and,
        show depth + k - 1 = depth - 1 + k by omega]
      exact ih hu
    · exact ih h

lemma outermost_append_of_closes (h : closes depth u = true) :
    outermost depth (u ++ t) = outermost depth u ++ outermost 0 t := by
  induction u generalizing depth with
  | nil =>
    obtain rfl : depth = 0 := by simpa [closes] using h
    rfl
  | cons c u ih =>
    rw [closes] at h
    rw [List.cons_append, outermost, outermost]
    split_ifs at h ⊢ with hopen hclose hdepth
    · exact ih h
    · exact ih (Bool.and_eq_true_iff.1 h).2
    · rw [ih h, List.cons_append]
    · exact ih h

/-- Text behind which a bracket is still open has nothing outside all brackets. -/
lemma outermost_append_of_closes_succ (h : closes depth u = true) (k : Nat) :
    outermost (depth + (k + 1)) (u ++ t) = outermost (k + 1) t := by
  induction u generalizing depth with
  | nil =>
    obtain rfl : depth = 0 := by simpa [closes] using h
    rw [Nat.zero_add, List.nil_append]
  | cons c u ih =>
    rw [closes] at h
    rw [List.cons_append, outermost, if_neg (show ¬depth + (k + 1) = 0 by omega)]
    split_ifs at h ⊢ with hopen hclose
    · rw [Nat.add_right_comm]
      exact ih h
    · obtain ⟨hdepth, hu⟩ := Bool.and_eq_true_iff.1 h
      have hpos : 0 < depth := of_decide_eq_true hdepth
      rw [show depth + (k + 1) - 1 = depth - 1 + (k + 1) by omega]
      exact ih hu
    · exact ih h

namespace Balanced

lemma closes_append (hu : Balanced u) (depth : Nat) : closes depth (u ++ t) = closes depth t := by
  have happend := closes_append_of_closes (t := t) hu depth
  rwa [Nat.zero_add] at happend

lemma outermost_append_succ (hu : Balanced u) (depth : Nat) :
    outermost (depth + 1) (u ++ t) = outermost (depth + 1) t := by
  have happend := outermost_append_of_closes_succ (t := t) hu depth
  rwa [Nat.zero_add] at happend

lemma append (hu : Balanced u) (ht : Balanced t) : Balanced (u ++ t) :=
  (hu.closes_append 0).trans ht

lemma outermost_append (hu : Balanced u) : outermost 0 (u ++ t) = outermost 0 u ++ outermost 0 t :=
  outermost_append_of_closes hu

lemma enclose (hu : Balanced u) (style : Brackets) :
    Balanced (style.enclose u) ∧ outermost 0 (style.enclose u) = [] := by
  have hopen := isOpenBracket_opening style
  have hclose := isCloseBracket_closing style
  rw [Balanced, Brackets.enclose, List.cons_append, closes_cons_open hopen,
    outermost_cons_open hopen, hu.closes_append, hu.outermost_append_succ,
    closes_cons_close hclose, outermost_cons_close hclose]
  exact ⟨rfl, rfl⟩

end Balanced

/-! ### One pass -/

/-- The text without the lists that are found in one pass. -/
def dropLists (t : Text) : Text :=
  replace genericArguments (fun _ => []) t

lemma pieces_genericArguments (before : Option Char) (t : Text) :
    pieces genericArguments before t = pieces genericArguments none t := by
  cases t with
  | nil => rw [pieces, pieces]
  | cons c t =>
    rw [pieces, pieces]
    rfl

/-- A list that is found has brackets around it and none in it. -/
lemma genericArguments_eq_some (h : genericArguments before t = some (u, rest)) :
    ∃ c d, t = c :: (u ++ d :: rest) ∧ isOpenBracket c = true ∧ isCloseBracket d = true ∧
      ∀ e ∈ u, isBracket e = false := by
  unfold genericArguments at h
  split at h
  case h_1 c cs =>
    split at h
    case isTrue hopen =>
      split at h
      case h_1 d after hdrop =>
        split at h
        case isTrue hclose =>
          obtain ⟨rfl, rfl⟩ := Prod.mk.inj (Option.some.inj h)
          refine ⟨c, d, ?_, hopen, hclose, fun e he => ?_⟩
          · rw [← hdrop, List.takeWhile_append_dropWhile]
          · simpa using List.mem_takeWhile_imp he
        · cases h
      · cases h
    · cases h
  · cases h

lemma dropLists_nil : dropLists [] = [] := by
  rw [dropLists, replace_eq_flatMap, pieces]
  rfl

lemma dropLists_cons (h : genericArguments none (c :: t) = none) :
    dropLists (c :: t) = c :: dropLists t := by
  rw [dropLists, replace_eq_flatMap, pieces_cons_of_none h, pieces_genericArguments]
  rfl

lemma dropLists_of_found (h : genericArguments none t = some (u, rest)) :
    dropLists t = dropLists rest := by
  obtain ⟨c, d, rfl, -⟩ := genericArguments_eq_some h
  have happend : c :: (u ++ d :: rest) = c :: (u ++ [d]) ++ rest := by simp
  rw [happend] at h ⊢
  rw [dropLists, replace_eq_flatMap, pieces_append_of_found h (by simp), pieces_genericArguments]
  rfl

/-- A pass changes neither what stands outside all brackets nor which brackets are closed. -/
lemma outermost_dropLists (depth : Nat) (t : Text) :
    outermost depth (dropLists t) = outermost depth t ∧
      closes depth (dropLists t) = closes depth t := by
  induction hn : t.length using Nat.strong_induction_on generalizing t depth with
  | _ n ih =>
    cases t with
    | nil => rw [dropLists_nil]; exact ⟨rfl, rfl⟩
    | cons c t =>
      cases hfound : genericArguments none (c :: t) with
      | none =>
        have htail (k : Nat) := ih t.length (hn ▸ Nat.lt_succ_self _) k t rfl
        rw [dropLists_cons hfound]
        simp only [outermost, closes, htail, and_self]
      | some y =>
        obtain ⟨u, rest⟩ := y
        obtain ⟨d, e, heq, hopen, hclose, hu⟩ := genericArguments_eq_some hfound
        have hshorter : rest.length < n := by
          rw [← hn, heq]
          simp only [List.length_cons, List.length_append]
          omega
        obtain ⟨houter, hcloses⟩ := ih rest.length hshorter depth rest rfl
        have hinner := balanced_of_not_bracket hu
        rw [dropLists_of_found hfound, houter, hcloses, heq, outermost_cons_open hopen,
          hinner.outermost_append_succ, outermost_cons_close hclose, closes_cons_open hopen,
          hinner.closes_append, closes_cons_close hclose]
        exact ⟨rfl, rfl⟩

/-- There is no list: no bracket is opened before one is closed. -/
def Unlisted (t : Text) : Prop :=
  t.Pairwise fun c d => isOpenBracket c = true → isCloseBracket d = false

/-- In a text without lists no list is found. -/
lemma Unlisted.dropLists (h : Unlisted t) : dropLists t = t := by
  refine replace_eq_self _ (pieces_eq_map_of_none fun a c v ht => ?_)
  rw [← Option.not_isSome_iff_eq_none, Option.isSome_iff_exists]
  rintro ⟨⟨u, rest⟩, hfound⟩
  obtain ⟨d, e, heq, hopen, hclose, -⟩ := genericArguments_eq_some hfound
  rw [ht, heq, Unlisted, List.pairwise_append] at h
  have hnot := (List.pairwise_cons.1 h.2.1).1 e (by simp) hopen
  rw [hclose] at hnot
  cases hnot

lemma dropLists_sublist (t : Text) : (dropLists t).Sublist t := by
  refine replace_nil_sublist (fun {_ _ u _} h => ?_) t
  obtain ⟨c, d, rfl, -⟩ := genericArguments_eq_some h
  exact ⟨c :: (u ++ [d]), by simp⟩

/-- Behind an opening bracket at which no list is found, no bracket is closed. -/
lemma Unlisted.cons_of_none (h : Unlisted t) (hnone : genericArguments before (c :: t) = none) :
    Unlisted (c :: t) := by
  refine List.pairwise_cons.2 ⟨fun d hd hopen => ?_, h⟩
  rw [genericArguments, if_pos hopen] at hnone
  rw [← List.takeWhile_append_dropWhile (p := (!isBracket ·)) (l := t)] at hd h
  have hlead : ∀ e ∈ t.takeWhile (!isBracket ·), isCloseBracket e = false := by
    intro e he
    have hbracket : isBracket e = false := by simpa using List.mem_takeWhile_imp he
    exact (Bool.or_eq_false_iff.1 hbracket).2
  cases hdrop : t.dropWhile (!isBracket ·) with
  | nil =>
    rw [hdrop, List.append_nil] at hd
    exact hlead d hd
  | cons e v =>
    rw [hdrop] at hnone hd h
    have hbracket : isBracket e = true := by
      have hhead := List.head?_dropWhile_not (!isBracket ·) t
      rw [hdrop] at hhead
      simpa using hhead
    have hclose : isCloseBracket e = false := by
      cases hclose : isCloseBracket e with
      | false => rfl
      | true => simp [hclose] at hnone
    have hopens : isOpenBracket e = true := by simpa [isBracket, hclose] using hbracket
    rcases List.mem_append.1 hd with hd | hd
    · exact hlead d hd
    · rcases List.mem_cons.1 hd with rfl | hd
      · exact hclose
      · exact (List.pairwise_cons.1 (List.pairwise_append.1 h).2.1).1 d hd hopens

/-- A pass that makes a text no shorter has found no list. -/
lemma unlisted_of_length_le (h : t.length ≤ (dropLists t).length) : Unlisted t := by
  induction t with
  | nil => exact .nil
  | cons c t ih =>
    cases hfound : genericArguments none (c :: t) with
    | none =>
      rw [dropLists_cons hfound, List.length_cons, List.length_cons] at h
      exact (ih (by omega)).cons_of_none hfound
    | some y =>
      obtain ⟨u, rest⟩ := y
      have hle := (dropLists_sublist rest).length_le
      rw [dropLists_of_found hfound] at h
      obtain ⟨d, e, heq, -⟩ := genericArguments_eq_some hfound
      rw [heq] at h
      simp only [List.length_cons, List.length_append] at h
      omega

/-! ### All passes -/

lemma dropGenerics_eq (t : Text) : dropGenerics t =
    if (dropLists t).length < t.length then dropGenerics (dropLists t) else t := by
  rw [dropGenerics]
  rfl

lemma Unlisted.dropGenerics (h : Unlisted t) : dropGenerics t = t := by
  rw [dropGenerics_eq, h.dropLists, if_neg (Nat.lt_irrefl _)]

/-- What every pass keeps is kept until there are no lists, if it is kept. -/
lemma dropGenerics_induct {P : Text → Prop} (hpass : ∀ u, P u → P (dropLists u)) (h : P t) :
    P (dropGenerics t) ∧ Unlisted (dropGenerics t) := by
  induction hn : t.length using Nat.strong_induction_on generalizing t with
  | _ n ih =>
    rw [dropGenerics_eq]
    split
    case isTrue hlt => exact ih _ (hn ▸ hlt) (hpass t h) rfl
    case isFalse hge => exact ⟨h, unlisted_of_length_le (Nat.not_lt.1 hge)⟩

lemma unlisted_dropGenerics (t : Text) : Unlisted (dropGenerics t) :=
  (dropGenerics_induct (P := fun _ => True) (fun _ _ => trivial) trivial).2

lemma dropGenerics_sublist (t : Text) : (dropGenerics t).Sublist t :=
  (dropGenerics_induct (P := (List.Sublist · t)) (fun u hu => (dropLists_sublist u).trans hu)
    (.refl t)).1

/-- Where no bracket is closed, none is opened either if all are closed in the end. -/
lemma not_bracket_of_closes (h : closes depth t = true)
    (hnot : ∀ c ∈ t, isCloseBracket c = false) :
    depth = 0 ∧ ∀ c ∈ t, isBracket c = false := by
  induction t generalizing depth with
  | nil => exact ⟨by simpa [closes] using h, by simp⟩
  | cons c t ih =>
    have hclose := hnot c List.mem_cons_self
    have htail : ∀ d ∈ t, isCloseBracket d = false := fun d hd => hnot d (List.mem_cons_of_mem _ hd)
    rw [closes] at h
    split at h
    · exact absurd (ih h htail).1 (Nat.succ_ne_zero _)
    case isFalse hopen =>
      rw [if_neg (by simp [hclose])] at h
      obtain ⟨hdepth, hbrackets⟩ := ih h htail
      refine ⟨hdepth, List.forall_mem_cons.2 ⟨?_, hbrackets⟩⟩
      rw [isBracket, hclose, Bool.or_false]
      simpa using hopen

/-- Without lists, brackets come in pairs only if there are none. -/
lemma Unlisted.not_bracket (h : Unlisted t) (hbalanced : Balanced t) :
    ∀ c ∈ t, isBracket c = false := by
  rw [Balanced] at hbalanced
  induction t with
  | nil => simp
  | cons c t ih =>
    obtain ⟨hfirst, htail⟩ := List.pairwise_cons.1 h
    rw [closes] at hbalanced
    split_ifs at hbalanced with hopen hclose
    · have hdepth := (not_bracket_of_closes hbalanced fun d hd => hfirst d hd hopen).1
      exact absurd hdepth (Nat.succ_ne_zero _)
    · cases hbalanced
    · refine List.forall_mem_cons.2 ⟨?_, ih htail hbalanced⟩
      rw [isBracket, Bool.or_eq_false_iff]
      exact ⟨by simpa using hopen, by simpa using hclose⟩

/-- If the brackets come in pairs, what is left in the end stands outside all of them. -/
theorem Balanced.dropGenerics (h : Balanced t) : dropGenerics t = outermost 0 t := by
  have hkept : Balanced (Symbol.dropGenerics t) ∧ outermost 0 (Symbol.dropGenerics t) =
      outermost 0 t := by
    refine (dropGenerics_induct (P := fun u => Balanced u ∧ outermost 0 u = outermost 0 t)
      (fun u hu => ?_) ⟨h, rfl⟩).1
    obtain ⟨houter, hcloses⟩ := outermost_dropLists 0 u
    exact ⟨hcloses.trans hu.1, houter.trans hu.2⟩
  rw [← hkept.2, outermost_of_not_bracket ((unlisted_dropGenerics t).not_bracket hkept.1)]

lemma dropGenerics_of_not_bracket (h : ∀ c ∈ t, isBracket c = false) : dropGenerics t = t :=
  (balanced_of_not_bracket h).dropGenerics.trans (outermost_of_not_bracket h)

end LinkedDocs.Symbol
