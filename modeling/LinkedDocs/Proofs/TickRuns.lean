import Mathlib.Data.List.Infix
import LinkedDocs.Markup.Code
import LinkedDocs.Proofs.CodeRegions

/-!
# Runs of backticks

A run of backticks is as long as it can be: no backtick stands before or behind it. Any other
character keeps the runs on its two sides apart. Main statements: escaped code has no run of exactly
three backticks, and code without such a run is left as it is.
-/

namespace LinkedDocs.Markup

open Text

variable {t u v : Text} {n k : Nat} {c : Char}

/-- Somewhere in the text there is a run of exactly `n` backticks. -/
def HasRun (n : Nat) (t : Text) : Prop :=
  ∃ a b : Text, t = a ++ List.replicate n '`' ++ b ∧ a.getLast? ≠ some '`' ∧ b.head? ≠ some '`'

instance : Decidable (HasRun n t) :=
  decidable_of_iff (∃ a ∈ t.inits, ∃ b ∈ t.tails, t = a ++ List.replicate n '`' ++ b ∧
      a.getLast? ≠ some '`' ∧ b.head? ≠ some '`') <| by
    constructor
    · rintro ⟨a, -, b, -, h⟩
      exact ⟨a, b, h⟩
    · rintro ⟨a, b, rfl, h⟩
      refine ⟨a, ?_, b, ?_, rfl, h⟩
      · rw [List.mem_inits, List.append_assoc]
        exact List.prefix_append _ _
      · rw [List.mem_tails]
        exact List.suffix_append _ _

lemma HasRun.of_append_left (h : HasRun n u) (hv : v.head? ≠ some '`') : HasRun n (u ++ v) := by
  obtain ⟨a, b, rfl, ha, hb⟩ := h
  refine ⟨a, b ++ v, by simp, ha, ?_⟩
  rw [List.head?_append]
  cases b with
  | nil => exact hv
  | cons d b => exact hb

lemma HasRun.of_append_right (h : HasRun n v) (hu : u.getLast? ≠ some '`') : HasRun n (u ++ v) := by
  obtain ⟨a, b, rfl, ha, hb⟩ := h
  refine ⟨u ++ a, b, by simp, ?_, hb⟩
  cases a with
  | nil => rwa [List.append_nil]
  | cons d a => rwa [List.getLast?_append_of_ne_nil _ (List.cons_ne_nil d a)]

/-- A run behind a text that it does not go on is a run of the whole. -/
lemma HasRun.of_append_right_of_head (h : HasRun n v) (hn : 0 < n) (hv : v.head? ≠ some '`') :
    HasRun n (u ++ v) := by
  obtain ⟨a, b, rfl, ha, hb⟩ := h
  refine ⟨u ++ a, b, by simp, ?_, hb⟩
  rcases List.eq_nil_or_concat a with rfl | ⟨a, d, rfl⟩
  · obtain ⟨n, rfl⟩ := Nat.exists_eq_succ_of_ne_zero (Nat.ne_of_gt hn)
    simp [List.replicate_succ] at hv
  · simpa using ha

/-- No run goes on over a seam that has no backtick on one of its sides. -/
lemma hasRun_or_of_append (hseam : u.getLast? ≠ some '`' ∨ v.head? ≠ some '`')
    (h : HasRun n (u ++ v)) : HasRun n u ∨ HasRun n v := by
  obtain ⟨a, b, heq, ha, hb⟩ := h
  rw [List.append_assoc] at heq
  rcases List.append_eq_append_iff.1 heq with ⟨w, rfl, hw⟩ | ⟨w, rfl, hw⟩
  · -- The run begins behind the seam.
    refine .inr ⟨w, b, by rw [hw, List.append_assoc], fun hlast => ha ?_, hb⟩
    rw [List.getLast?_append, hlast]
    rfl
  · rcases List.append_eq_append_iff.1 hw with ⟨x, rfl, rfl⟩ | ⟨x, hx, rfl⟩
    · -- It ends before the seam.
      refine .inl ⟨a, x, by simp, ha, fun hhead => hb ?_⟩
      rw [List.head?_append, hhead]
      rfl
    · -- It begins before the seam and ends behind it, if it has something on both sides.
      have hticks : ∀ d ∈ w ++ x, d = '`' := fun d hd => List.eq_of_mem_replicate (hx ▸ hd)
      rcases List.eq_nil_or_concat w with rfl | ⟨w, d, rfl⟩
      · exact .inr ⟨[], b, by rw [hx]; rfl, by simp, hb⟩
      cases x with
      | nil => exact .inl ⟨a, [], by simp [hx], ha, by simp⟩
      | cons e x =>
        obtain rfl : d = '`' := hticks d (by simp)
        obtain rfl : e = '`' := hticks e (by simp)
        simp at hseam

lemma hasRun_cons_iff (hc : c ≠ '`') (hn : 0 < n) : HasRun n (c :: t) ↔ HasRun n t := by
  constructor
  · intro h
    rcases hasRun_or_of_append (u := [c]) (.inl (by simpa using hc)) h with h | h
    · obtain ⟨a, b, heq, -⟩ := h
      have hmem : '`' ∈ [c] := by rw [heq]; simp [Nat.ne_of_gt hn]
      exact absurd (List.mem_singleton.1 hmem).symm hc
    · exact h
  · exact fun h => h.of_append_right (u := [c]) (by simpa using hc)

lemma eq_of_hasRun_replicate (h : HasRun n (List.replicate k '`')) : n = k := by
  obtain ⟨a, b, heq, ha, hb⟩ := h
  have hall : ∀ c ∈ a ++ b, c = '`' := by
    intro c hc
    refine List.eq_of_mem_replicate (n := k) (heq ▸ ?_)
    rw [List.mem_append] at hc
    simp only [List.mem_append]
    tauto
  have hfirst : a = [] := by
    rcases List.eq_nil_or_concat a with rfl | ⟨a, d, rfl⟩
    · rfl
    · exact absurd (by simp [hall d (by simp)]) ha
  have hlast : b = [] := by
    cases b with
    | nil => rfl
    | cons d b => exact absurd (by simp [hall d (by simp)]) hb
  subst hfirst hlast
  simpa using congrArg List.length heq.symm

/-! ### Escaped code -/

lemma ticks_eq_some {before : Option Char} {rest : Text} (h : ticks before t = some (n, rest)) :
    n = tickRun t ∧ 0 < n ∧ rest = t.drop n := by
  unfold ticks at h
  split at h
  · cases h
  case h_2 hne =>
    obtain ⟨rfl, rfl⟩ := Prod.mk.inj (Option.some.inj h)
    exact ⟨rfl, Nat.pos_of_ne_zero hne, rfl⟩

lemma head?_ne_of_ticks {before : Option Char} (h : ticks before (c :: t) = none) : c ≠ '`' := by
  rintro rfl
  unfold ticks at h
  split at h
  case h_1 hzero => simp [tickRun] at hzero
  · cases h

lemma not_hasRun_writtenTicks (n : Nat) : ¬HasRun 3 (writtenTicks n) := by
  unfold writtenTicks
  split
  · decide
  case isFalse hn => exact fun h => hn (eq_of_hasRun_replicate h).symm

/-- What is written for a text begins with a backtick only if the text does. -/
lemma head?_escape (before : Option Char) (t : Text)
    (h : ((pieces ticks before t).flatMap (Piece.text writtenTicks)).head? = some '`') :
    t.head? = some '`' := by
  cases t with
  | nil => simp [pieces] at h
  | cons c t =>
    by_contra hc
    have hnone : ticks before (c :: t) = none := by
      have hzero : tickRun (c :: t) = 0 := by
        have hne : c ≠ '`' := by simpa using hc
        simp [tickRun, hne]
      simp [ticks, hzero]
    rw [pieces_cons_of_none hnone] at h
    exact hc h

/-- Escaped code has no run of exactly three backticks. -/
theorem not_hasRun_escapeFences (code : Text) : ¬HasRun 3 (escapeFences code) := by
  rw [escapeFences, replace_eq_flatMap]
  generalize none = before
  fun_induction pieces ticks before code with
  | case1 => decide
  | case2 before c cs n rest hfound hlen ih =>
    obtain ⟨rfl, -, rfl⟩ := ticks_eq_some hfound
    intro h
    rcases hasRun_or_of_append (.inr fun hhead => head?_drop_tickRun (head?_escape _ _ hhead)) h
      with h | h
    · exact not_hasRun_writtenTicks _ h
    · exact ih h
  | case3 before c cs n rest hfound hlen ih =>
    obtain ⟨-, hpos, rfl⟩ := ticks_eq_some hfound
    rw [List.length_drop, List.length_cons] at hlen
    omega
  | case4 before c cs hnone ih =>
    exact mt (hasRun_cons_iff (head?_ne_of_ticks hnone) (by decide)).1 ih

/-- Code without such a run is written as it is. -/
lemma escapeFences_of_not_hasRun {code : Text} (h : ¬HasRun 3 code) : escapeFences code = code := by
  rw [escapeFences, replace_eq_flatMap]
  generalize none = before
  fun_induction pieces ticks before code with
  | case1 => rfl
  | case2 before c cs n rest hfound hlen ih =>
    obtain ⟨rfl, -, rfl⟩ := ticks_eq_some hfound
    have hsplit := List.take_append_drop (tickRun (c :: cs)) (c :: cs)
    -- The run that is found is a whole one, so that it does not have three backticks.
    have hrun : tickRun (c :: cs) ≠ 3 := by
      intro hthree
      refine h ⟨[], (c :: cs).drop (tickRun (c :: cs)), ?_, by simp, head?_drop_tickRun⟩
      rw [List.nil_append, ← hthree, ← take_tickRun, hsplit]
    have hrest : ¬HasRun 3 ((c :: cs).drop (tickRun (c :: cs))) := by
      intro hlater
      apply h
      rw [← hsplit]
      exact hlater.of_append_right_of_head (by decide) head?_drop_tickRun
    have hwritten : Piece.text writtenTicks (.found (tickRun (c :: cs))) =
        (c :: cs).take (tickRun (c :: cs)) := (if_neg hrun).trans take_tickRun.symm
    rw [List.flatMap_cons, ih hrest, hwritten, hsplit]
  | case3 before c cs n rest hfound hlen ih =>
    obtain ⟨-, hpos, rfl⟩ := ticks_eq_some hfound
    rw [List.length_drop, List.length_cons] at hlen
    omega
  | case4 before c cs hnone ih =>
    have hrest : ¬HasRun 3 cs := mt (hasRun_cons_iff (head?_ne_of_ticks hnone) (by decide)).2 h
    rw [List.flatMap_cons, ih hrest]
    rfl

end LinkedDocs.Markup
