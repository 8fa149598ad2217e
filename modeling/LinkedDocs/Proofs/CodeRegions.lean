import Mathlib.Data.List.TakeWhile
import LinkedDocs.Markup.Fence
import LinkedDocs.Proofs.Cutting

/-!
# Fences and code spans as they are found again

What a recogniser has found is found again where it stands by itself, and in front of any text that
does not go on with it: a fence before a line end, a code span before anything but a backtick. A
code span of fewer than three backticks does not begin a fence.
-/

namespace LinkedDocs.Markup

open Text

variable {t u v rest : Text} {before : Option Char} {n : Nat} {inRun : Bool}

/-! ### Fences -/

/-- A text that ends the line before it. -/
def EndsLine (rest : Text) : Prop :=
  rest = [] ∨ rest.head? = some '\n'

lemma EndsLine.takeWhile (h : EndsLine rest) : rest.takeWhile (· != '\n') = [] := by
  rcases h with rfl | h
  · rfl
  · obtain ⟨cs, rfl⟩ := List.head?_eq_some_iff.1 h
    rfl

lemma EndsLine.dropWhile (h : EndsLine rest) : rest.dropWhile (· != '\n') = rest := by
  rcases h with rfl | h
  · rfl
  · obtain ⟨cs, rfl⟩ := List.head?_eq_some_iff.1 h
    rfl

/-- A line that goes on to the end of a text is cut off by what ends it. -/
lemma EndsLine.takeWhile_append (h : EndsLine rest) :
    (u ++ rest).takeWhile (· != '\n') = u.takeWhile (· != '\n') := by
  rw [List.takeWhile_append, h.takeWhile]
  split
  case isTrue hlen =>
    rw [List.append_nil]
    exact ((List.takeWhile_prefix _).eq_of_length hlen).symm
  · rfl

lemma EndsLine.dropWhile_append (h : EndsLine rest) :
    (u ++ rest).dropWhile (· != '\n') = u.dropWhile (· != '\n') ++ rest := by
  rw [List.dropWhile_append, h.dropWhile]
  split
  case isTrue hempty =>
    rw [List.isEmpty_iff.1 hempty]
    rfl
  · rfl

lemma afterMarker?_append (h : afterMarker? u = some v) :
    afterMarker? (u ++ rest) = some (v ++ rest) := by
  unfold afterMarker? at h ⊢
  cases hdrop : u.dropWhile isIndent with
  | nil => simp [hdrop] at h
  | cons c cs =>
    rw [List.dropWhile_append, hdrop]
    rw [hdrop] at h
    simp only [List.isEmpty_cons, Bool.false_eq_true, if_false]
    split at h
    case h_1 r heq =>
      obtain rfl := Option.some.inj h
      rw [heq]
      rfl
    · cases h

lemma linesToClosing?_append {lines : List Text} (hrest : EndsLine rest)
    (h : linesToClosing? u = some (lines, [])) :
    linesToClosing? (u ++ rest) = some (lines, rest) := by
  fun_induction linesToClosing? u generalizing lines with
  | case1 u line =>
    rename_i hclosing
    obtain ⟨hlines, hafter⟩ := Prod.mk.inj (Option.some.inj h)
    rw [linesToClosing?]
    simp only [hrest.takeWhile_append, hrest.dropWhile_append]
    rw [if_pos hclosing, hafter, ← hlines]
    rfl
  | case2 => cases h
  | case3 u line hclosing c next hdrop =>
    rename_i ih
    obtain ⟨⟨lines', after⟩, hnext, heq⟩ := Option.map_eq_some_iff.1 h
    obtain ⟨rfl, rfl⟩ := Prod.mk.inj heq
    have hdrop' : (u ++ rest).dropWhile (· != '\n') = c :: (next ++ rest) := by
      rw [hrest.dropWhile_append, hdrop, List.cons_append]
    rw [linesToClosing?]
    simp only [hrest.takeWhile_append]
    rw [if_neg hclosing]
    split
    case h_1 heq => simp [heq] at hdrop'
    case h_2 d next' heq =>
      obtain ⟨-, rfl⟩ := List.cons.inj (hdrop'.symm.trans heq)
      rw [ih hnext]
      rfl

/-- A fence that is a whole text is found where that text begins and ends a line. -/
lemma fence_append {f : Fence} (h : fence none t = some (f, []))
    (hbefore : before = none ∨ before = some '\n') (hrest : EndsLine rest) :
    fence before (t ++ rest) = some (f, rest) ∧ f.source = t := by
  unfold fence at h
  simp only [decide_true, Bool.true_or, if_true] at h
  split at h
  · cases h
  case h_2 marked hmarked =>
    split at h
    · cases h
    case h_2 c inner hinner =>
      obtain ⟨⟨lines, after⟩, hlines, heq⟩ := Option.map_eq_some_iff.1 h
      obtain ⟨rfl, rfl⟩ := Prod.mk.inj heq
      have hdrop : (marked ++ rest).dropWhile (· != '\n') = c :: (inner ++ rest) := by
        rw [hrest.dropWhile_append, hinner, List.cons_append]
      -- The language ends before the line feed, which is blank.
      have hlanguage : (marked ++ rest).takeWhile (fun c => !isBlank c && c != '`') =
          marked.takeWhile (fun c => !isBlank c && c != '`') := by
        rw [List.takeWhile_append, if_neg]
        intro hlen
        have hall := (List.takeWhile_prefix _).eq_of_length hlen
        have hmem : '\n' ∈ marked := by
          have hc := List.head?_dropWhile_not (· != '\n') marked
          rw [hinner] at hc
          have hc : c = '\n' := by simpa using hc
          rw [← hc]
          exact (List.dropWhile_sublist _).mem (by rw [hinner]; simp)
        rw [← hall] at hmem
        have hnot := List.mem_takeWhile_imp hmem
        revert hnot
        decide
      have hline : (decide (before = none) || decide (before = some '\n')) = true := by
        simpa using hbefore
      refine ⟨?_, by simp⟩
      unfold fence
      rw [if_pos hline, afterMarker?_append hmarked]
      simp only [hdrop, linesToClosing?_append hrest hlines, hlanguage, Option.map_some]
      simp

/-- Within a line no fence begins. -/
lemma fence_of_not_lineStart {c : Char} (hc : c ≠ '\n') : fence (some c) t = none := by
  simp [fence, hc]

lemma fence_of_afterMarker? (h : afterMarker? t = none) : fence before t = none := by
  simp [fence, h]

lemma fence_of_not_mem (h : '`' ∉ t) : fence before t = none := by
  apply fence_of_afterMarker?
  unfold afterMarker?
  split
  case h_1 heq => exact absurd ((List.dropWhile_sublist isIndent).subset (heq ▸ List.mem_cons_self)) h
  · rfl

/-! ### Code spans -/

lemma tickRun_append (h : rest.head? ≠ some '`') : tickRun (u ++ rest) = tickRun u := by
  have hrest : rest.takeWhile (· == '`') = [] := by
    cases rest with
    | nil => rfl
    | cons c cs =>
      have hc : ¬(c == '`') = true := by simpa using h
      exact List.takeWhile_cons_of_neg hc
  rw [tickRun, List.takeWhile_append, hrest]
  split
  case isTrue hlen => simp [tickRun, hlen]
  · rfl

lemma tickRun_append_of_lt (h : tickRun u < u.length) : tickRun (u ++ rest) = tickRun u := by
  rw [tickRun, List.takeWhile_append, if_neg]
  · rfl
  · exact Nat.ne_of_lt h

/-- What comes after a whole run of backticks is no backtick. -/
lemma head?_drop_tickRun : (t.drop (tickRun t)).head? ≠ some '`' := by
  have hdrop : t.drop (tickRun t) = t.dropWhile (· == '`') := by
    have happend := List.takeWhile_append_dropWhile (p := (· == '`')) (l := t)
    conv_lhs => arg 2; rw [← happend]
    exact List.drop_left
  rw [hdrop]
  have hnot := List.head?_dropWhile_not (· == '`') t
  intro hhead
  simp [hhead] at hnot

lemma take_tickRun : t.take (tickRun t) = List.replicate (tickRun t) '`' := by
  have htake : t.take (tickRun t) = t.takeWhile (· == '`') :=
    ((List.prefix_iff_eq_take.1 (List.takeWhile_prefix _))).symm
  rw [htake, List.eq_replicate_iff]
  exact ⟨rfl, fun c hc => by simpa using List.mem_takeWhile_imp hc⟩

/-- A search for a run ends in the line, behind the run, before anything but a backtick. It ends in
the same way in the text it has gone through. -/
lemma upToRun?_eq_some {body : Text} (hn : 0 < n) (h : upToRun? n inRun t = some (body, rest)) :
    ∃ v, t = v ++ rest ∧ upToRun? n inRun v = some (body, []) ∧ rest.head? ≠ some '`' ∧
      '\n' ∉ v ∧ v.getLast? = some '`' := by
  induction t generalizing inRun body with
  | nil => cases h
  | cons c cs ih =>
    rw [upToRun?] at h
    split at h
    · cases h
    case isFalse hc =>
      split at h
      case isTrue hrun =>
        obtain ⟨rfl, rfl⟩ := Prod.mk.inj (Option.some.inj h)
        simp only [Bool.and_eq_true, decide_eq_true_eq] at hrun
        obtain ⟨⟨rfl, hinRun⟩, rfl⟩ := hrun
        have hhead := @head?_drop_tickRun ('`' :: cs)
        have htake := @take_tickRun ('`' :: cs)
        obtain ⟨k, hk⟩ := Nat.exists_eq_succ_of_ne_zero (Nat.ne_of_gt hn)
        refine ⟨('`' :: cs).take (tickRun ('`' :: cs)), (List.take_append_drop _ _).symm, ?_, hhead,
          ?_, ?_⟩
        · have hself : tickRun (List.replicate (k + 1) '`') = k + 1 := by
            simp [tickRun]
          rw [htake, hk, List.replicate_succ, upToRun?, if_neg (by decide), if_pos]
          · rw [← List.replicate_succ]
            simp
          · rw [← List.replicate_succ, hself]
            simpa using hinRun
        · rw [htake, List.mem_replicate]
          rintro ⟨-, hnl⟩
          exact absurd hnl (by decide)
        · rw [htake, hk]
          simp [List.getLast?_replicate]
      case isFalse hrun =>
        obtain ⟨⟨body', rest'⟩, hnext, heq⟩ := Option.map_eq_some_iff.1 h
        obtain ⟨rfl, rfl⟩ := Prod.mk.inj heq
        obtain ⟨v, rfl, hv, hhead, hline, hlast⟩ := ih hnext
        refine ⟨c :: v, rfl, ?_, hhead, ?_, ?_⟩
        · have hsame : tickRun (c :: v) = tickRun (c :: (v ++ rest')) :=
            (tickRun_append (u := c :: v) hhead).symm
          rw [upToRun?, if_neg hc, hsame, if_neg hrun, hv]
          rfl
        · rw [List.mem_cons]
          rintro (rfl | hmem)
          · exact hc rfl
          · exact hline hmem
        · rw [List.getLast?_cons, hlast]
          rfl

lemma upToRun?_append {body : Text} (hrest : rest.head? ≠ some '`')
    (h : upToRun? n inRun u = some (body, [])) :
    upToRun? n inRun (u ++ rest) = some (body, rest) := by
  induction u generalizing inRun body with
  | nil => cases h
  | cons c cs ih =>
    have hsame : tickRun (c :: (cs ++ rest)) = tickRun (c :: cs) :=
      tickRun_append (u := c :: cs) hrest
    rw [upToRun?] at h
    rw [List.cons_append, upToRun?, hsame]
    split at h
    · cases h
    case isFalse hc =>
      rw [if_neg hc]
      split at h
      case isTrue hrun =>
        obtain ⟨rfl, hdrop⟩ := Prod.mk.inj (Option.some.inj h)
        rw [if_pos hrun]
        simp only [Bool.and_eq_true, decide_eq_true_eq] at hrun
        have hlen : (c :: cs).length = n := by
          have hle := List.drop_eq_nil_iff.1 hdrop
          have hge : tickRun (c :: cs) ≤ (c :: cs).length := (List.takeWhile_sublist _).length_le
          omega
        rw [← List.cons_append, ← hlen, List.drop_left]
      case isFalse hrun =>
        obtain ⟨⟨body', after⟩, hnext, heq⟩ := Option.map_eq_some_iff.1 h
        obtain ⟨rfl, rfl⟩ := Prod.mk.inj heq
        rw [if_neg hrun, ih hnext]
        rfl

/-- The text is one code span. -/
def IsSpan (t : Text) : Prop :=
  codeSpan none t = some (t, [])

instance : DecidablePred IsSpan :=
  fun t => inferInstanceAs (Decidable (codeSpan none t = some (t, [])))

lemma isSpan_iff : IsSpan t ↔ 0 < tickRun t ∧
    ∃ body, upToRun? (tickRun t) true (t.drop (tickRun t)) = some (body, []) := by
  unfold IsSpan codeSpan
  by_cases hn : tickRun t = 0
  · simp [hn]
  · simp only [hn, decide_false, Bool.false_or, reduceCtorEq, Bool.false_eq_true, if_false]
    cases upToRun? (tickRun t) true (t.drop (tickRun t)) with
    | none => simp
    | some y =>
      obtain ⟨body, after⟩ := y
      simp only [Option.some.injEq, Prod.mk.injEq, exists_eq_left']
      constructor
      · rintro ⟨-, hafter⟩
        exact ⟨Nat.pos_of_ne_zero hn, hafter⟩
      · rintro ⟨-, rfl⟩
        simp

lemma codeSpan_append (h : IsSpan u) (hbefore : before ≠ some '`')
    (hrest : rest.head? ≠ some '`') : codeSpan before (u ++ rest) = some (u, rest) := by
  obtain ⟨hn, body, hbody⟩ := isSpan_iff.1 h
  have hlen : tickRun u ≤ u.length := (List.takeWhile_sublist _).length_le
  unfold codeSpan
  simp only [tickRun_append hrest]
  rw [if_neg (by simp [hbefore, Nat.ne_of_gt hn]), List.drop_append_of_le_length hlen,
    upToRun?_append hrest hbody]
  simp

/-- What is found as a code span is one by itself. -/
lemma codeSpan_eq_some (h : codeSpan before t = some (u, rest)) :
    t = u ++ rest ∧ IsSpan u ∧ rest.head? ≠ some '`' := by
  unfold codeSpan at h
  dsimp only at h
  split at h
  · cases h
  case isFalse hstart =>
    have hn : 0 < tickRun t := by
      rcases Nat.eq_zero_or_pos (tickRun t) with hzero | hpos
      · simp [hzero] at hstart
      · exact hpos
    split at h
    case h_1 body after hrun =>
      obtain ⟨rfl, rfl⟩ := Prod.mk.inj (Option.some.inj h)
      obtain ⟨v, hv, hbody, hhead, -⟩ := upToRun?_eq_some hn hrun
      have hne : v ≠ [] := by
        rintro rfl
        cases hbody
      have ht : t = (t.take (tickRun t) ++ v) ++ after := by
        conv_lhs => rw [← List.take_append_drop (tickRun t) t, hv, ← List.append_assoc]
      generalize hwhole : t.take (tickRun t) ++ v = whole at ht
      have htake : t.take (t.length - after.length) = whole := by
        conv_lhs => rw [ht]
        simp
      rw [htake]
      refine ⟨ht, ?_, hhead⟩
      have hsame : tickRun whole = tickRun t := by
        conv_rhs => rw [ht]
        exact (tickRun_append hhead).symm
      rw [isSpan_iff, hsame]
      refine ⟨hn, body, ?_⟩
      have hle : tickRun t ≤ t.length := (List.takeWhile_sublist _).length_le
      have hdrop : whole.drop (tickRun t) = v := by
        rw [← hwhole, List.drop_left' (by simp [hle])]
      rw [hdrop, hbody]
    · cases h

lemma reads_codeSpan : Reads codeSpan id :=
  fun h => (codeSpan_eq_some h).1

namespace IsSpan

lemma tickRun_lt (h : IsSpan u) : tickRun u < u.length := by
  obtain ⟨-, body, hbody⟩ := isSpan_iff.1 h
  by_contra hle
  rw [List.drop_eq_nil_iff.2 (Nat.le_of_not_lt hle)] at hbody
  cases hbody

lemma ne_nil (h : IsSpan u) : u ≠ [] := by
  rintro rfl
  exact absurd h.tickRun_lt (Nat.not_lt_zero _)

lemma head? (h : IsSpan u) : u.head? = some '`' := by
  obtain ⟨hn, -⟩ := isSpan_iff.1 h
  cases u with
  | nil => cases hn
  | cons c cs =>
    by_cases hc : c = '`'
    · rw [hc]
      rfl
    · simp [tickRun, hc] at hn

/-- A code span stands in one line and ends with a backtick. -/
lemma line (h : IsSpan u) : '\n' ∉ u ∧ u.getLast? = some '`' := by
  obtain ⟨hn, body, hbody⟩ := isSpan_iff.1 h
  obtain ⟨v, hv, -, -, hline, hlast⟩ := upToRun?_eq_some hn hbody
  rw [List.append_nil] at hv
  have hu : u = List.replicate (tickRun u) '`' ++ v := by
    conv_lhs => rw [← List.take_append_drop (tickRun u) u, take_tickRun, hv]
  rw [hu]
  constructor
  · rw [List.mem_append, List.mem_replicate]
    rintro (⟨-, hnl⟩ | hmem)
    · exact absurd hnl (by decide)
    · exact hline hmem
  · rw [List.getLast?_append, hlast]
    rfl

/-- A span of one or two backticks is no marker of a fence. -/
lemma afterMarker? (h : IsSpan u) (hshort : tickRun u < 3) :
    Markup.afterMarker? (u ++ rest) = none := by
  have hrun : tickRun (u ++ rest) < 3 := by rwa [tickRun_append_of_lt h.tickRun_lt]
  obtain ⟨cs, rfl⟩ := List.head?_eq_some_iff.1 h.head?
  have hindent : (('`' :: cs) ++ rest).dropWhile isIndent = ('`' :: cs) ++ rest := rfl
  unfold Markup.afterMarker?
  rw [hindent]
  split
  case h_1 heq =>
    rw [heq] at hrun
    simp only [tickRun, BEq.rfl, List.takeWhile_cons_of_pos, List.length_cons] at hrun
    omega
  · rfl

end IsSpan

lemma tick_mem_of_codeSpan {x : Text × Text} (h : codeSpan before t = some x) : '`' ∈ t := by
  obtain ⟨rfl, hspan, -⟩ := codeSpan_eq_some h
  exact List.mem_append_left _ (List.mem_of_mem_head? hspan.head?)

end LinkedDocs.Markup
