import LinkedDocs.Proofs.Listings
import LinkedDocs.Proofs.StashedCode
import LinkedDocs.Proofs.TickRuns

/-!
# Dedented code

What it means that code has been dedented is said here by its lines, apart from how it is done: the
blank lines at both ends are gone, and so is the longest indentation that all other lines share.
Main statement: this determines the result, which is that of `dedent`. Hence dedenting code again
changes nothing, since a dedented text meets its own description, and neither does escaping its
fences again.
-/

namespace LinkedDocs.Markup

open Text

variable {t u code result line new m m' : Text} {lines kept : List Text} {c : Char}

/-! ### The lines of a text -/

/-- A text without line ends. -/
def IsLine (line : Text) : Prop :=
  '\r' ∉ line ∧ '\n' ∉ line

/-- The lines of a text. A line ends with a carriage return, a line feed, or both in this order. -/
inductive HasLines : Text → List Text → Prop where
  | last {line : Text} (hline : IsLine line) : HasLines line [line]
  | crlf {line rest : Text} {lines : List Text} (hline : IsLine line) (h : HasLines rest lines) :
      HasLines (line ++ '\r' :: '\n' :: rest) (line :: lines)
  | cr {line rest : Text} {lines : List Text} (hline : IsLine line)
      (hrest : rest.head? ≠ some '\n') (h : HasLines rest lines) :
      HasLines (line ++ '\r' :: rest) (line :: lines)
  | lf {line rest : Text} {lines : List Text} (hline : IsLine line) (h : HasLines rest lines) :
      HasLines (line ++ '\n' :: rest) (line :: lines)

lemma isLine_nil : IsLine [] := by
  simp [IsLine]

lemma IsLine.of_suffix (h : IsLine t) (hsuffix : u <:+ t) : IsLine u :=
  ⟨fun hmem => h.1 (hsuffix.mem hmem), fun hmem => h.2 (hsuffix.mem hmem)⟩

lemma HasLines.isLine (h : HasLines t lines) : ∀ line ∈ lines, IsLine line := by
  induction h with
  | last hline => exact List.forall_mem_singleton.2 hline
  | crlf hline _ ih => exact List.forall_mem_cons.2 ⟨hline, ih⟩
  | cr hline _ _ ih => exact List.forall_mem_cons.2 ⟨hline, ih⟩
  | lf hline _ ih => exact List.forall_mem_cons.2 ⟨hline, ih⟩

lemma HasLines.cons {first : Text} (h : HasLines t (first :: lines)) (hc : IsLine [c]) :
    HasLines (c :: t) ((c :: first) :: lines) := by
  have hcons {line : Text} (hline : IsLine line) : IsLine (c :: line) := by
    simp only [IsLine, List.mem_cons, List.not_mem_nil, or_false, not_or] at *
    exact ⟨⟨hc.1, hline.1⟩, hc.2, hline.2⟩
  cases h with
  | last hline => exact .last (hcons hline)
  | crlf hline h => exact .crlf (hcons hline) h
  | cr hline hrest h => exact .cr (hcons hline) hrest h
  | lf hline h => exact .lf (hcons hline) h

lemma unifyLineEnds_cr (h : t.head? ≠ some '\n') :
    unifyLineEnds ('\r' :: t) = '\n' :: unifyLineEnds t := by
  rw [unifyLineEnds]
  · rfl
  · intro cs _ ht
    exact h (by rw [ht]; rfl)

lemma unifyLineEnds_append (h : IsLine u) : unifyLineEnds (u ++ t) = u ++ unifyLineEnds t := by
  induction u with
  | nil => rfl
  | cons c u ih =>
    have hc : c ≠ '\r' := fun hc => h.1 (hc ▸ List.mem_cons_self)
    rw [List.cons_append, unifyLineEnds, if_neg hc, ih (h.of_suffix (List.suffix_cons c u))]
    · rfl
    · exact fun cs hcr => absurd hcr hc

lemma HasLines.splitOn_eq (h : HasLines t lines) : splitOn '\n' (unifyLineEnds t) = lines := by
  induction h with
  | last hline =>
    have hself := unifyLineEnds_append (t := []) hline
    rw [List.append_nil, unifyLineEnds, List.append_nil] at hself
    rw [hself, splitOn_of_not_mem hline.2]
  | crlf hline _ ih => rw [unifyLineEnds_append hline, unifyLineEnds, splitOn_append hline.2, ih]
  | cr hline hrest _ ih =>
    rw [unifyLineEnds_append hline, unifyLineEnds_cr hrest, splitOn_append hline.2, ih]
  | lf hline _ ih =>
    rw [unifyLineEnds_append hline, unifyLineEnds, if_neg (by decide), splitOn_append hline.2, ih]
    simp

/-- Every text has lines, and they are found by making all its line ends line feeds. -/
lemma hasLines_splitOn (t : Text) : HasLines t (splitOn '\n' (unifyLineEnds t)) := by
  have hfeed (v : Text) : splitOn '\n' ('\n' :: v) = [] :: splitOn '\n' v :=
    splitOn_append (u := []) (List.not_mem_nil)
  fun_induction unifyLineEnds t with
  | case1 => exact .last isLine_nil
  | case2 cs ih =>
    rw [hfeed]
    exact .crlf isLine_nil ih
  | case3 c cs hne ih =>
    -- The character ends the first line, which is empty, or belongs to it.
    by_cases hcr : c = '\r'
    · rw [if_pos hcr, hfeed, hcr]
      refine .cr isLine_nil ?_ ih
      intro hhead
      obtain ⟨rest, hrest⟩ := List.head?_eq_some_iff.1 hhead
      exact hne rest hcr hrest
    · rw [if_neg hcr]
      by_cases hlf : c = '\n'
      · rw [hlf, hfeed]
        exact .lf isLine_nil ih
      · obtain ⟨part, parts, hparts⟩ :=
          List.exists_cons_of_ne_nil (splitOn_ne_nil '\n' (unifyLineEnds cs))
        rw [hparts] at ih
        rw [splitOn, hparts]
        dsimp only
        rw [if_neg hlf]
        exact ih.cons ⟨by simpa using Ne.symm hcr, by simpa using Ne.symm hlf⟩

lemma hasLines_join {first : Text} (h : ∀ line ∈ first :: lines, IsLine line) :
    HasLines (join ['\n'] (first :: lines)) (first :: lines) := by
  induction lines generalizing first with
  | nil => exact .last (h first List.mem_cons_self)
  | cons next lines ih =>
    obtain ⟨hfirst, hrest⟩ := List.forall_mem_cons.1 h
    rw [join, List.append_assoc]
    · exact .lf hfirst (ih hrest)
    · simp

/-! ### Margins -/

/-- A text of spaces and tabs. -/
def IsIndentation (t : Text) : Prop :=
  ∀ c ∈ t, isIndent c = true

instance : DecidablePred IsIndentation := fun t =>
  decidable_of_iff (t.all isIndent = true) List.all_eq_true

/-- The margin of lines: the longest indentation with which they all begin, apart from the lines
that are nothing but indentation. -/
structure IsMargin (m : Text) (lines : List Text) : Prop where
  indentation : IsIndentation m
  shared : ∀ line ∈ lines, ¬IsIndentation line → m <+: line
  longest : ∀ m', IsIndentation m' → (∀ line ∈ lines, ¬IsIndentation line → m' <+: line) →
    m' <+: m

lemma IsMargin.eq (h : IsMargin m lines) (h' : IsMargin m' lines) : m = m' := by
  have hle := h'.longest m h.indentation h.shared
  have hge := h.longest m' h'.indentation h'.shared
  exact hle.eq_of_length (Nat.le_antisymm hle.length_le hge.length_le)

lemma prefix_commonLead_iff : m <+: commonLead t u ↔ m <+: t ∧ m <+: u := by
  induction m generalizing t u with
  | nil => simp
  | cons c m ih =>
    cases t with
    | nil => simp [commonLead]
    | cons d t =>
      cases u with
      | nil => simp [commonLead]
      | cons e u =>
        rw [commonLead]
        split
        case isTrue heq =>
          subst heq
          simp only [List.cons_prefix_cons, ih]
          tauto
        case isFalse hne =>
          simp only [List.prefix_nil, List.cons_prefix_cons, reduceCtorEq, false_iff]
          rintro ⟨⟨rfl, -⟩, rfl, -⟩
          exact hne rfl

lemma prefix_foldl_commonLead_iff :
    m <+: lines.foldl commonLead t ↔ m <+: t ∧ ∀ line ∈ lines, m <+: line := by
  induction lines generalizing t with
  | nil => simp
  | cons line lines ih =>
    rw [List.foldl_cons, ih, prefix_commonLead_iff, List.forall_mem_cons, and_assoc]

lemma prefix_indentation_iff : m <+: indentation line ↔ IsIndentation m ∧ m <+: line := by
  constructor
  · intro h
    exact ⟨fun c hc => List.mem_takeWhile_imp (h.mem hc), h.trans (List.takeWhile_prefix _)⟩
  · rintro ⟨hm, rest, rfl⟩
    rw [indentation, List.takeWhile_append_of_pos hm]
    exact List.prefix_append _ _

/-- The margin that is computed has all shared indentations as its leads, and no other. -/
lemma prefix_margin_iff (h : ∃ line ∈ lines, ¬IsIndentation line) : m <+: margin lines ↔
    IsIndentation m ∧ ∀ line ∈ lines, ¬IsIndentation line → m <+: line := by
  have hmem {t : Text} : t ∈ (lines.filter fun line => !line.all isIndent).map indentation ↔
      ∃ line ∈ lines, ¬IsIndentation line ∧ indentation line = t := by
    simp [IsIndentation, and_assoc]
  obtain ⟨line, hline, hother⟩ := h
  unfold margin
  split
  case h_1 hnone =>
    have hfirst := hmem.2 ⟨line, hline, hother, rfl⟩
    rw [hnone] at hfirst
    cases hfirst
  case h_2 first more hlist =>
    rw [prefix_foldl_commonLead_iff, ← List.forall_mem_cons (p := (m <+: ·)), ← hlist]
    constructor
    · intro hall
      refine ⟨?_, fun line hline hother => ?_⟩
      · exact (prefix_indentation_iff.1 (hall _ (hmem.2 ⟨line, hline, hother, rfl⟩))).1
      · exact (prefix_indentation_iff.1 (hall _ (hmem.2 ⟨line, hline, hother, rfl⟩))).2
    · rintro ⟨hm, hall⟩ t ht
      obtain ⟨line, hline, hother, rfl⟩ := hmem.1 ht
      exact prefix_indentation_iff.2 ⟨hm, hall line hline hother⟩

lemma isMargin_margin (h : ∃ line ∈ lines, ¬IsIndentation line) :
    IsMargin (margin lines) lines where
  indentation := ((prefix_margin_iff h).1 List.prefix_rfl).1
  shared := ((prefix_margin_iff h).1 List.prefix_rfl).2
  longest _ hm hall := (prefix_margin_iff h).2 ⟨hm, hall⟩

/-! ### Dedented lines -/

/-- What becomes of a line: it loses the margin, or all it has if it is nothing but indentation. -/
inductive Dedented (m : Text) : Text → Text → Prop where
  | emptied {line : Text} (hline : IsIndentation line) : Dedented m line []
  | shifted {rest : Text} (hline : ¬IsIndentation (m ++ rest)) : Dedented m (m ++ rest) rest

lemma IsIndentation.isBlankText (h : IsIndentation t) : isBlankText t = true :=
  List.all_eq_true.2 fun c hc => isBlank_of_isIndent (h c hc)

lemma IsIndentation.append (h : IsIndentation t) (h' : IsIndentation u) : IsIndentation (t ++ u) :=
  List.forall_mem_append.2 ⟨h, h'⟩

lemma Dedented.eq (h : Dedented m line new) : new = dedentLine m line := by
  cases h with
  | emptied hline => rw [dedentLine, if_pos (List.all_eq_true.2 hline)]
  | shifted hline => rw [dedentLine, if_neg (mt List.all_eq_true.1 hline), List.drop_left]

lemma dedented_dedentLine (h : ¬IsIndentation line → m <+: line) :
    Dedented m line (dedentLine m line) := by
  by_cases hline : IsIndentation line
  · rw [dedentLine, if_pos (List.all_eq_true.2 hline)]
    exact .emptied hline
  · obtain ⟨rest, rfl⟩ := h hline
    rw [dedentLine, if_neg (mt List.all_eq_true.1 hline), List.drop_left]
    exact .shifted hline

/-- A line that is not blank does not become blank. -/
lemma Dedented.isBlankText (h : Dedented m line new) (hm : IsIndentation m)
    (hline : isBlankText line = false) : isBlankText new = false := by
  cases h with
  | emptied hindent =>
    rw [hindent.isBlankText] at hline
    cases hline
  | shifted _ =>
    have hlead : m.all isBlank = true := hm.isBlankText
    rw [Text.isBlankText, List.all_append, hlead] at hline
    exact hline

/-! ### Dedented code -/

/-- What dedented code is: the code without the blank lines at its ends, each line dedented by the
margin of those that are left. -/
def IsDedented (code result : Text) : Prop :=
  ∃ (before kept after : List Text) (m : Text) (new : List Text),
    HasLines code (before ++ kept ++ after) ∧
    (∀ line ∈ before ++ after, isBlankText line = true) ∧
    (∀ line, kept.head? = some line ∨ kept.getLast? = some line → isBlankText line = false) ∧
    (kept ≠ [] → IsMargin m kept) ∧
    List.Forall₂ (Dedented m) kept new ∧ result = join ['\n'] new

lemma trimmedBy_trimmedLines (code : Text) : TrimmedBy isBlankText (trimmedLines code) :=
  trimmedBy_trim isBlankText _

/-- The first of the lines that are left is not blank, and so not mere indentation. -/
lemma TrimmedBy.exists_not_isIndentation (h : TrimmedBy isBlankText kept) (hne : kept ≠ []) :
    ∃ line ∈ kept, ¬IsIndentation line := by
  obtain ⟨first, more, rfl⟩ := List.exists_cons_of_ne_nil hne
  refine ⟨first, List.mem_cons_self, fun hindent => ?_⟩
  have hblank := h.1 first rfl
  rw [hindent.isBlankText] at hblank
  cases hblank

lemma isDedented_dedent (code : Text) : IsDedented code (dedent code) := by
  obtain ⟨before, after, hlines, hbefore, hafter⟩ :=
    exists_trim isBlankText (splitOn '\n' (unifyLineEnds code))
  have htrimmed := trimmedBy_trimmedLines code
  refine ⟨before, trimmedLines code, after, margin (trimmedLines code),
    dedentLines (trimmedLines code), ?_, ?_, ?_, ?_, ?_, rfl⟩
  · have hcode := hasLines_splitOn code
    rw [hlines] at hcode
    exact hcode
  · exact List.forall_mem_append.2 ⟨hbefore, hafter⟩
  · rintro line (hfirst | hlast)
    · exact htrimmed.1 line hfirst
    · exact htrimmed.2 line hlast
  · exact fun hne => isMargin_margin (htrimmed.exists_not_isIndentation hne)
  · rw [dedentLines, List.forall₂_map_right_iff, List.forall₂_same]
    intro line hline
    refine dedented_dedentLine fun hother => ?_
    exact (isMargin_margin ⟨line, hline, hother⟩).shared line hline hother

lemma map_dedentLine_of_forall₂ {new : List Text} (h : List.Forall₂ (Dedented m) kept new) :
    new = kept.map (dedentLine m) := by
  induction h with
  | nil => rfl
  | cons hline _ ih => rw [List.map_cons, ← hline.eq, ← ih]

/-- There is only one dedented form of code. -/
lemma IsDedented.eq (h : IsDedented code result) : result = dedent code := by
  obtain ⟨before, kept, after, m, new, hlines, hblank, hends, hmargin, hnew, rfl⟩ := h
  have htrimmed : TrimmedBy isBlankText kept :=
    ⟨fun line hfirst => hends line (.inl hfirst), fun line hlast => hends line (.inr hlast)⟩
  have hkept : trimmedLines code = kept := by
    obtain ⟨hbefore, hafter⟩ := List.forall_mem_append.1 hblank
    rw [← htrimmed.trim_between hbefore hafter, ← hlines.splitOn_eq]
    rfl
  obtain rfl := map_dedentLine_of_forall₂ hnew
  rw [dedent, hkept, dedentLines]
  by_cases hne : kept = []
  · rw [hne]
    rfl
  · rw [(hmargin hne).eq (isMargin_margin (htrimmed.exists_not_isIndentation hne))]

/-! ### Dedenting again -/

lemma Dedented.isLine (h : Dedented m line new) (hline : IsLine line) : IsLine new := by
  cases h with
  | emptied _ => exact isLine_nil
  | shifted _ => exact hline.of_suffix (List.suffix_append _ _)

/-- A dedented line that is mere indentation is empty. -/
lemma Dedented.again (h : Dedented m line new) (hm : IsIndentation m) : Dedented [] new new := by
  cases h with
  | emptied _ => exact .emptied (List.forall_mem_nil _)
  | shifted hline => exact .shifted fun hnew => hline (hm.append hnew)

/-- No margin is left: what all lines share beyond the margin would have belonged to it. -/
lemma IsMargin.dedented (h : IsMargin m kept) : IsMargin [] (kept.map (dedentLine m)) where
  indentation := List.forall_mem_nil _
  shared _ _ _ := List.nil_prefix
  longest m' hm' hall := by
    have hlonger : m ++ m' <+: m := by
      refine h.longest _ (h.indentation.append hm') fun line hline hother => ?_
      obtain ⟨rest, rfl⟩ := h.shared line hline hother
      have hrest : rest = dedentLine m (m ++ rest) := (Dedented.shifted hother).eq
      have hkeeps : ¬IsIndentation rest := fun hindent => hother (h.indentation.append hindent)
      refine (List.prefix_append_right_inj m).2 (hall rest ?_ hkeeps)
      exact List.mem_map.2 ⟨m ++ rest, hline, hrest.symm⟩
    have hlength := hlonger.length_le
    rw [List.length_append] at hlength
    obtain rfl : m' = [] := List.eq_nil_of_length_eq_zero (by omega)
    exact List.prefix_rfl

/-- Dedented code is its own dedented form. -/
lemma isDedented_self (code : Text) : IsDedented (dedent code) (dedent code) := by
  obtain ⟨before, kept, after, m, new, hlines, hblank, hends, hmargin, hnew, hcode⟩ :=
    isDedented_dedent code
  obtain rfl := map_dedentLine_of_forall₂ hnew
  -- The lines that were left are the lines of the result, and nothing is to be dropped from them.
  cases hkept : kept with
  | nil =>
    rw [hcode, hkept]
    exact isDedented_dedent []
  | cons first more =>
    have hmargin := hmargin (by simp [hkept])
    have hdedented : ∀ line ∈ kept, Dedented m line (dedentLine m line) :=
      fun line hline => dedented_dedentLine (hmargin.shared line hline)
    have hline : ∀ line ∈ kept.map (dedentLine m), IsLine line := by
      refine List.forall_mem_map.2 fun line hline => (hdedented line hline).isLine ?_
      exact hlines.isLine line (by simp [hline])
    refine ⟨[], kept.map (dedentLine m), [], [], kept.map (dedentLine m), ?_, by simp, ?_,
      fun _ => hmargin.dedented, ?_, hcode⟩
    · rw [hcode, List.nil_append, List.append_nil]
      rw [hkept] at hline ⊢
      exact hasLines_join hline
    · rw [List.head?_map, List.getLast?_map]
      rintro new (hfirst | hlast)
      · obtain ⟨line, hline, rfl⟩ := Option.map_eq_some_iff.1 hfirst
        exact (hdedented line (List.mem_of_mem_head? hline)).isBlankText hmargin.indentation
          (hends line (.inl hline))
      · obtain ⟨line, hline, rfl⟩ := Option.map_eq_some_iff.1 hlast
        exact (hdedented line (List.mem_of_getLast? hline)).isBlankText hmargin.indentation
          (hends line (.inr hline))
    · refine List.forall₂_same.2 (List.forall_mem_map.2 fun line hline => ?_)
      exact (hdedented line hline).again hmargin.indentation

/-- Dedenting drops the blank lines at both ends and the margin, and nothing else; what is left has
no margin and no blank line at its ends any more. Escaping its fences leaves no run of exactly three
backticks, so that there is nothing more to escape. -/
theorem dedent_drops_margin (code : Text) :
    (∀ result, IsDedented code result ↔ result = dedent code) ∧
      dedent (dedent code) = dedent code ∧
      ¬HasRun 3 (escapeFences (dedent code)) ∧
      escapeFences (escapeFences (dedent code)) = escapeFences (dedent code) := by
  have hescaped := not_hasRun_escapeFences (dedent code)
  refine ⟨?_, (isDedented_self code).eq.symm, hescaped, escapeFences_of_not_hasRun hescaped⟩
  intro result
  constructor
  · exact IsDedented.eq
  · rintro rfl
    exact isDedented_dedent code

/-- A tab is no space, a line of spaces and tabs counts for nothing, and only the ends are freed of
blank lines. -/
example :
    dedent "\r\n \u2003\r \ta\n\t \t\r\n  b\n\n \t c\n \n".toList =
      "\ta\n\n b\n\n\t c".toList := by
  decide

end LinkedDocs.Markup
