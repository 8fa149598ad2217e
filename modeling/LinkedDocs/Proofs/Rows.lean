import Mathlib.Data.List.DropRight
import LinkedDocs.Proofs.Escaping
import LinkedDocs.Proofs.Tags

/-!
# Layout of rows

A row has characters, and finds that stand for texts of their own. Laying it out concerns its
characters only: angle brackets are escaped, runs of blank lines are collapsed, and blanks at the
ends are dropped. Main statement: if every find is written as a text within a line, then tidying the
written text is writing the tidy row.
-/

namespace LinkedDocs.Text

variable {α β : Type}

namespace Piece

def found? : Piece α → Option α
  | .plain _ => none
  | .found a => some a

/-- Whether the piece is such a character. -/
def isPlain (p : Char → Bool) : Piece α → Bool
  | .plain c => p c
  | .found _ => false

@[simp] lemma isPlain_plain (p : Char → Bool) (c : Char) :
    (plain c : Piece α).isPlain p = p c := rfl

@[simp] lemma isPlain_found (p : Char → Bool) (a : α) : (found a).isPlain p = false := rfl

end Piece

/-- The text of a row, given the texts of the finds. -/
def written (f : α → Text) (row : List (Piece α)) : Text :=
  row.flatMap (Piece.text f)

/-- The first line of a row, and the lines below it. -/
def lines : List (Piece α) → List (Piece α) × List (List (Piece α))
  | [] => ([], [])
  | piece :: row =>
    if piece.isPlain (· == '\n') then ([], (lines row).1 :: (lines row).2)
    else (piece :: (lines row).1, (lines row).2)

/-- The row of a line and the lines below it. -/
def unlines (line : List (Piece α)) (more : List (List (Piece α))) : List (Piece α) :=
  line ++ more.flatMap (.plain '\n' :: ·)

end LinkedDocs.Text

namespace LinkedDocs.Markup

open Text

variable {α β : Type} {f : α → Text} {row line a b c : List (Piece α)}
  {more : List (List (Piece α))} {before : Option Char} {u rest : Text}

/-! ### Tidy rows -/

/-- Every such character replaced by a text. -/
def replacePlain (d : Char) (image : Text) (row : List (Piece α)) : List (Piece α) :=
  row.flatMap fun piece => if piece.isPlain (· == d) then image.map .plain else [piece]

/-- Every closing angle bracket escaped. -/
def escape (row : List (Piece α)) : List (Piece α) :=
  replacePlain '>' "&gt;".toList row

/-- Whether a line has spaces and tabs only. -/
def isEmptyLine (line : List (Piece α)) : Bool :=
  line.all (·.isPlain isIndent)

/-- A line above others. Two empty lines become one, unless the second is the last line. -/
def above (line : List (Piece α)) : List (List (Piece α)) → List (List (Piece α))
  | next :: last :: more =>
    if isEmptyLine line && isEmptyLine next then [] :: last :: more
    else line :: next :: last :: more
  | more => line :: more

/-- Lines with every run of empty lines made one. -/
def squeeze (more : List (List (Piece α))) : List (List (Piece α)) :=
  more.foldr above []

/-- Every run of blank lines made one. The first line and the last are in no run. -/
def collapse (row : List (Piece α)) : List (Piece α) :=
  unlines (lines row).1 (squeeze (lines row).2)

/-- The row without blanks at its ends. -/
def trim (row : List (Piece α)) : List (Piece α) :=
  (row.dropWhile (·.isPlain isBlank)).rdropWhile (·.isPlain isBlank)

def tidyRow (row : List (Piece α)) : List (Piece α) :=
  trim (collapse (escape row))

/-! ### Lines -/

@[simp] lemma written_nil : written f [] = [] := rfl

@[simp] lemma written_cons (piece : Piece α) :
    written f (piece :: row) = piece.text f ++ written f row :=
  rfl

@[simp] lemma written_append : written f (a ++ b) = written f a ++ written f b :=
  List.flatMap_append

lemma unlines_lines (row : List (Piece α)) : unlines (lines row).1 (lines row).2 = row := by
  induction row with
  | nil => rfl
  | cons piece row ih =>
    rw [lines]
    split
    case isTrue hfeed =>
      cases piece with
      | plain c =>
        obtain rfl : c = '\n' := by simpa [Piece.isPlain] using hfeed
        exact congrArg (Piece.plain '\n' :: ·) ih
      | found x => cases hfeed
    · exact congrArg (piece :: ·) ih

/-- A piece that is written within a line. -/
def Fits (f : α → Text) : Piece α → Prop
  | .plain c => c ≠ '\n'
  | .found x => InLine (f x)

lemma fits_lines (h : ∀ x, .found x ∈ row → InLine (f x)) :
    (∀ piece ∈ (lines row).1, Fits f piece) ∧
      ∀ line ∈ (lines row).2, ∀ piece ∈ line, Fits f piece := by
  induction row with
  | nil => simp [lines]
  | cons piece row ih =>
    obtain ⟨hfirst, hmore⟩ := ih fun x hx => h x (List.mem_cons_of_mem _ hx)
    rw [lines]
    split
    case isTrue => exact ⟨by simp, List.forall_mem_cons.2 ⟨hfirst, hmore⟩⟩
    case isFalse hfeed =>
      refine ⟨List.forall_mem_cons.2 ⟨?_, hfirst⟩, hmore⟩
      cases piece with
      | plain c => exact fun hc => hfeed (by simp [Piece.isPlain, hc])
      | found x => exact h x List.mem_cons_self

lemma newline_not_mem (h : ∀ piece ∈ line, Fits f piece) : '\n' ∉ written f line := by
  intro hmem
  obtain ⟨piece, hpiece, hmem⟩ := List.mem_flatMap.1 hmem
  have hfits := h piece hpiece
  cases piece with
  | plain c => exact hfits (List.mem_singleton.1 hmem).symm
  | found x => exact hfits.line hmem

lemma isBlank_of_isIndent {c : Char} (h : isIndent c = true) : isBlank c = true := by
  have hblanks : ∀ c ∈ [' ', '\t'], isBlank c = true := List.all_eq_true.1 (by decide)
  exact hblanks c (by simpa [isIndent] using h)

lemma isEmptyLine_iff (h : ∀ piece ∈ line, Fits f piece) :
    isEmptyLine line = true ↔ ∀ c ∈ written f line, isIndent c = true := by
  rw [isEmptyLine, List.all_eq_true, written]
  simp only [List.mem_flatMap, forall_exists_index, and_imp]
  refine ⟨fun hall c piece hpiece hc => ?_, fun hall piece hpiece => ?_⟩
  · have hindent := hall piece hpiece
    cases piece with
    | plain d => rwa [List.mem_singleton.1 hc]
    | found x => cases hindent
  · cases piece with
    | plain d => exact hall d _ hpiece (List.mem_singleton.2 rfl)
    | found x =>
      -- A find does not begin with a blank.
      have hfits : InLine (f x) := h _ hpiece
      obtain ⟨d, v, hx⟩ := List.exists_cons_of_ne_nil hfits.ne_nil
      have hd := hall d _ hpiece (by simp [Piece.text, hx])
      have hnot := hfits.trimmed.1 d (by simp [hx])
      rw [isBlank_of_isIndent hd] at hnot
      cases hnot

/-! ### Blank lines -/

/-- The text of the lines below a line. -/
def below (f : α → Text) (more : List (List (Piece α))) : Text :=
  more.flatMap fun line => '\n' :: written f line

@[simp] lemma below_nil : below f [] = [] := rfl

@[simp] lemma below_cons : below f (line :: more) = '\n' :: (written f line ++ below f more) := rfl

lemma written_unlines : written f (unlines line more) = written f line ++ below f more := by
  rw [unlines, written_append]
  congr 1
  induction more with
  | nil => rfl
  | cons line more ih => simp [ih, Piece.text]

lemma blankLines_of_indent (h : ∀ c ∈ u, isIndent c = true) :
    blankLines (u ++ '\n' :: rest) = ((blankLines rest).1 + 1, (blankLines rest).2) := by
  apply blankLines_of_newline
  rw [List.dropWhile_append_of_pos h]
  rfl

lemma blankLines_of_not_indent (hline : '\n' ∉ u)
    (h : rest = [] ∨ ¬∀ c ∈ u, isIndent c = true) : blankLines (u ++ rest) = (0, u ++ rest) := by
  apply blankLines_of_ne
  intro v hv
  rw [List.dropWhile_append] at hv
  split at hv
  case isTrue hempty =>
    have hall := List.dropWhile_eq_nil_iff.1 (List.isEmpty_iff.1 hempty)
    rcases h with rfl | h
    · cases hv
    · exact h hall
  case isFalse hsome =>
    -- What is left begins with a character of the line.
    obtain ⟨d, w, hd⟩ := List.exists_cons_of_ne_nil (mt List.isEmpty_iff.2 hsome)
    rw [hd, List.cons_append] at hv
    apply hline
    rw [← (List.cons.inj hv).1]
    exact (List.dropWhile_sublist isIndent).subset (by rw [hd]; exact List.mem_cons_self)

/-- The first line that is not empty or has no line below it, and the lines below it. -/
def skipEmpty : List (Piece α) → List (List (Piece α)) → List (Piece α) × List (List (Piece α))
  | line, [] => (line, [])
  | line, next :: more => if isEmptyLine line then skipEmpty next more else (line, next :: more)

lemma skipEmpty_suffix (line : List (Piece α)) (more : List (List (Piece α))) :
    (skipEmpty line more).1 :: (skipEmpty line more).2 <:+ line :: more := by
  induction more generalizing line with
  | nil => exact List.suffix_refl _
  | cons next more ih =>
    rw [skipEmpty]
    split
    · exact (ih next).trans (List.suffix_cons _ _)
    · exact List.suffix_refl _

lemma blankLines_below (hline : ∀ piece ∈ line, Fits f piece)
    (hmore : ∀ line ∈ more, ∀ piece ∈ line, Fits f piece) :
    (blankLines (written f line ++ below f more)).2 =
      written f (skipEmpty line more).1 ++ below f (skipEmpty line more).2 := by
  induction more generalizing line with
  | nil => rw [below_nil, blankLines_of_not_indent (newline_not_mem hline) (.inl rfl)]; rfl
  | cons next more ih =>
    obtain ⟨hnext, hmore⟩ := List.forall_mem_cons.1 hmore
    rw [skipEmpty]
    split
    case isTrue hempty =>
      rw [below_cons, blankLines_of_indent ((isEmptyLine_iff hline).1 hempty)]
      exact ih hnext hmore
    case isFalse hempty =>
      rw [blankLines_of_not_indent (newline_not_mem hline)
        (.inr (mt (isEmptyLine_iff hline).2 hempty))]

lemma squeeze_above (line : List (Piece α)) (more : List (List (Piece α))) :
    squeeze (line :: more) = above line (squeeze more) := rfl

/-- The first line of squeezed lines is empty if that of the lines is. -/
lemma exists_squeeze (a b : List (Piece α)) (more : List (List (Piece α))) :
    ∃ next last rest, squeeze (a :: b :: more) = next :: last :: rest ∧
      isEmptyLine next = isEmptyLine a := by
  induction more generalizing a b with
  | nil => exact ⟨a, b, [], rfl, rfl⟩
  | cons c more ih =>
    obtain ⟨next, last, rest, hsqueeze, -⟩ := ih b c
    rw [squeeze_above, hsqueeze, above]
    split
    case isTrue hempty => exact ⟨_, _, _, rfl, (Bool.and_eq_true_iff.1 hempty).1.symm⟩
    · exact ⟨_, _, _, rfl, rfl⟩

lemma squeeze_cons (h : isEmptyLine a = false ∨ more.length ≤ 1 ∨
    more.head?.any isEmptyLine = false) : squeeze (a :: more) = a :: squeeze more := by
  match more with
  | [] => rfl
  | [b] => rfl
  | b :: c :: more =>
    obtain ⟨next, last, rest, hsqueeze, hnext⟩ := exists_squeeze b c more
    have hone : (isEmptyLine a && isEmptyLine b) = false := by
      rcases h with ha | hlength | hb
      · simp [ha]
      · simp at hlength
      · exact Bool.and_eq_false_imp.2 fun _ => hb
    rw [squeeze_above, hsqueeze, above, hnext, hone]
    rfl

/-- A run of empty lines is one empty line. -/
lemma squeeze_run (ha : isEmptyLine a = true) (hb : isEmptyLine b = true) :
    squeeze (a :: b :: c :: more) =
      [] :: (skipEmpty c more).1 :: squeeze (skipEmpty c more).2 := by
  induction more generalizing a b c with
  | nil => simp [squeeze, above, ha, hb, skipEmpty]
  | cons d more ih =>
    rw [squeeze_above, skipEmpty]
    split
    case isTrue hc => rw [ih hb hc, above, ha]; rfl
    case isFalse hc =>
      have hc : isEmptyLine c = false := by simpa using hc
      have hlines : squeeze (b :: c :: d :: more) = b :: c :: squeeze (d :: more) := by
        rw [@squeeze_cons _ b (c :: d :: more) (.inr (.inr hc)), squeeze_cons (.inl hc)]
      rw [hlines, above, ha, hb]
      rfl

lemma blankRun_below (ha : isEmptyLine a = true) (hb : isEmptyLine b = true)
    (hlines : ∀ line ∈ a :: b :: c :: more, ∀ piece ∈ line, Fits f piece) :
    blankRun before (below f (a :: b :: c :: more)) =
      some ((), written f (skipEmpty c more).1 ++ below f (skipEmpty c more).2) := by
  obtain ⟨hfa, hfb, hfc, hmore⟩ : _ ∧ _ ∧ _ ∧ _ := by simpa only [List.forall_mem_cons] using hlines
  have hcount : blankLines (written f a ++ below f (b :: c :: more)) =
      ((blankLines (written f c ++ below f more)).1 + 2,
        written f (skipEmpty c more).1 ++ below f (skipEmpty c more).2) := by
    rw [below_cons, blankLines_of_indent ((isEmptyLine_iff hfa).1 ha), below_cons,
      blankLines_of_indent ((isEmptyLine_iff hfb).1 hb), blankLines_below hfc hmore]
  rw [below_cons, blankRun]
  simp only [hcount]

lemma blankRun_below_eq_none (h : isEmptyLine a = false ∨ more.length ≤ 1 ∨
    more.head?.any isEmptyLine = false)
    (hlines : ∀ line ∈ a :: more, ∀ piece ∈ line, Fits f piece) :
    blankRun before (below f (a :: more)) = none := by
  obtain ⟨ha, hmore⟩ := List.forall_mem_cons.1 hlines
  have hcount : (blankLines (written f a ++ below f more)).1 ≤ 1 := by
    cases more with
    | nil =>
      rw [below_nil, blankLines_of_not_indent (newline_not_mem ha) (.inl rfl)]
      exact Nat.zero_le _
    | cons b more =>
      obtain ⟨hb, -⟩ := List.forall_mem_cons.1 hmore
      by_cases hempty : isEmptyLine a = true
      · have hlast : below f more = [] ∨ ¬∀ c ∈ written f b, isIndent c = true := by
          rcases h with h | h | h
          · simp [h] at hempty
          · left
            obtain rfl : more = [] := by simpa using h
            rfl
          · right
            rw [← isEmptyLine_iff hb]
            simpa using h
        rw [below_cons, blankLines_of_indent ((isEmptyLine_iff ha).1 hempty),
          blankLines_of_not_indent (newline_not_mem hb) hlast]
      · rw [blankLines_of_not_indent (newline_not_mem ha)
          (.inr (mt (isEmptyLine_iff ha).2 hempty))]
        exact Nat.zero_le _
  rw [below_cons]
  cases hrun : blankRun before ('\n' :: (written f a ++ below f more)) with
  | none => rfl
  | some x =>
    obtain ⟨u, n, heq, hlines⟩ := blankRun_eq_some hrun
    rw [(List.cons.inj heq).2, hlines] at hcount
    omega

lemma exists_of_blankRun {x : Unit} (h : blankRun before u = some (x, rest)) :
    ∃ v, u = '\n' :: v ++ rest := by
  obtain ⟨w, n, rfl, hlines⟩ := blankRun_eq_some h
  obtain ⟨v, hv⟩ := blankLines_suffix w
  rw [hlines] at hv
  exact ⟨v, by rw [← hv, List.cons_append]⟩

/-- No run of blank lines begins within a line. -/
lemma blankRun_in_line (hline : ∀ piece ∈ line, Fits f piece) {w v : Text} {d : Char}
    (hw : written f line = w ++ d :: v) : blankRun before (d :: v ++ rest) = none := by
  have hd : d ≠ '\n' := by
    rintro rfl
    exact newline_not_mem hline (by simp [hw])
  unfold blankRun
  split
  case h_1 heq => exact absurd (List.cons.inj heq).1 hd
  · rfl

/-- Lines are collapsed where they stand in a text. -/
lemma flatMap_pieces_blankRun (hline : ∀ piece ∈ line, Fits f piece)
    (hmore : ∀ line ∈ more, ∀ piece ∈ line, Fits f piece) :
    (pieces blankRun before (written f line ++ below f more)).flatMap
        (Piece.text fun _ => "\n\n".toList) = written f line ++ below f (squeeze more) := by
  induction hn : more.length using Nat.strong_induction_on generalizing line more before with
  | _ n ih =>
  rw [pieces_append_of_none fun w d v hw => blankRun_in_line hline hw, List.flatMap_append,
    List.flatMap_map]
  congr 1
  · exact List.flatMap_singleton' _
  cases more with
  | nil => simp [pieces, squeeze]
  | cons a more =>
    obtain ⟨ha, hrest⟩ := List.forall_mem_cons.1 hmore
    by_cases hone : isEmptyLine a = false ∨ more.length ≤ 1 ∨ more.head?.any isEmptyLine = false
    · have hnone := @blankRun_below_eq_none _ _ _ _ ((written f line).getLast?.or before) hone hmore
      rw [below_cons] at hnone ⊢
      rw [pieces_cons_of_none hnone, squeeze_cons hone, below_cons, List.flatMap_cons,
        ih more.length (by simp [← hn]) ha hrest rfl]
      rfl
    · cases more with
      | nil => simp at hone
      | cons b more =>
      cases more with
      | nil => simp at hone
      | cons c more =>
        have hempty : isEmptyLine a = true ∧ isEmptyLine b = true := by simpa using hone
        have hfound := @blankRun_below _ f _ _ c more ((written f line).getLast?.or before)
          hempty.1 hempty.2 hmore
        have hsuffix := skipEmpty_suffix c more
        have hkept : ∀ line ∈ (skipEmpty c more).1 :: (skipEmpty c more).2,
            ∀ piece ∈ line, Fits f piece := fun line hline =>
          hrest line (List.mem_cons_of_mem _ (hsuffix.mem hline))
        obtain ⟨hfirst, hbelow⟩ := List.forall_mem_cons.1 hkept
        have hlength := hsuffix.length_le
        simp only [List.length_cons] at hlength hn
        obtain ⟨u, hu⟩ := exists_of_blankRun hfound
        rw [hu] at hfound ⊢
        rw [pieces_append_of_found (u := '\n' :: u) hfound (List.cons_ne_nil _ _),
          List.flatMap_cons, ih (skipEmpty c more).2.length (by omega) hfirst hbelow rfl,
          squeeze_run hempty.1 hempty.2]
        rfl

lemma collapseBlankLines_written (h : ∀ x, .found x ∈ row → InLine (f x)) :
    collapseBlankLines (written f row) = written f (collapse row) := by
  obtain ⟨hline, hmore⟩ := fits_lines h
  rw [collapse, written_unlines, ← flatMap_pieces_blankRun hline hmore, ← written_unlines,
    unlines_lines]
  exact replace_eq_flatMap _ _

/-! ### Ends -/

lemma dropWhile_written (h : ∀ x, .found x ∈ row → InLine (f x)) :
    (written f row).dropWhile isBlank = written f (row.dropWhile (·.isPlain isBlank)) := by
  induction row with
  | nil => rfl
  | cons piece row ih =>
    have hrow := ih fun x hx => h x (List.mem_cons_of_mem _ hx)
    cases piece with
    | plain c =>
      by_cases hc : isBlank c = true
      · simpa [Piece.text, Piece.isPlain, hc] using hrow
      · simp [Piece.text, Piece.isPlain, hc]
    | found x =>
      have hx : InLine (f x) := h x List.mem_cons_self
      obtain ⟨d, v, hd⟩ := List.exists_cons_of_ne_nil hx.ne_nil
      have hblank : isBlank d = false := hx.trimmed.1 d (by simp [hd])
      simp [Piece.text, Piece.isPlain, hd, hblank]

lemma rdropWhile_written (h : ∀ x, .found x ∈ row → InLine (f x)) :
    (written f row).rdropWhile isBlank = written f (row.rdropWhile (·.isPlain isBlank)) := by
  induction row using List.reverseRecOn with
  | nil => rfl
  | append_singleton row piece ih =>
    have hrow := ih fun x hx => h x (List.mem_append_left _ hx)
    rw [List.rdropWhile_concat, written_append]
    cases piece with
    | plain c =>
      have hlast : written f [.plain c] = [c] := rfl
      by_cases hc : isBlank c = true
      · rw [hlast, List.rdropWhile_concat_pos _ _ _ hc, hrow, Piece.isPlain_plain, if_pos hc]
      · rw [hlast, List.rdropWhile_concat_neg _ _ _ hc, Piece.isPlain_plain, if_neg hc,
          written_append, hlast]
    | found x =>
      have hx : InLine (f x) := h x (by simp)
      have hlast : written f [.found x] = f x := List.append_nil _
      simp only [Piece.isPlain, Bool.false_eq_true, if_false, written_append, hlast]
      rw [List.rdropWhile_eq_self_iff]
      intro hne
      have hend : (written f row ++ f x).getLast hne = (f x).getLast hx.ne_nil :=
        List.getLast_append_of_ne_nil _ _
      rw [hend, hx.trimmed.2 _ (List.getLast?_eq_getLast_of_ne_nil hx.ne_nil)]
      exact Bool.false_ne_true

lemma strip_written (h : ∀ x, .found x ∈ row → InLine (f x)) :
    strip (written f row) = written f (trim row) := by
  have hdrop : ∀ x, .found x ∈ row.dropWhile (·.isPlain isBlank) → InLine (f x) :=
    fun x hx => h x ((List.dropWhile_sublist _).subset hx)
  rw [trim, ← rdropWhile_written hdrop, ← dropWhile_written h]
  rfl

/-! ### Angle brackets -/

lemma escapeAngles_append (u v : Text) :
    escapeAngles (u ++ v) = escapeAngles u ++ escapeAngles v :=
  List.flatMap_append

lemma replacePlain_cons (d : Char) (image : Text) (piece : Piece α) (row : List (Piece α)) :
    replacePlain d image (piece :: row) =
      replacePlain d image [piece] ++ replacePlain d image row := by
  simp [replacePlain]

lemma escapeAngles_written (hplain : .plain '<' ∉ row)
    (h : ∀ x, .found x ∈ row → ∀ c ∈ f x, c ≠ '<' ∧ c ≠ '>') :
    escapeAngles (written f row) = written f (escape row) := by
  induction row with
  | nil => rfl
  | cons piece row ih =>
    have hrow := ih (fun hmem => hplain (List.mem_cons_of_mem _ hmem))
      fun x hx => h x (List.mem_cons_of_mem _ hx)
    have hcons : escape (piece :: row) = escape [piece] ++ escape row := replacePlain_cons ..
    rw [written_cons, escapeAngles_append, hrow, hcons, written_append]
    congr 1
    cases piece with
    | plain c =>
      have hlt : c ≠ '<' := fun hc => hplain (hc ▸ List.mem_cons_self)
      by_cases hc : c = '>'
      · simp [escape, replacePlain, Piece.isPlain, Piece.text, escapeAngles, hc]
      · simp [escape, replacePlain, Piece.isPlain, Piece.text, escapeAngles, hc, hlt]
    | found x =>
      rw [Piece.text, escapeAngles_eq_self (h x List.mem_cons_self)]
      simp [escape, replacePlain, Piece.isPlain, Piece.text]

/-! ### Finds -/

/-- The finds of a row, from left to right. -/
def findsOf (row : List (Piece α)) : List α :=
  row.filterMap Piece.found?

@[simp] lemma findsOf_plain (c : Char) : findsOf (.plain c :: row) = findsOf row := rfl

@[simp] lemma findsOf_found (x : α) : findsOf (.found x :: row) = x :: findsOf row := rfl

lemma mem_findsOf {x : α} : x ∈ findsOf row ↔ .found x ∈ row := by
  rw [findsOf, List.mem_filterMap]
  constructor
  · rintro ⟨piece, hpiece, hfound⟩
    cases piece with
    | plain c => cases hfound
    | found y => rwa [← Option.some.inj hfound]
  · exact fun h => ⟨_, h, rfl⟩

lemma findsOf_eq_nil {p : Char → Bool} (h : ∀ piece ∈ row, piece.isPlain p = true) :
    findsOf row = [] := by
  rw [findsOf, List.filterMap_eq_nil_iff]
  intro piece hpiece
  cases piece with
  | plain c => rfl
  | found x => exact absurd (h _ hpiece) (by simp)

lemma findsOf_append : findsOf (a ++ b) = findsOf a ++ findsOf b :=
  List.filterMap_append

lemma findsOf_map_plain (t : Text) : findsOf (t.map (Piece.plain (α := α))) = [] :=
  findsOf_eq_nil (p := fun _ => true) (by simp)

lemma findsOf_unlines : findsOf (unlines line more) = findsOf line ++ more.flatMap findsOf := by
  rw [unlines, findsOf_append]
  exact congrArg _ List.filterMap_flatMap

lemma findsOf_replacePlain (d : Char) (image : Text) (row : List (Piece α)) :
    findsOf (replacePlain d image row) = findsOf row := by
  induction row with
  | nil => rfl
  | cons piece row ih =>
    have hone : findsOf (replacePlain d image [piece]) = findsOf [piece] := by
      cases piece with
      | plain c =>
        by_cases hc : c = d
        · have himage : replacePlain d image [.plain c] = image.map (Piece.plain (α := α)) := by
            simp [replacePlain, hc]
          rw [himage, findsOf_map_plain]
          rfl
        · simp [replacePlain, hc]
      | found x => rfl
    rw [replacePlain_cons, findsOf_append, hone, ih, ← findsOf_append]
    rfl

lemma findsOf_escape (row : List (Piece α)) : findsOf (escape row) = findsOf row :=
  findsOf_replacePlain '>' "&gt;".toList row

lemma flatMap_findsOf_above (line : List (Piece α)) (more : List (List (Piece α))) :
    (above line more).flatMap findsOf = findsOf line ++ more.flatMap findsOf := by
  unfold above
  split
  case h_1 next last more =>
    split
    case isTrue hempty =>
      obtain ⟨hline, hnext⟩ := Bool.and_eq_true_iff.1 hempty
      simp only [List.flatMap_cons, findsOf_eq_nil (List.all_eq_true.1 hline),
        findsOf_eq_nil (List.all_eq_true.1 hnext)]
      rfl
    · rfl
  · rfl

lemma flatMap_findsOf_squeeze (more : List (List (Piece α))) :
    (squeeze more).flatMap findsOf = more.flatMap findsOf := by
  induction more with
  | nil => rfl
  | cons line more ih => rw [squeeze_above, flatMap_findsOf_above, ih, List.flatMap_cons]

lemma findsOf_collapse (row : List (Piece α)) : findsOf (collapse row) = findsOf row := by
  conv_rhs => rw [← unlines_lines row]
  rw [collapse, findsOf_unlines, flatMap_findsOf_squeeze, findsOf_unlines]

lemma findsOf_trim (row : List (Piece α)) : findsOf (trim row) = findsOf row := by
  have hleft (row : List (Piece α)) :
      findsOf (row.dropWhile (·.isPlain isBlank)) = findsOf row := by
    conv_rhs => rw [← List.takeWhile_append_dropWhile (p := (·.isPlain isBlank)) (l := row)]
    rw [findsOf_append, findsOf_eq_nil fun piece => List.mem_takeWhile_imp, List.nil_append]
  have hreverse (row : List (Piece α)) : findsOf row.reverse = (findsOf row).reverse :=
    List.filterMap_reverse
  rw [trim, List.rdropWhile, hreverse, hleft, hreverse, List.reverse_reverse, hleft]

/-- No find is lost, and their order stays. -/
theorem findsOf_tidyRow (row : List (Piece α)) : findsOf (tidyRow row) = findsOf row := by
  rw [tidyRow, findsOf_trim, findsOf_collapse, findsOf_escape]

lemma mem_squeeze (h : line ∈ squeeze more) : line ∈ more ∨ line = [] := by
  have habove {next : List (Piece α)} {more : List (List (Piece α))}
      (h : line ∈ above next more) : line = next ∨ line ∈ more ∨ line = [] := by
    unfold above at h
    split at h
    · split at h <;> simp only [List.mem_cons] at h ⊢ <;> tauto
    · exact (List.mem_cons.1 h).imp_right .inl
  induction more with
  | nil => exact .inl h
  | cons next more ih =>
    rw [squeeze_above] at h
    rcases habove h with rfl | h | rfl
    · exact .inl List.mem_cons_self
    · exact (ih h).imp_left (List.mem_cons_of_mem _)
    · exact .inr rfl

lemma mem_unlines {piece : Piece α} : piece ∈ unlines line more ↔
    piece ∈ line ∨ ∃ next ∈ more, piece = .plain '\n' ∨ piece ∈ next := by
  simp [unlines]

lemma mem_collapse {piece : Piece α} (h : piece ∈ collapse row) :
    piece ∈ row ∨ piece = .plain '\n' := by
  rw [← unlines_lines row]
  rcases mem_unlines.1 h with h | ⟨next, hnext, h | h⟩
  · exact .inl (mem_unlines.2 (.inl h))
  · exact .inr h
  · rcases mem_squeeze hnext with hmem | rfl
    · exact .inl (mem_unlines.2 (.inr ⟨next, hmem, .inr h⟩))
    · cases h

lemma mem_replacePlain {d : Char} {image : Text} {piece : Piece α}
    (h : piece ∈ replacePlain d image row) : piece ∈ row ∨ ∃ c ∈ image, piece = .plain c := by
  obtain ⟨other, hother, h⟩ := List.mem_flatMap.1 h
  split at h
  · obtain ⟨c, hc, rfl⟩ := List.mem_map.1 h
    exact .inr ⟨c, hc, rfl⟩
  · rw [List.mem_singleton.1 h]
    exact .inl hother

lemma mem_escape {piece : Piece α} (h : piece ∈ escape row) :
    piece ∈ row ∨ ∃ c ∈ "&gt;".toList, piece = .plain c :=
  @mem_replacePlain _ _ '>' _ _ h

lemma mem_tidyRow {piece : Piece α} (h : piece ∈ tidyRow row) :
    piece ∈ row ∨ ∃ c ∈ "\n&gt;".toList, piece = .plain c := by
  have hcollapse : piece ∈ collapse (escape row) :=
    (List.dropWhile_sublist _).subset ((List.rdropWhile_prefix _ _).sublist.subset h)
  rcases mem_collapse hcollapse with h | rfl
  · refine (mem_escape h).imp_right ?_
    rintro ⟨c, hc, rfl⟩
    exact ⟨c, List.mem_cons_of_mem _ hc, rfl⟩
  · exact .inr ⟨'\n', by simp, rfl⟩

/-- Tidying a written row is writing the tidy row. -/
theorem tidy_written (hplain : .plain '<' ∉ row) (h : ∀ x, .found x ∈ row → InLine (f x))
    (hangles : ∀ x, .found x ∈ row → ∀ c ∈ f x, c ≠ '<' ∧ c ≠ '>') :
    tidy (written f row) = written f (tidyRow row) := by
  have hescape : ∀ x, .found x ∈ escape row → InLine (f x) := fun x hx =>
    h x (by rwa [← mem_findsOf, ← findsOf_escape, mem_findsOf])
  have hcollapse : ∀ x, .found x ∈ collapse (escape row) → InLine (f x) := fun x hx =>
    hescape x (by rwa [← mem_findsOf, ← findsOf_collapse, mem_findsOf])
  rw [tidy, escapeAngles_written hplain hangles, collapseBlankLines_written hescape,
    strip_written hcollapse, tidyRow]

/-! ### Other finds -/

lemma written_map (g : α → β) (f : β → Text) (row : List (Piece α)) :
    written f (row.map (Piece.map g)) = written (fun x => f (g x)) row := by
  rw [written, List.flatMap_map]
  congr 1
  funext piece
  cases piece <;> rfl

@[simp] lemma isPlain_map (g : α → β) (p : Char → Bool) (piece : Piece α) :
    (piece.map g).isPlain p = piece.isPlain p := by
  cases piece <;> rfl

lemma map_plain_map (g : α → β) (t : Text) :
    (t.map .plain).map (Piece.map g) = t.map .plain := by
  rw [List.map_map]
  rfl

lemma replacePlain_map (d : Char) (image : Text) (g : α → β) (row : List (Piece α)) :
    replacePlain d image (row.map (Piece.map g)) =
      (replacePlain d image row).map (Piece.map g) := by
  rw [replacePlain, replacePlain, List.flatMap_map, List.map_flatMap]
  congr 1
  funext piece
  rw [isPlain_map]
  split
  · exact (map_plain_map g image).symm
  · rfl

lemma escape_map (g : α → β) (row : List (Piece α)) :
    escape (row.map (Piece.map g)) = (escape row).map (Piece.map g) :=
  replacePlain_map '>' "&gt;".toList g row

lemma lines_map (g : α → β) (row : List (Piece α)) :
    lines (row.map (Piece.map g)) =
      ((lines row).1.map (Piece.map g), (lines row).2.map (List.map (Piece.map g))) := by
  induction row with
  | nil => rfl
  | cons piece row ih =>
    rw [List.map_cons, lines, lines, isPlain_map, ih]
    split <;> rfl

lemma isEmptyLine_map (g : α → β) (line : List (Piece α)) :
    isEmptyLine (line.map (Piece.map g)) = isEmptyLine line := by
  simp [isEmptyLine, List.all_map, Function.comp_def]

lemma squeeze_map (g : α → β) (more : List (List (Piece α))) :
    squeeze (more.map (List.map (Piece.map g))) =
      (squeeze more).map (List.map (Piece.map g)) := by
  induction more with
  | nil => rfl
  | cons line more ih =>
    rw [List.map_cons, squeeze_above, ih, squeeze_above]
    match squeeze more with
    | [] => rfl
    | [next] => rfl
    | next :: last :: rest =>
      simp only [above, List.map_cons, isEmptyLine_map]
      split <;> rfl

lemma collapse_map (g : α → β) (row : List (Piece α)) :
    collapse (row.map (Piece.map g)) = (collapse row).map (Piece.map g) := by
  rw [collapse, collapse, lines_map, squeeze_map, unlines, unlines, List.map_append,
    List.flatMap_map, List.map_flatMap]
  rfl

lemma trim_map (g : α → β) (row : List (Piece α)) :
    trim (row.map (Piece.map g)) = (trim row).map (Piece.map g) := by
  have hplain : (fun piece : Piece β => piece.isPlain isBlank) ∘ Piece.map g =
      (·.isPlain isBlank) := by
    funext piece
    exact isPlain_map g isBlank piece
  simp only [trim, List.rdropWhile, List.dropWhile_map, ← List.map_reverse, hplain]

/-- What the finds are does not matter. -/
theorem tidyRow_map (g : α → β) (row : List (Piece α)) :
    tidyRow (row.map (Piece.map g)) = (tidyRow row).map (Piece.map g) := by
  rw [tidyRow, escape_map, collapse_map, trim_map, tidyRow]

/-- A row that is mapped to joined parts is joined from parts, if every part is mapped from one. -/
lemma exists_flatMap_of_map {γ δ : Type} {φ : α → β} {ψ : γ → δ} {parts : γ → List α}
    {images : δ → List β}
    (hone : ∀ (row : List α) y, row.map φ = images y → ∃ x, parts x = row ∧ ψ x = y)
    {row : List α} {ys : List δ} (h : row.map φ = ys.flatMap images) :
    ∃ xs : List γ, xs.flatMap parts = row ∧ xs.map ψ = ys := by
  induction ys generalizing row with
  | nil => exact ⟨[], (List.map_eq_nil_iff.1 h).symm, rfl⟩
  | cons y ys ih =>
    obtain ⟨first, rest, rfl, hfirst, hrest⟩ := List.map_eq_append_iff.1 h
    obtain ⟨x, rfl, rfl⟩ := hone first y hfirst
    obtain ⟨xs, rfl, rfl⟩ := ih hrest
    exact ⟨x :: xs, rfl, rfl⟩

end LinkedDocs.Markup
