import Mathlib.Data.List.DropRight
import Mathlib.Data.List.TakeWhile
import LinkedDocs.Markup.Render
import LinkedDocs.Proofs.Cutting

/-!
# Texts without runs of blank lines and without blanks at their ends

Collapsing the blank lines of a text makes it calm, and a calm text has none to be collapsed. The
same holds of the blanks at its ends. A stretch without line feeds counts like a single character
here.
-/

namespace LinkedDocs.Markup

open Text

variable {t u rest : Text} {before : Option Char} {k j : Nat} {c : Char}

/-! ### Blank lines -/

/-- Nowhere do three line feeds follow each other with only spaces and tabs between them, `k` of
them having come before. -/
def Calm : Nat → Text → Prop
  | _, [] => True
  | k, c :: t =>
    if c = '\n' then k < 2 ∧ Calm (k + 1) t else if isIndent c then Calm k t else Calm 0 t

lemma Calm.mono (h : Calm k t) (hj : j ≤ k) : Calm j t := by
  induction t generalizing k j with
  | nil => trivial
  | cons c t ih =>
    unfold Calm at h ⊢
    split
    case isTrue hc =>
      rw [if_pos hc] at h
      exact ⟨by omega, ih h.2 (by omega)⟩
    case isFalse hc =>
      rw [if_neg hc] at h
      split
      case isTrue hindent =>
        rw [if_pos hindent] at h
        exact ih h hj
      case isFalse hindent =>
        rw [if_neg hindent] at h
        exact h

lemma Calm.tail (h : Calm k (c :: t)) : Calm 0 t := by
  unfold Calm at h
  split at h
  · exact h.2.mono (Nat.zero_le _)
  · split at h
    · exact h.mono (Nat.zero_le _)
    · exact h

lemma Calm.of_append_right (h : Calm k (u ++ t)) : Calm 0 t := by
  induction u generalizing k with
  | nil => exact h.mono (Nat.zero_le _)
  | cons c u ih => exact ih h.tail

lemma Calm.of_append_left (h : Calm k (t ++ u)) : Calm k t := by
  induction t generalizing k with
  | nil => trivial
  | cons c t ih =>
    rw [List.cons_append] at h
    unfold Calm at h ⊢
    split
    case isTrue hc =>
      rw [if_pos hc] at h
      exact ⟨h.1, ih h.2⟩
    case isFalse hc =>
      rw [if_neg hc] at h
      split
      case isTrue hindent =>
        rw [if_pos hindent] at h
        exact ih h
      case isFalse hindent =>
        rw [if_neg hindent] at h
        exact ih h

lemma calm_dropWhile_isIndent : Calm k (t.dropWhile isIndent) ↔ Calm k t := by
  induction t with
  | nil => rfl
  | cons c t ih =>
    by_cases hc : isIndent c = true
    · have hnl : c ≠ '\n' := by
        rintro rfl
        exact absurd hc (by decide)
      rw [List.dropWhile_cons_of_pos hc, ih, Calm, if_neg hnl, if_pos hc]
    · rw [List.dropWhile_cons_of_neg hc]

lemma blankLines_of_newline (h : t.dropWhile isIndent = '\n' :: rest) :
    blankLines t = ((blankLines rest).1 + 1, (blankLines rest).2) := by
  rw [blankLines]
  split
  case h_1 rest' heq =>
    obtain ⟨-, rfl⟩ := List.cons.inj (h.symm.trans heq)
    rfl
  case h_2 hne => exact absurd h (hne rest)

lemma blankLines_of_ne (h : ∀ rest, t.dropWhile isIndent ≠ '\n' :: rest) :
    blankLines t = (0, t) := by
  rw [blankLines]
  split
  case h_1 rest heq => exact absurd heq (h rest)
  · rfl

lemma blankLines_newline (t : Text) :
    blankLines ('\n' :: t) = ((blankLines t).1 + 1, (blankLines t).2) :=
  blankLines_of_newline rfl

lemma blankLines_indent (hc : isIndent c = true) : (blankLines (c :: t)).1 = (blankLines t).1 := by
  have hdrop : (c :: t).dropWhile isIndent = t.dropWhile isIndent := List.dropWhile_cons_of_pos hc
  by_cases h : ∃ rest, t.dropWhile isIndent = '\n' :: rest
  · obtain ⟨rest, hrest⟩ := h
    rw [blankLines_of_newline (hdrop.trans hrest), blankLines_of_newline hrest]
  · have hne : ∀ rest, t.dropWhile isIndent ≠ '\n' :: rest := fun rest hrest => h ⟨rest, hrest⟩
    rw [blankLines_of_ne (hdrop ▸ hne), blankLines_of_ne hne]

/-- Behind the blank lines there is no further one. -/
lemma blankLines_blankLines (t : Text) : (blankLines (blankLines t).2).1 = 0 := by
  fun_induction blankLines t with
  | case1 t rest hdrop n after hlines ih => rwa [hlines] at ih
  | case2 t hne => rw [blankLines_of_ne hne]

lemma Calm.blankLines_le (h : Calm k t) (hk : k ≤ 2) : k + (blankLines t).1 ≤ 2 := by
  fun_induction blankLines t generalizing k with
  | case1 t rest hdrop n after hlines ih =>
    rw [← calm_dropWhile_isIndent, hdrop] at h
    unfold Calm at h
    rw [if_pos rfl] at h
    have hrest := ih h.2 (by omega)
    rw [hlines] at hrest
    dsimp only at hrest ⊢
    omega
  | case2 => exact hk

lemma blankRun_eq_some {x : Unit} (h : blankRun before t = some (x, rest)) :
    ∃ u n, t = '\n' :: u ∧ blankLines u = (n + 2, rest) := by
  unfold blankRun at h
  split at h
  case h_1 u =>
    split at h
    case h_1 n after hlines =>
      obtain ⟨-, rfl⟩ := Prod.mk.inj (Option.some.inj h)
      exact ⟨u, n, rfl, hlines⟩
    · cases h
  · cases h

lemma blankLines_le_of_blankRun (h : blankRun before ('\n' :: t) = none) :
    (blankLines t).1 ≤ 1 := by
  unfold blankRun at h
  cases hlines : blankLines t with
  | mk n after =>
    match n with
    | 0 => simp
    | 1 => simp
    | n + 2 => simp [hlines] at h

lemma blankLines_suffix (t : Text) : (blankLines t).2 <:+ t := by
  fun_induction blankLines t with
  | case1 t rest hdrop n after hlines ih =>
    have hrest : '\n' :: rest <:+ t := hdrop ▸ List.dropWhile_suffix _
    rw [hlines] at ih
    exact ih.trans ((List.suffix_cons _ _).trans hrest)
  | case2 => exact List.suffix_refl _

lemma blankRun_suffix {x : Unit} (h : blankRun before t = some (x, rest)) : rest <:+ t := by
  obtain ⟨u, n, rfl, hlines⟩ := blankRun_eq_some h
  have hsuffix := blankLines_suffix u
  rw [hlines] at hsuffix
  exact hsuffix.trans (List.suffix_cons _ _)

/-- Collapsing blank lines makes a text calm. -/
lemma calm_collapseBlankLines (t : Text) : Calm 0 (collapseBlankLines t) := by
  -- Behind line feeds there are only as many blank lines as a calm text can have.
  have hpieces (before : Option Char) (t : Text) (k : Nat) (hk : k = 0 ∨ k + (blankLines t).1 ≤ 2) :
      Calm k ((pieces blankRun before t).flatMap (Piece.text fun _ => "\n\n".toList)) := by
    fun_induction pieces blankRun before t generalizing k with
    | case1 => trivial
    | case2 before c t x rest hfound hlen ih =>
      obtain ⟨u, n, heq, hlines⟩ := blankRun_eq_some hfound
      obtain ⟨rfl, rfl⟩ := List.cons.inj heq
      have hrest : (blankLines rest).1 = 0 := by
        have hzero := blankLines_blankLines t
        rwa [hlines] at hzero
      obtain rfl : k = 0 := by
        rw [blankLines_newline, hlines] at hk
        dsimp only at hk
        omega
      exact ⟨by decide, by decide, ih 2 (by omega)⟩
    | case3 before c t x rest hfound hlen ih =>
      obtain ⟨u, n, heq, hlines⟩ := blankRun_eq_some hfound
      obtain ⟨rfl, rfl⟩ := List.cons.inj heq
      have hsuffix := blankLines_suffix t
      rw [hlines] at hsuffix
      exact absurd hsuffix.length_le hlen
    | case4 before c t hnone ih =>
      rw [List.flatMap_cons, Piece.text, List.singleton_append, Calm]
      split
      case isTrue hc =>
        subst hc
        have hle := blankLines_le_of_blankRun hnone
        rw [blankLines_newline] at hk
        dsimp only at hk
        exact ⟨by omega, ih (k + 1) (by omega)⟩
      case isFalse hc =>
        split
        case isTrue hindent =>
          rw [blankLines_indent hindent] at hk
          exact ih k hk
        · exact ih 0 (.inl rfl)
  exact hpieces none t 0 (.inl rfl)

/-- A calm text has no blank lines to be collapsed. -/
lemma Calm.collapseBlankLines (h : Calm 0 t) : Markup.collapseBlankLines t = t := by
  refine replace_eq_self _ (pieces_eq_map_of_none fun a c v ht => ?_)
  rw [ht] at h
  have hplace := h.of_append_right
  by_cases hc : c = '\n'
  · subst hc
    unfold Calm at hplace
    rw [if_pos rfl] at hplace
    have hle := hplace.2.blankLines_le (by omega)
    rw [← Option.not_isSome_iff_eq_none, Option.isSome_iff_exists]
    rintro ⟨⟨x, rest⟩, hrun⟩
    obtain ⟨u, n, heq, hlines⟩ := blankRun_eq_some hrun
    rw [(List.cons.inj heq).2, hlines] at hle
    dsimp only at hle
    omega
  · unfold blankRun
    split
    case h_1 heq => exact absurd (List.cons.inj heq).1 hc
    · rfl

/-! ### Blanks at the ends -/

section Trimming

variable {α : Type} {p : α → Bool} {l a b : List α}

/-- The list neither begins nor ends with an element that is to be dropped. -/
def TrimmedBy (p : α → Bool) (l : List α) : Prop :=
  (∀ x ∈ l.head?, p x = false) ∧ ∀ x ∈ l.getLast?, p x = false

/-- Nothing else is dropped from the ends of a list. -/
lemma exists_trim (p : α → Bool) (l : List α) : ∃ a b : List α,
    l = a ++ (l.dropWhile p).rdropWhile p ++ b ∧ (∀ x ∈ a, p x = true) ∧ ∀ x ∈ b, p x = true := by
  refine ⟨l.takeWhile p, (l.dropWhile p).rtakeWhile p, ?_, fun x => List.mem_takeWhile_imp,
    fun x => List.mem_rtakeWhile_imp⟩
  rw [List.append_assoc, List.rdropWhile_append_rtakeWhile, List.takeWhile_append_dropWhile]

lemma trimmedBy_trim (p : α → Bool) (l : List α) : TrimmedBy p ((l.dropWhile p).rdropWhile p) := by
  have hhead {l : List α} {x : α} (hx : (l.dropWhile p).head? = some x) : p x = false := by
    have hnot := List.head?_dropWhile_not p l
    rw [hx] at hnot
    exact hnot
  constructor
  · intro x hx
    -- What is left begins as the list without its first elements does.
    obtain ⟨v, hv⟩ := List.rdropWhile_prefix p (l.dropWhile p)
    refine hhead (l := l) ?_
    rw [← hv, List.head?_append, Option.mem_def.1 hx]
    rfl
  · intro x hx
    rw [List.rdropWhile, List.getLast?_reverse] at hx
    exact hhead hx

/-- What is to be dropped is dropped from both ends of a list. -/
lemma TrimmedBy.trim_between (h : TrimmedBy p l) (ha : ∀ x ∈ a, p x = true)
    (hb : ∀ x ∈ b, p x = true) : ((a ++ l ++ b).dropWhile p).rdropWhile p = l := by
  have hback : (l ++ b).rdropWhile p = l := by
    rw [List.rdropWhile, List.reverse_append,
      List.dropWhile_append_of_pos fun x hx => hb x (List.mem_reverse.1 hx)]
    refine List.rdropWhile_eq_self_iff.2 fun hne => ?_
    rw [h.2 _ (List.getLast?_eq_some_getLast hne)]
    exact Bool.false_ne_true
  rw [List.append_assoc, List.dropWhile_append_of_pos ha]
  cases l with
  | nil => rw [List.dropWhile_eq_nil_iff.2 (by simpa using hb), List.rdropWhile_nil]
  | cons x l =>
    rw [List.cons_append, List.dropWhile_cons_of_neg (by simp [h.1 x rfl]), ← List.cons_append,
      hback]

end Trimming

/-- A text that neither begins nor ends with a blank. -/
def Trimmed (t : Text) : Prop :=
  (∀ c ∈ t.head?, isBlank c = false) ∧ ∀ c ∈ t.getLast?, isBlank c = false

-- The instances are named: characters are finitely many, and a search may pick trying them all.
instance : DecidablePred Trimmed := fun t =>
  @instDecidableAnd _ _ (Option.decidableForallMem t.head?) (Option.decidableForallMem t.getLast?)

/-- A text without leading blanks is what is left of it when stripped, and blanks. -/
lemma exists_stripLeft_eq (t : Text) :
    ∃ gap, stripLeft t = strip t ++ gap ∧ ∀ c ∈ gap, isBlank c = true :=
  ⟨(stripLeft t).rtakeWhile isBlank, (List.rdropWhile_append_rtakeWhile ..).symm,
    fun _ => List.mem_rtakeWhile_imp⟩

/-- Only blanks are dropped. -/
lemma exists_strip (t : Text) : ∃ a b : Text, t = a ++ strip t ++ b ∧
    (∀ c ∈ a, isBlank c = true) ∧ ∀ c ∈ b, isBlank c = true :=
  exists_trim isBlank t

lemma isInfix_strip (t : Text) : strip t <:+: t := by
  obtain ⟨a, b, ht, -⟩ := exists_strip t
  exact ⟨a, b, ht.symm⟩

lemma trimmed_strip (t : Text) : Trimmed (strip t) :=
  trimmedBy_trim isBlank t

/-- Blanks around a text are dropped. -/
lemma Trimmed.strip_between {a b : Text} (h : Trimmed t) (ha : ∀ c ∈ a, isBlank c = true)
    (hb : ∀ c ∈ b, isBlank c = true) : Text.strip (a ++ t ++ b) = t :=
  TrimmedBy.trim_between h ha hb

lemma Trimmed.strip (h : Trimmed t) : Text.strip t = t := by
  simpa using h.strip_between (List.forall_mem_nil _) (List.forall_mem_nil _)

/-! ### Stretches within a line -/

/-- A text within a line that neither begins nor ends with a blank. -/
structure InLine (t : Text) : Prop where
  ne_nil : t ≠ []
  line : '\n' ∉ t
  trimmed : Trimmed t

instance : DecidablePred InLine := fun t =>
  decidable_of_iff (t ≠ [] ∧ '\n' ∉ t ∧ Trimmed t)
    ⟨fun h => ⟨h.1, h.2.1, h.2.2⟩, fun h => ⟨h.ne_nil, h.line, h.trimmed⟩⟩

/-- After such a text no line feeds count. -/
lemma InLine.calm_append (h : InLine u) : Calm k (u ++ t) ↔ Calm 0 t := by
  have hline (u : Text) (hnl : '\n' ∉ u) : Calm 0 (u ++ t) ↔ Calm 0 t := by
    induction u with
    | nil => rfl
    | cons c u ih =>
      have hc : c ≠ '\n' := fun hc => hnl (hc ▸ List.mem_cons_self)
      have hu := ih fun hmem => hnl (List.mem_cons_of_mem _ hmem)
      rw [List.cons_append, Calm, if_neg hc]
      split <;> exact hu
  obtain ⟨c, u, rfl⟩ := List.exists_cons_of_ne_nil h.ne_nil
  have hblank : isBlank c = false := h.trimmed.1 c rfl
  have hnl : c ≠ '\n' := fun hc => h.line (hc ▸ List.mem_cons_self)
  have hindent : isIndent c = false := by
    have hblanks : [' ', '\t'].all isBlank = true := by decide
    rw [Bool.eq_false_iff]
    intro hc
    have hmem : c ∈ [' ', '\t'] := by simpa [isIndent] using hc
    simp [List.all_eq_true.1 hblanks c hmem] at hblank
  rw [List.cons_append, Calm, if_neg hnl, hindent]
  exact hline u fun hmem => h.line (List.mem_cons_of_mem _ hmem)

section

variable {α : Type} {xs : List α} {f : α → Text} {g : α → Char}

lemma calm_flatMap_iff (h : ∀ x ∈ xs, f x = [g x] ∨ InLine (f x) ∧ InLine [g x]) :
    Calm k (xs.flatMap f) ↔ Calm k (xs.map g) := by
  induction xs generalizing k with
  | nil => rfl
  | cons x xs ih =>
    have hrest {k : Nat} : Calm k (xs.flatMap f) ↔ Calm k (xs.map g) :=
      ih fun y hy => h y (List.mem_cons_of_mem _ hy)
    rw [List.flatMap_cons, List.map_cons]
    rcases h x List.mem_cons_self with hx | ⟨hf, hg⟩
    · rw [hx, List.singleton_append, Calm, Calm, hrest, hrest, hrest]
    · rw [hf.calm_append, ← List.singleton_append, hg.calm_append, hrest]

lemma trimmed_flatMap_iff (h : ∀ x ∈ xs, f x = [g x] ∨ InLine (f x) ∧ InLine [g x]) :
    Trimmed (xs.flatMap f) ↔ Trimmed (xs.map g) := by
  have hends {x : α} (hx : x ∈ xs) :
      ((∀ c ∈ (f x).head?, isBlank c = false) ↔ isBlank (g x) = false) ∧
        ((∀ c ∈ (f x).getLast?, isBlank c = false) ↔ isBlank (g x) = false) ∧ f x ≠ [] := by
    rcases h x hx with heq | ⟨hf, hg⟩
    · simp [heq]
    · have hblank : isBlank (g x) = false := hg.trimmed.1 _ rfl
      exact ⟨iff_of_true hf.trimmed.1 hblank, iff_of_true hf.trimmed.2 hblank, hf.ne_nil⟩
  refine and_congr ?_ ?_
  · cases xs with
    | nil => rfl
    | cons x xs =>
      obtain ⟨hhead, -, hne⟩ := hends List.mem_cons_self
      have hfirst : ((x :: xs).flatMap f).head? = (f x).head? := by
        rw [List.flatMap_cons, List.head?_append_of_ne_nil _ hne]
      rw [hfirst, hhead]
      simp
  · rcases List.eq_nil_or_concat xs with rfl | ⟨ys, x, rfl⟩
    · rfl
    · obtain ⟨-, hlast, hne⟩ := hends (x := x) (by simp)
      have hend : ((ys.concat x).flatMap f).getLast? = (f x).getLast? := by
        rw [List.concat_eq_append, List.flatMap_append, List.flatMap_singleton,
          List.getLast?_append_of_ne_nil _ hne]
      rw [hend, hlast]
      simp

/-- A text that has been laid out. -/
structure Laid (t : Text) : Prop where
  calm : Calm 0 t
  trimmed : Trimmed t

/-- A text of stretches is laid out if the text is that has one character for each stretch. -/
lemma laid_flatMap_iff (h : ∀ x ∈ xs, f x = [g x] ∨ InLine (f x) ∧ InLine [g x]) :
    Laid (xs.flatMap f) ↔ Laid (xs.map g) :=
  ⟨fun ht => ⟨(calm_flatMap_iff h).1 ht.calm, (trimmed_flatMap_iff h).1 ht.trimmed⟩,
    fun ht => ⟨(calm_flatMap_iff h).2 ht.calm, (trimmed_flatMap_iff h).2 ht.trimmed⟩⟩

end

end LinkedDocs.Markup
