import LinkedDocs.Proofs.Depth
import LinkedDocs.Proofs.Layout

/-!
# Names without their arguments

A list of generic arguments may have other lists in it, to any depth. Lists without a list in them
are dropped until there are none. So every spelling of a generic type has the name of the type for
its normal form, whether it is written with its arguments or with their number.
-/

namespace LinkedDocs.Symbol

open Text Markup

/-- A text in which brackets come in pairs: single characters, and lists enclosed by brackets of
either style. No parameter list begins in it. -/
inductive Nested where
  | nil
  | char (c : Char) (plain : c ∉ [ '(', '<', '>', '{', '}']) (rest : Nested)
  | list (style : Brackets) (inner rest : Nested)

namespace Nested

def text : Nested → Text
  | .nil => []
  | .char c _ rest => c :: rest.text
  | .list style inner rest => style.enclose inner.text ++ rest.text

variable {c : Char}

lemma isBracket_of_plain (h : c ∉ [ '(', '<', '>', '{', '}']) : isBracket c = false := by
  simp only [List.mem_cons, not_or] at h
  simp [isBracket, isOpenBracket, isCloseBracket, h]

lemma parameter_not_mem (t : Nested) : '(' ∉ t.text := by
  induction t with
  | nil => simp [text]
  | char c plain rest ih =>
    have hc : '(' ≠ c := by
      rintro rfl
      simp at plain
    simp [text, hc, ih]
  | list style inner rest ihinner ihrest =>
    cases style <;>
      simp [text, Brackets.enclose, Brackets.opening, Brackets.closing, ihinner, ihrest]

lemma balanced_text (t : Nested) : Balanced t.text := by
  induction t with
  | nil => rfl
  | char c plain rest ih =>
    have hc : ∀ d ∈ [c], isBracket d = false := by
      simpa using isBracket_of_plain plain
    exact (balanced_of_not_bracket hc).append ih
  | list style inner rest ihinner ihrest => exact (ihinner.enclose style).1.append ihrest

end Nested

variable {t u rest : Text} {c : Char} {style : Brackets}

/-! ### Spellings of a generic type -/

/-- A dotted name of identifiers: no blanks, no arity, no nested type and no kind letter. -/
structure DottedName extends Path where
  identifiers : ∀ c ∈ text, isBlank c = false ∧ c ∉ [ '`', '+', ':']

/-- What follows the name of a generic type: the number of its arguments behind one or two
backticks, or the arguments themselves. -/
inductive Suffix where
  | arity (isDouble : Bool) (digits : Text)
    (isNumber : digits ≠ [] ∧ ∀ d ∈ digits, Text.isDigit d = true)
  | arguments (style : Brackets) (args : Nested)

def Suffix.text : Suffix → Text
  | .arity isDouble digits _ => (if isDouble then [ '`', '`'] else [ '`']) ++ digits
  | .arguments style args => style.enclose args.text

/-- The generic type of the name. -/
def DottedName.spelled (name : DottedName) (suffix : Suffix) : Text :=
  name.text ++ suffix.text

variable {name : DottedName} {suffix : Suffix}

lemma isBlank_of_isDigit (h : Text.isDigit c = true) : isBlank c = false := by
  have hascii : ∀ n < 128, Text.isDigit (Char.ofNat n) = true → isBlank (Char.ofNat n) = false := by
    decide +kernel
  have hapart : ∀ z ∈ digitZeros, ∀ b ∈ blankRanges, z + 9 < b.1 ∨ b.2 < z := by decide +kernel
  by_cases hc : c.toNat < 128
  · have hdigit := hascii c.toNat hc
    rw [Char.ofNat_toNat] at hdigit
    exact hdigit h
  · rw [Text.isDigit, digitValue?, if_neg hc, Option.isSome_map, List.find?_isSome] at h
    obtain ⟨z, hz, hdigit⟩ := h
    refine eq_false_of_ne_true fun hblank => ?_
    obtain ⟨b, hb, hblank⟩ := List.any_eq_true.1 hblank
    simp only [Bool.and_eq_true, decide_eq_true_eq] at hdigit hblank
    have hlies := hapart z hz b hb
    omega

/-- A character that is no digit is not among digits. -/
lemma not_mem_of_isDigit {digits : Text} (h : ∀ d ∈ digits, Text.isDigit d = true)
    (hc : Text.isDigit c = false) : c ∉ digits := by
  intro hmem
  rw [h c hmem] at hc
  cases hc

/-- The characters with which a suffix begins. -/
def suffixMarks : List Char :=
  [ '`', '<', '{']

lemma of_mem_suffixMarks (h : c ∈ suffixMarks) :
    isBlank c = false ∧ ¬('A' ≤ c ∧ c ≤ 'Z') ∧ c ≠ ':' := by
  have hmarks : ∀ c ∈ suffixMarks, isBlank c = false ∧ ¬('A' ≤ c ∧ c ≤ 'Z') ∧ c ≠ ':' :=
    List.all_iff_forall_prop.1 (by decide)
  exact hmarks c h

lemma Suffix.parameter_not_mem (suffix : Suffix) : '(' ∉ suffix.text := by
  cases suffix with
  | arity isDouble digits isNumber =>
    have hdigits := not_mem_of_isDigit isNumber.2 (show Text.isDigit '(' = false by decide)
    cases isDouble <;> simp [text, hdigits]
  | arguments style args =>
    have hargs := args.parameter_not_mem
    cases style <;> simp [text, Brackets.enclose, Brackets.opening, Brackets.closing, hargs]

/-- A text behind a name: it begins like a suffix and does not end with a blank. -/
structure Follows (t : Text) : Prop where
  exists_cons : ∃ c ∈ suffixMarks, ∃ u, t = c :: u
  isBlank_getLast? : ∀ c ∈ t.getLast?, isBlank c = false

lemma follows_enclose (style : Brackets) (t : Text) : Follows (style.enclose t) := by
  refine ⟨by cases style <;> exact ⟨_, by decide, _, rfl⟩, fun c hc => ?_⟩
  rw [Brackets.enclose, List.getLast?_append_of_ne_nil _ (by simp)] at hc
  obtain rfl : style.closing = c := Option.some.inj hc
  cases style <;> decide

lemma Suffix.follows (suffix : Suffix) : Follows suffix.text := by
  cases suffix with
  | arity isDouble digits isNumber =>
    refine ⟨by cases isDouble <;> exact ⟨'`', by decide, _, rfl⟩, fun c hc => ?_⟩
    rw [text, List.getLast?_append_of_ne_nil _ isNumber.1] at hc
    exact isBlank_of_isDigit (isNumber.2 c (List.mem_of_getLast? hc))
  | arguments style args => exact follows_enclose style args.text

namespace DottedName

lemma not_mem (name : DottedName) (h : c ∈ [ '`', '+', ':']) : c ∉ name.text :=
  fun hc => (name.identifiers c hc).2 h

lemma trimmed (name : DottedName) : Trimmed name.text :=
  ⟨fun c hc => (name.identifiers c (List.mem_of_head? hc)).1,
    fun c hc => (name.identifiers c (List.mem_of_getLast? hc)).1⟩

lemma trimmed_append (name : DottedName) (h : Follows t) : Trimmed (name.text ++ t) := by
  obtain ⟨⟨c, hc, u, rfl⟩, hlast⟩ := h
  constructor
  · intro d hd
    rw [List.head?_append] at hd
    cases hhead : name.text.head? with
    | some a =>
      rw [hhead] at hd
      exact name.trimmed.1 d (hhead.trans hd)
    | none =>
      rw [hhead] at hd
      obtain rfl : c = d := Option.some.inj hd
      exact (of_mem_suffixMarks hc).1
  · intro d hd
    rw [List.getLast?_append_of_ne_nil _ (List.cons_ne_nil c u)] at hd
    exact hlast d hd

lemma splitLetter?_text (name : DottedName) : splitLetter? name.text = none := by
  have hmem := name.not_mem (c := ':') (by simp)
  unfold splitLetter?
  split
  case h_1 heq => simp [heq] at hmem
  · rfl

lemma splitLetter?_append (name : DottedName) (h : Follows t) :
    splitLetter? (name.text ++ t) = none := by
  obtain ⟨c, hc, u, rfl⟩ := h.exists_cons
  obtain ⟨-, hletter, hcolon⟩ := of_mem_suffixMarks hc
  rw [Symbol.splitLetter?_append hletter hcolon, name.splitLetter?_text]
  rfl

lemma trimmed_spelled (name : DottedName) (suffix : Suffix) : Trimmed (name.spelled suffix) :=
  name.trimmed_append suffix.follows

lemma splitLetter?_spelled (name : DottedName) (suffix : Suffix) :
    splitLetter? (name.spelled suffix) = none :=
  name.splitLetter?_append suffix.follows

lemma dropLetter_spelled (name : DottedName) (suffix : Suffix) :
    dropLetter (name.spelled suffix) = name.spelled suffix := by
  rw [dropLetter, splitLetter?_spelled]

lemma parameter_not_mem (name : DottedName) (suffix : Suffix) : '(' ∉ name.spelled suffix := by
  intro h
  rcases List.mem_append.1 h with h | h
  · exact name.plain _ h (by simp)
  · exact suffix.parameter_not_mem h

/-! ### The normal form -/

/-- Arguments are dropped, whatever they are. -/
lemma dropGenerics_enclose (name : DottedName) (style : Brackets) (h : Balanced t) :
    dropGenerics (name.text ++ style.enclose t) = name.text := by
  obtain ⟨hbalanced, houter⟩ := h.enclose style
  have hbracket : ∀ c ∈ name.text, isBracket c = false := fun c hc => name.isBracket hc
  have hname := balanced_of_not_bracket hbracket
  rw [(hname.append hbalanced).dropGenerics, hname.outermost_append, houter,
    outermost_of_not_bracket hbracket, List.append_nil]

/-- A number stays where it is. -/
lemma dropGenerics_arity (name : DottedName) (isDouble : Bool) {digits : Text}
    (isNumber : digits ≠ [] ∧ ∀ d ∈ digits, Text.isDigit d = true) :
    dropGenerics (name.spelled (.arity isDouble digits isNumber)) =
      name.spelled (.arity isDouble digits isNumber) := by
  apply dropGenerics_of_not_bracket
  intro c hc
  rcases List.mem_append.1 hc with hc | hc
  · exact name.isBracket hc
  · apply isBracket_of_not_mem
    rcases List.mem_append.1 hc with hc | hc
    · have hticks : ∀ c ∈ [ '`', '`'], c ∉ separators := List.all_iff_forall_prop.1 (by decide)
      apply hticks
      cases isDouble <;> simp_all
    · have hdigits : ∀ c ∈ separators, Text.isDigit c = false :=
        List.all_iff_forall_prop.1 (by decide)
      intro hsep
      exact not_mem_of_isDigit isNumber.2 (hdigits c hsep) hc

lemma arityAfter_eq {digits : Text} {n : Nat} (h : t.drop n = digits) (hne : digits ≠ [])
    (hdigits : ∀ d ∈ digits, Text.isDigit d = true) : arityAfter n t = some (digits, []) := by
  have htake : digits.takeWhile Text.isDigit = digits := List.takeWhile_eq_self_iff.2 hdigits
  have hdrop : digits.dropWhile Text.isDigit = [] := List.dropWhile_eq_nil_iff.2 hdigits
  simp only [arityAfter, h, htake, hdrop]

lemma arityMark_arity {before : Option Char} (isDouble : Bool) {digits : Text}
    (isNumber : digits ≠ [] ∧ ∀ d ∈ digits, Text.isDigit d = true) :
    arityMark before (Suffix.arity isDouble digits isNumber).text = some (digits, []) := by
  obtain ⟨hne, hdigits⟩ := isNumber
  cases isDouble with
  | true => exact arityAfter_eq rfl hne hdigits
  | false =>
    obtain ⟨d, ds, rfl⟩ := List.exists_cons_of_ne_nil hne
    have hd : d ≠ '`' := by
      rintro rfl
      exact absurd (hdigits '`' (by simp)) (by decide)
    have hmark : arityMark before ('`' :: d :: ds) = arityAfter 1 ('`' :: d :: ds) := by
      simp [arityMark, hd]
    exact hmark.trans (arityAfter_eq rfl hne hdigits)

lemma arityMark_of_ne {before : Option Char} (h : c ≠ '`') : arityMark before (c :: t) = none := by
  simp [arityMark, h]

lemma pieces_arityMark (name : DottedName) (rest : Text) :
    pieces arityMark none (name.text ++ rest) =
      name.text.map .plain ++ pieces arityMark (name.text.getLast?.or none) rest := by
  apply pieces_append_of_none
  intro a c v ht
  apply arityMark_of_ne
  rintro rfl
  exact name.not_mem (c := '`') (by simp) (ht ▸ by simp)

lemma replace_arityMark (name : DottedName) :
    replace arityMark (fun _ => []) name.text = name.text := by
  refine replace_eq_self _ ?_
  have hname := pieces_arityMark name []
  simpa [pieces] using hname

/-- Without its number, the type is the name. -/
lemma replace_arityMark_arity (name : DottedName) (isDouble : Bool) {digits : Text}
    (isNumber : digits ≠ [] ∧ ∀ d ∈ digits, Text.isDigit d = true) :
    replace arityMark (fun _ => []) (name.spelled (.arity isDouble digits isNumber)) =
      name.text := by
  have hfound := @arityMark_arity (name.text.getLast?.or none) isDouble digits isNumber
  rw [← List.append_nil (Suffix.text _)] at hfound
  have hsuffix := pieces_append_of_found hfound (by cases isDouble <;> simp [Suffix.text])
  rw [List.append_nil] at hsuffix
  rw [replace_eq_flatMap, spelled, pieces_arityMark, hsuffix, List.flatMap_append,
    List.flatMap_map]
  simp [Piece.text, pieces]

lemma replaceChar_plus (name : DottedName) : replaceChar '+' ['.'] name.text = name.text :=
  replaceChar_eq_self (name.not_mem (by simp))

lemma normalize_text (name : DottedName) : normalize name.text = name.text := by
  rw [normalize, name.trimmed.strip, dropLetter, name.splitLetter?_text,
    dropGenerics_of_not_bracket fun c hc => name.isBracket hc, name.replace_arityMark,
    name.replaceChar_plus, name.trimmed.strip]

/-- A name with arguments has the name for its normal form, whatever the arguments are. -/
lemma normalize_enclose (name : DottedName) (style : Brackets) (h : Balanced t) :
    normalize (name.text ++ style.enclose t) = name.text := by
  have hfollows := follows_enclose style t
  rw [normalize, (name.trimmed_append hfollows).strip, dropLetter,
    name.splitLetter?_append hfollows, name.dropGenerics_enclose style h, name.replace_arityMark,
    name.replaceChar_plus, name.trimmed.strip]

/-- Every spelling of a generic type has the name of the type for its normal form. -/
theorem normalize_spelled (name : DottedName) (suffix : Suffix) :
    normalize (name.spelled suffix) = name.text := by
  cases suffix with
  | arity isDouble digits isNumber =>
    rw [normalize, (name.trimmed_spelled _).strip, dropLetter_spelled, dropGenerics_arity,
      replace_arityMark_arity, name.replaceChar_plus, name.trimmed.strip]
  | arguments style args => exact name.normalize_enclose style args.balanced_text

end DottedName

end LinkedDocs.Symbol
