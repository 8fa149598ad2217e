import Mathlib.Data.List.Chain
import LinkedDocs.Proofs.NestedArguments

/-!
# The normal form of names

The normal form of a name is what stands outside all brackets, without its kind letter, its arities
and the blanks at its ends. Main statements: this is so for every name whose brackets come in pairs
(`normalize_balanced`), and normalizing a normal form again does nothing but drop a kind letter
(`normalize_normalize`). There can be one, since what is dropped from a name may uncover it.
-/

namespace LinkedDocs.Symbol

open Text Markup

variable {t u rest : Text} {c : Char} {before : Option Char} {depth : Nat}

/-! ### Names whose brackets come in pairs -/

lemma closes_append_of_not_bracket (h : ∀ c ∈ rest, isBracket c = false) :
    closes depth (t ++ rest) = closes depth t := by
  induction t generalizing depth with
  | nil =>
    have happend := (balanced_of_not_bracket h).closes_append (t := []) depth
    rwa [List.append_nil] at happend
  | cons c t ih => simp only [List.cons_append, closes, ih]

/-- A name has a letter and a colon before the rest of it, or it has no letter. -/
lemma letter_cases (t : Text) :
    hasLetter t = false ∧ dropLetter t = t ∨
      hasLetter t = true ∧ ∃ c, ('A' ≤ c ∧ c ≤ 'Z') ∧ t = c :: ':' :: dropLetter t := by
  unfold hasLetter dropLetter
  cases hsplit : splitLetter? t with
  | none => exact .inl ⟨rfl, rfl⟩
  | some y =>
    obtain ⟨d, rest⟩ := y
    unfold splitLetter? at hsplit
    split at hsplit
    case h_1 c rest' =>
      split at hsplit
      case isTrue hc =>
        obtain ⟨rfl, rfl⟩ := Prod.mk.inj (Option.some.inj hsplit)
        exact .inr ⟨rfl, c, hc, rfl⟩
      · cases hsplit
    · cases hsplit

/-- A name without a colon has no letter. -/
lemma hasLetter_of_not_mem (h : ':' ∉ t) : hasLetter t = false := by
  rcases letter_cases t with ⟨hletter, -⟩ | ⟨-, c, -, heq⟩
  · exact hletter
  · rw [heq] at h
    simp at h

lemma eq_of_isBracket (h : isBracket c = true) : c ∈ ['<', '{', '>', '}'] := by
  simpa [isBracket, isOpenBracket, isCloseBracket, or_assoc] using h

lemma isBracket_of_isBlank (h : isBlank c = true) : isBracket c = false := by
  have hbrackets : ∀ c ∈ ['<', '{', '>', '}'], isBlank c = false :=
    List.all_iff_forall_prop.1 (by decide)
  refine eq_false_of_ne_true fun hbracket => ?_
  rw [hbrackets c (eq_of_isBracket hbracket)] at h
  cases h

lemma isBracket_of_letter (h : 'A' ≤ c ∧ c ≤ 'Z') : isBracket c = false := by
  have hbrackets : ∀ c ∈ ['<', '{', '>', '}'], ¬('A' ≤ c ∧ c ≤ 'Z') :=
    List.all_iff_forall_prop.1 (by decide)
  exact eq_false_of_ne_true fun hbracket => hbrackets c (eq_of_isBracket hbracket) h

/-- The blanks around a name and its letter are no brackets. -/
lemma Balanced.bare (h : Balanced t) : Balanced (dropLetter (strip t)) := by
  obtain ⟨a, b, ht, ha, hb⟩ := exists_strip t
  have hlead := balanced_of_not_bracket fun c hc => isBracket_of_isBlank (ha c hc)
  rw [Balanced, ht, closes_append_of_not_bracket fun c hc => isBracket_of_isBlank (hb c hc),
    hlead.closes_append] at h
  rcases letter_cases (strip t) with ⟨-, heq⟩ | ⟨-, c, hc, heq⟩
  · rwa [heq]
  · have hletter : Balanced [c, ':'] := balanced_of_not_bracket (by
      simpa [isBracket_of_letter hc] using show isBracket ':' = false by decide)
    rw [heq] at h
    exact (hletter.closes_append 0).symm.trans h

/-! ### Arities -/

/-- No digit stands behind a backtick. -/
def WithoutArity (t : Text) : Prop :=
  t.IsChain fun c d => c = '`' → Text.isDigit d = false

/-- An arity is found up to its last digit. -/
lemma arityMark_eq_some {digits : Text} (h : arityMark before t = some (digits, rest)) :
    ∃ ticks d ds, t = ticks ++ '`' :: d :: (ds ++ rest) ∧ (∀ c ∈ ticks, c = '`') ∧
      Text.isDigit d = true ∧ ∀ e ∈ rest.head?, Text.isDigit e = false := by
  have hafter {k : Nat} (hfound : arityAfter k t = some (digits, rest)) :
      ∃ d ds, t.drop k = d :: (ds ++ rest) ∧ Text.isDigit d = true ∧
        ∀ e ∈ rest.head?, Text.isDigit e = false := by
    unfold arityAfter at hfound
    dsimp only at hfound
    split at hfound
    · cases hfound
    case h_2 hne =>
      obtain ⟨rfl, rfl⟩ := Prod.mk.inj (Option.some.inj hfound)
      obtain ⟨d, ds, hds⟩ := List.exists_cons_of_ne_nil hne
      refine ⟨d, ds, ?_, ?_, fun e he => ?_⟩
      · rw [← List.cons_append, ← hds, List.takeWhile_append_dropWhile]
      · exact List.mem_takeWhile_imp (hds ▸ List.mem_cons_self)
      · have hhead := List.head?_dropWhile_not Text.isDigit (t.drop k)
        rw [he] at hhead
        exact hhead
  unfold arityMark at h
  split at h
  case h_1 v =>
    obtain ⟨d, ds, hdrop, hd, hrest⟩ := hafter h
    exact ⟨['`'], d, ds, congrArg (['`', '`'] ++ ·) hdrop, by simp, hd, hrest⟩
  case h_2 v _ =>
    obtain ⟨d, ds, hdrop, hd, hrest⟩ := hafter h
    exact ⟨[], d, ds, congrArg (['`'] ++ ·) hdrop, by simp, hd, hrest⟩
  · cases h

lemma WithoutArity.replace (h : WithoutArity t) : replace arityMark (fun _ => []) t = t := by
  refine replace_eq_self _ (pieces_eq_map_of_none fun a c v ht => ?_)
  rw [← Option.not_isSome_iff_eq_none, Option.isSome_iff_exists]
  rintro ⟨⟨digits, rest⟩, hfound⟩
  obtain ⟨ticks, d, ds, heq, -, hd, -⟩ := arityMark_eq_some hfound
  rw [ht, heq, WithoutArity, ← List.append_assoc] at h
  have hnot := (List.isChain_append_cons_cons.1 h).2.1 rfl
  rw [hd] at hnot
  cases hnot

/-- Where an arity was dropped there is no digit, so no other arity is uncovered. -/
lemma withoutArity_replace (t : Text) : WithoutArity (Text.replace arityMark (fun _ => []) t) := by
  rw [replace_eq_flatMap]
  generalize (none : Option Char) = before
  suffices h : WithoutArity ((pieces arityMark before t).flatMap (Piece.text fun _ => [])) ∧
      ∀ d ∈ ((pieces arityMark before t).flatMap (Piece.text fun _ => [])).head?,
        Text.isDigit d = true → t.head? = some d from h.1
  fun_induction pieces arityMark before t with
  | case1 => exact ⟨.nil, by simp⟩
  | case2 before c cs digits rest hfound hlen ih =>
    obtain ⟨ticks, d, ds, -, -, -, hrest⟩ := arityMark_eq_some hfound
    rw [List.flatMap_cons, Piece.text, List.nil_append]
    refine ⟨ih.1, fun e he hdigit => ?_⟩
    rw [hrest e (ih.2 e he hdigit)] at hdigit
    cases hdigit
  | case3 before c cs digits rest hfound hlen ih =>
    obtain ⟨ticks, d, ds, heq, -⟩ := arityMark_eq_some hfound
    have hlength := congrArg List.length heq
    simp only [List.length_cons, List.length_append] at hlength
    omega
  | case4 before c cs hnone ih =>
    rw [List.flatMap_cons, Piece.text, List.singleton_append]
    refine ⟨ih.1.cons fun d hd => ?_, fun e he _ => he⟩
    rintro rfl
    refine eq_false_of_ne_true fun hdigit => ?_
    obtain ⟨cs, rfl⟩ := List.head?_eq_some_iff.1 (ih.2 d hd hdigit)
    have htick : d ≠ '`' := by
      rintro rfl
      exact absurd hdigit (by decide)
    simp [arityMark, htick, arityAfter, hdigit] at hnone

/-! ### Normal forms -/

/-- The name without lists, arities and nested types. -/
def reduce (t : Text) : Text :=
  replaceChar '+' ['.'] (replace arityMark (fun _ => []) (dropGenerics t))

lemma normalize_eq (t : Text) : normalize t = strip (reduce (dropLetter (strip t))) :=
  rfl

/-- A name in which there is nothing to be reduced. -/
structure Reduced (t : Text) : Prop where
  unlisted : Unlisted t
  withoutArity : WithoutArity t
  plus_not_mem : '+' ∉ t

lemma Reduced.of_isInfix (h : Reduced t) (hu : u <:+: t) : Reduced u where
  unlisted := h.unlisted.sublist hu.sublist
  withoutArity := h.withoutArity.infix hu
  plus_not_mem := fun hmem => h.plus_not_mem (hu.mem hmem)

lemma Reduced.reduce (h : Reduced t) : reduce t = t := by
  rw [Symbol.reduce, h.unlisted.dropGenerics, h.withoutArity.replace,
    replaceChar_eq_self h.plus_not_mem]

lemma replace_arityMark_sublist (t : Text) :
    (replace arityMark (fun _ => []) t).Sublist t := by
  refine replace_nil_sublist (fun h => ?_) t
  obtain ⟨ticks, d, ds, rfl, -⟩ := arityMark_eq_some h
  exact ⟨ticks ++ '`' :: d :: ds, by simp⟩

lemma replaceChar_eq_map (c d : Char) (t : Text) :
    replaceChar c [d] t = t.map fun e => if e = c then d else e := by
  induction t with
  | nil => rfl
  | cons e t ih =>
    rw [List.map_cons, ← ih]
    by_cases he : e = c <;> simp [replaceChar, he]

/-- A test that a dot and a plus pass alike is not changed by writing one for the other. -/
lemma apply_dot {p : Char → Bool} (h : p '.' = p '+') (c : Char) :
    p (if c = '+' then '.' else c) = p c := by
  split
  case isTrue hc => rw [hc, h]
  case isFalse => rfl

/-- After one reduction there is nothing left to be reduced. -/
lemma reduced_reduce (t : Text) : Reduced (reduce t) := by
  have hunlisted : Unlisted (replace arityMark (fun _ => []) (dropGenerics t)) :=
    (unlisted_dropGenerics t).sublist (replace_arityMark_sublist _)
  have harity := withoutArity_replace (dropGenerics t)
  rw [reduce, replaceChar_eq_map]
  refine ⟨List.pairwise_map.2 (hunlisted.imp fun {c d} h => ?_),
    (List.isChain_map _).2 (harity.imp fun {c d} h => ?_), ?_⟩
  · rwa [apply_dot (p := isOpenBracket) (by decide), apply_dot (p := isCloseBracket) (by decide)]
  · intro hc
    rw [apply_dot (p := Text.isDigit) (by decide)]
    refine h (beq_iff_eq.1 ?_)
    rw [← apply_dot (p := (· == '`')) (by decide) c]
    exact beq_iff_eq.2 hc
  · intro hmem
    obtain ⟨c, -, hc⟩ := List.mem_map.1 hmem
    split at hc
    · exact absurd hc (by decide)
    case isFalse hne => exact hne hc

/-- Dropping and replacing makes no colon. -/
lemma colon_not_mem_normalize (h : ':' ∉ dropLetter (strip t)) : ':' ∉ normalize t := by
  intro hmem
  have hreduced : ':' ∈ reduce (dropLetter (strip t)) := (isInfix_strip _).mem hmem
  rw [reduce, replaceChar_eq_map] at hreduced
  obtain ⟨c, hc, hcolon⟩ := List.mem_map.1 hreduced
  split at hcolon
  · exact absurd hcolon (by decide)
  · subst hcolon
    exact h ((dropGenerics_sublist _).mem ((replace_arityMark_sublist _).mem hc))

/-- **The outermost text.** If the brackets of a text come in pairs, whatever their styles, then
dropping lists until there are none leaves exactly the characters outside all brackets. So the
normal form of a name and its last segment are made of these, and every spelling of a generic type
has the name of the type for its normal form: with arguments of any depth, or with their number. -/
theorem normalize_balanced :
    (∀ t, Balanced t → dropGenerics t = outermost 0 t) ∧
    (∀ t, Balanced t → normalize t = strip (replaceChar '+' ['.'] (replace arityMark (fun _ => [])
      (outermost 0 (dropLetter (strip t)))))) ∧
    (∀ t, Balanced (dropParameters (dropLetter t)) →
      simpleName t = lastSegment (outermost 0 (dropParameters (dropLetter t)))) ∧
    ∀ name : DottedName, normalize name.text = name.text ∧
      (∀ (style : Brackets) (args : Text), Balanced args →
        normalize (name.text ++ style.enclose args) = name.text) ∧
      ∀ digits, digits ≠ [] → (∀ d ∈ digits, Text.isDigit d = true) →
        normalize (name.text ++ '`' :: digits) = name.text := by
  refine ⟨fun t => Balanced.dropGenerics, fun t h => ?_, fun t h => ?_, fun name => ⟨?_, ?_, ?_⟩⟩
  · rw [normalize_eq, reduce, h.bare.dropGenerics]
  · rw [simpleName, h.dropGenerics]
  · exact name.normalize_text
  · exact fun style args => name.normalize_enclose style
  · exact fun digits hne hdigits => name.normalize_spelled (.arity false digits ⟨hne, hdigits⟩)

/-- The name of a type. -/
def mapName : DottedName where
  text := "Ns.Map".toList
  plain := List.all_iff_forall_prop.1 (by decide)
  identifiers := List.all_iff_forall_prop.1 (by decide)

/-- A nested type, a method and a type, with brackets of one style closed by those of the other. -/
theorem normalize_balanced_of_mixed :
    (Balanced " T:Ns.Map<K\x7bA>,V\x7d`2+Item ".toList ∧
      normalize " T:Ns.Map<K\x7bA>,V\x7d`2+Item ".toList = "Ns.Map.Item".toList) ∧
    (Balanced (dropParameters (dropLetter "M:Ns.Map\x7bA.B>.Get<C\x7d(D<)".toList)) ∧
      simpleName "M:Ns.Map\x7bA.B>.Get<C\x7d(D<)".toList = "Get".toList) ∧
    (Balanced "K\x7b(A>,V<\x7d".toList ∧
      normalize (mapName.text ++ Brackets.angles.enclose "K\x7b(A>,V<\x7d".toList) = mapName.text) ∧
    normalize (mapName.text ++ '`' :: "12".toList) = mapName.text := by
  obtain ⟨-, hnormal, hsimple, hnames⟩ := normalize_balanced
  obtain ⟨-, hargs, harity⟩ := hnames mapName
  have hitem : Balanced " T:Ns.Map<K\x7bA>,V\x7d`2+Item ".toList := by decide
  have hget : Balanced (dropParameters (dropLetter "M:Ns.Map\x7bA.B>.Get<C\x7d(D<)".toList)) := by
    decide
  have hpair : Balanced "K\x7b(A>,V<\x7d".toList := by decide
  exact ⟨⟨hitem, (hnormal _ hitem).trans (by decide +kernel)⟩,
    ⟨hget, (hsimple _ hget).trans (by decide)⟩, ⟨hpair, hargs .angles _ hpair⟩,
    harity "12".toList (by decide) (List.all_iff_forall_prop.1 (by decide))⟩

/-- **Normalizing twice.** Normalizing a normal form again drops its kind letter, if it has one, and
nothing else. So a normal form stays as it is exactly if it has no letter, as that of every name
without a colon behind its letter. -/
theorem normalize_normalize (t : Text) :
    normalize (normalize t) = strip (dropLetter (normalize t)) ∧
      (normalize (normalize t) = normalize t ↔ hasLetter (normalize t) = false) ∧
      (':' ∉ dropLetter (strip t) → normalize (normalize t) = normalize t) := by
  have htrimmed : Trimmed (normalize t) := trimmed_strip _
  have hreduced : Reduced (dropLetter (normalize t)) :=
    (reduced_reduce _).of_isInfix ((dropLetter_suffix _).isInfix.trans (isInfix_strip _))
  have hagain : normalize (normalize t) = strip (dropLetter (normalize t)) := by
    rw [normalize_eq (normalize t), htrimmed.strip, hreduced.reduce]
  have hiff : normalize (normalize t) = normalize t ↔ hasLetter (normalize t) = false := by
    rw [hagain]
    rcases letter_cases (normalize t) with ⟨hletter, heq⟩ | ⟨hletter, c, -, heq⟩
    · exact iff_of_true (by rw [heq, htrimmed.strip]) hletter
    · have hle := (isInfix_strip (dropLetter (normalize t))).length_le
      have hlength := congrArg List.length heq
      rw [List.length_cons, List.length_cons] at hlength
      refine ⟨fun hsame => ?_, fun hnone => by rw [hletter] at hnone; cases hnone⟩
      rw [hsame] at hle
      omega
  exact ⟨hagain, hiff, fun h => hiff.2 (hasLetter_of_not_mem (colon_not_mem_normalize h))⟩

theorem normalize_normalize_of_nested :
    ':' ∉ dropLetter (strip " T:Ns.Map<K>`1+Item ".toList) ∧
      normalize (normalize " T:Ns.Map<K>`1+Item ".toList) =
        normalize " T:Ns.Map<K>`1+Item ".toList := by
  have hcolon : ':' ∉ dropLetter (strip " T:Ns.Map<K>`1+Item ".toList) := by decide
  exact ⟨hcolon, (normalize_normalize _).2.2 hcolon⟩

/-- Of two letters only the first is dropped, so that the normal form has another one. -/
theorem normalize_two_letters :
    normalize "T:T:X".toList = "T:X".toList ∧
      normalize (normalize "T:T:X".toList) ≠ normalize "T:T:X".toList := by
  decide +kernel

end LinkedDocs.Symbol
