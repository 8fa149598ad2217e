import Mathlib.Data.Bool.AllAny
import Mathlib.Data.List.TakeWhile
import LinkedDocs.Symbol.Name
import LinkedDocs.Proofs.Cutting
import LinkedDocs.Proofs.Restoring

/-!
# Spellings of a generic type

A generic type is written with its arguments or with their number. Main statement: the page about
the type is the same for both spellings exactly if no argument has arguments of its own. A list of
arguments is only taken out where it has no other list in it, so the brackets around a nested list
end up in the address.
-/

namespace LinkedDocs.Symbol

open Text

/-- The characters around and between the arguments of a type. -/
def separators : List Char :=
  ['<', '>', '{', '}', ',']

/-- A dotted name: identifiers have no separators, and no parameter list begins in them. -/
structure Path where
  text : Text
  plain : ∀ c ∈ text, c ∉ '(' :: separators

/-- The two styles in which arguments are enclosed. -/
inductive Brackets where
  | angles | braces
deriving DecidableEq

namespace Brackets

def opening : Brackets → Char
  | .angles => '<'
  | .braces => '{'

def closing : Brackets → Char
  | .angles => '>'
  | .braces => '}'

def enclose (style : Brackets) (t : Text) : Text :=
  style.opening :: t ++ [style.closing]

end Brackets

/-- The arguments of a type, of which there is at least one. An argument may have arguments of its
own, to any depth. -/
inductive Arguments where
  | name (path : Path)
  | generic (path : Path) (style : Brackets) (inner : Arguments)
  | more (first rest : Arguments)

namespace Arguments

def text : Arguments → Text
  | .name path => path.text
  | .generic path style inner => path.text ++ style.enclose inner.text
  | .more first rest => first.text ++ ',' :: rest.text

/-- The number of arguments, those of an argument apart. -/
def count : Arguments → Nat
  | .name _ => 1
  | .generic _ _ _ => 1
  | .more first rest => first.count + rest.count

/-- No argument has arguments. -/
def Flat : Arguments → Prop
  | .name _ => True
  | .generic _ _ _ => False
  | .more first rest => first.Flat ∧ rest.Flat

end Arguments

namespace Path

/-- The type of the name with its arguments. -/
def generic (name : Path) (style : Brackets) (args : Arguments) : Text :=
  name.text ++ style.enclose args.text

/-- The type of the name with the number of its arguments. -/
def ofArity (name : Path) (n : Nat) : Text :=
  name.text ++ '`' :: Text.ofNat n

end Path

variable {t u v rest : Text} {before : Option Char} {c : Char} {args : Arguments}
  {style : Brackets}

/-! ### Argument lists -/

lemma isBracket_of_not_mem (h : c ∉ separators) : isBracket c = false := by
  have hne : c ≠ '<' ∧ c ≠ '>' ∧ c ≠ '{' ∧ c ≠ '}' := by
    simp only [separators, List.mem_cons, not_or] at h
    tauto
  simp [isBracket, isOpenBracket, isCloseBracket, hne]

lemma Path.not_mem_separators (name : Path) (h : c ∈ name.text) : c ∉ separators :=
  fun hmem => name.plain c h (List.mem_cons_of_mem _ hmem)

lemma Path.isBracket (name : Path) (h : c ∈ name.text) : isBracket c = false :=
  isBracket_of_not_mem (name.not_mem_separators h)

namespace Arguments

lemma Flat.isBracket (h : args.Flat) : ∀ c ∈ args.text, isBracket c = false := by
  induction args with
  | name path => exact fun c hc => path.isBracket hc
  | generic path style inner => exact h.elim
  | more first rest ihfirst ihrest =>
    intro c hc
    rcases List.mem_append.1 hc with hc | hc
    · exact ihfirst h.1 c hc
    · rcases List.mem_cons.1 hc with rfl | hc
      · decide
      · exact ihrest h.2 c hc

/-- There is a comma between any two arguments and nowhere else. -/
lemma Flat.count_eq (h : args.Flat) : args.text.count ',' + 1 = args.count := by
  induction args with
  | name path =>
    have hcomma : path.text.count ',' = 0 :=
      List.count_eq_zero.2 fun hmem => path.not_mem_separators hmem (by decide)
    rw [text, hcomma, count]
  | generic path style inner => exact h.elim
  | more first rest ihfirst ihrest =>
    rw [text, List.count_append, List.count_cons_self, count, ← ihfirst h.1, ← ihrest h.2]
    omega

/-- The first bracket among arguments that are not flat is an opening one. -/
lemma exists_opening_of_not_flat (h : ¬args.Flat) :
    ∃ u style v, args.text = u ++ Brackets.opening style :: v ∧ ∀ c ∈ u, isBracket c = false := by
  induction args with
  | name path => exact absurd trivial h
  | generic path style inner =>
    exact ⟨path.text, style, inner.text ++ [style.closing], rfl, fun c hc => path.isBracket hc⟩
  | more first rest ihfirst ihrest =>
    by_cases hfirst : first.Flat
    · obtain ⟨u, style, v, hrest, hu⟩ := ihrest fun hrest => h ⟨hfirst, hrest⟩
      refine ⟨first.text ++ ',' :: u, style, v, by simp [text, hrest], fun c hc => ?_⟩
      rcases List.mem_append.1 hc with hc | hc
      · exact hfirst.isBracket c hc
      · rcases List.mem_cons.1 hc with rfl | hc
        · decide
        · exact hu c hc
    · obtain ⟨u, style, v, htext, hu⟩ := ihfirst hfirst
      exact ⟨u, style, v ++ ',' :: rest.text, by simp [text, htext], hu⟩

end Arguments

lemma isOpenBracket_opening (style : Brackets) : isOpenBracket style.opening = true := by
  cases style <;> decide

lemma isCloseBracket_closing (style : Brackets) : isCloseBracket style.closing = true := by
  cases style <;> decide

lemma isBracket_opening (style : Brackets) : isBracket style.opening = true := by
  cases style <;> decide

lemma isBracket_closing (style : Brackets) : isBracket style.closing = true := by
  cases style <;> decide

lemma genericArguments_of_not_open (h : isOpenBracket c = false) :
    genericArguments before (c :: t) = none := by
  simp [genericArguments, h]

lemma takeWhile_bracket (hu : ∀ c ∈ u, isBracket c = false) (hc : isBracket c = true) :
    (u ++ c :: v).takeWhile (!isBracket ·) = u := by
  rw [List.takeWhile_append_of_pos fun d hd => by simp [hu d hd],
    List.takeWhile_cons_of_neg (by simp [hc]), List.append_nil]

lemma dropWhile_bracket (hu : ∀ c ∈ u, isBracket c = false) (hc : isBracket c = true) :
    (u ++ c :: v).dropWhile (!isBracket ·) = c :: v := by
  rw [List.dropWhile_append_of_pos fun d hd => by simp [hu d hd],
    List.dropWhile_cons_of_neg (by simp [hc])]

lemma genericArguments_enclose (hu : ∀ c ∈ u, isBracket c = false) :
    genericArguments before (style.enclose u ++ rest) = some (u, rest) := by
  have htext : style.enclose u ++ rest = style.opening :: (u ++ style.closing :: rest) := by
    simp [Brackets.enclose]
  rw [htext, genericArguments]
  simp only [isOpenBracket_opening, if_true, takeWhile_bracket hu (isBracket_closing style),
    dropWhile_bracket hu (isBracket_closing style), isCloseBracket_closing]

/-- A list with another list in it is not found. -/
lemma genericArguments_nested (hu : ∀ c ∈ u, isBracket c = false) {other : Brackets} :
    genericArguments before (c :: (u ++ other.opening :: v)) = none := by
  have hclose : isCloseBracket other.opening = false := by cases other <;> decide
  rw [genericArguments]
  split
  · simp [dropWhile_bracket hu (isBracket_opening other), hclose]
  · rfl

lemma pieces_path (name : Path) :
    pieces genericArguments before (name.text ++ rest) =
      name.text.map .plain ++ pieces genericArguments (name.text.getLast?.or before) rest := by
  apply pieces_append_of_none
  intro a c v ht
  apply genericArguments_of_not_open
  have hbracket := name.isBracket (c := c) (ht ▸ by simp)
  exact (Bool.or_eq_false_iff.1 hbracket).1

/-- The arguments of a flat list are replaced by their number. -/
lemma replace_generic_of_flat (name : Path) (h : args.Flat) :
    replace genericArguments arityOfArguments (name.generic style args) =
      name.ofArity args.count := by
  have hfound := @genericArguments_enclose args.text [] (name.text.getLast?.or none) style
    h.isBracket
  have hlist := pieces_append_of_found hfound (by simp [Brackets.enclose])
  rw [List.append_nil] at hlist
  rw [replace_eq_flatMap, Path.generic, pieces_path, hlist, List.flatMap_append, List.flatMap_map]
  simp [Piece.text, pieces, Path.ofArity, arityOfArguments, h.count_eq]

/-- Around a list in a list the bracket stays. -/
lemma opening_mem_replace (name : Path) (h : ¬args.Flat) :
    style.opening ∈ replace genericArguments arityOfArguments (name.generic style args) := by
  obtain ⟨u, other, v, htext, hu⟩ := Arguments.exists_opening_of_not_flat h
  have hlist : style.enclose args.text =
      style.opening :: (u ++ other.opening :: (v ++ [style.closing])) := by
    simp [Brackets.enclose, htext]
  rw [replace_eq_flatMap, Path.generic, pieces_path, hlist,
    pieces_cons_of_none (genericArguments_nested hu)]
  simp [Piece.text]

lemma not_mem_ofNat {n : Nat} (hc : Text.isDigit c = false) : c ∉ Text.ofNat n := by
  intro hmem
  rw [Markup.isDigit_of_mem_ofNat hmem] at hc
  cases hc

lemma Path.mem_ofArity {name : Path} {n : Nat} (h : c ∈ name.ofArity n) :
    c ∉ '(' :: separators := by
  rcases List.mem_append.1 h with hmem | hmem
  · exact name.plain c hmem
  · rcases List.mem_cons.1 hmem with rfl | hmem
    · decide
    · have hdigits : ∀ d ∈ '(' :: separators, Text.isDigit d = false :=
        List.all_iff_forall_prop.1 (by decide)
      exact fun hsep => not_mem_ofNat (hdigits c hsep) hmem

lemma replace_ofArity (name : Path) (n : Nat) :
    replace genericArguments arityOfArguments (name.ofArity n) = name.ofArity n := by
  apply replace_eq_self
  apply pieces_eq_map_of_none
  intro a c v ht
  have hmem : c ∈ name.ofArity n := ht ▸ by simp
  have hplain := isBracket_of_not_mem fun hsep =>
    Path.mem_ofArity hmem (List.mem_cons_of_mem _ hsep)
  exact genericArguments_of_not_open (Bool.or_eq_false_iff.1 hplain).1

/-! ### Names without letter and parameters -/

lemma dropLetter_suffix (t : Text) : dropLetter t <:+ t := by
  unfold dropLetter splitLetter?
  split
  case h_1 heq =>
    split at heq
    case h_1 c rest =>
      split at heq
      · obtain ⟨-, rfl⟩ := Prod.mk.inj (Option.some.inj heq)
        exact ⟨[c, ':'], rfl⟩
      · cases heq
    · cases heq
  · exact List.suffix_refl t

/-- What is neither a letter nor a colon comes after a kind letter and its colon. -/
lemma splitLetter?_append (hletter : ¬('A' ≤ c ∧ c ≤ 'Z')) (hcolon : c ≠ ':') :
    splitLetter? (t ++ c :: rest) = (splitLetter? t).map fun y => (y.1, y.2 ++ c :: rest) := by
  match t with
  | [] =>
    unfold splitLetter?
    split
    case h_1 heq =>
      obtain ⟨rfl, -⟩ := List.cons.inj heq
      rw [if_neg hletter]
      rfl
    · rfl
  | [d] => simp [splitLetter?, hcolon]
  | d :: e :: t =>
    by_cases he : e = ':'
    · subst he
      by_cases hd : 'A' ≤ d ∧ d ≤ 'Z' <;> simp [splitLetter?, hd]
    · simp [splitLetter?, he]

lemma dropLetter_append (hletter : ¬('A' ≤ c ∧ c ≤ 'Z')) (hcolon : c ≠ ':') :
    dropLetter (t ++ c :: rest) = dropLetter t ++ c :: rest := by
  rw [dropLetter, dropLetter, splitLetter?_append hletter hcolon]
  cases splitLetter? t <;> rfl

lemma kind_append (hletter : ¬('A' ≤ c ∧ c ≤ 'Z')) (hcolon : c ≠ ':') :
    kind (t ++ c :: rest) = kind t := by
  rw [kind, kind, splitLetter?_append hletter hcolon]
  cases splitLetter? t <;> rfl

def Path.bare (name : Path) : Path :=
  ⟨dropLetter name.text, fun c hc => name.plain c ((dropLetter_suffix _).mem hc)⟩

lemma dropParameters_eq_self (h : '(' ∉ t) : dropParameters t = t := by
  rw [dropParameters, List.takeWhile_eq_self_iff]
  intro c hc
  exact bne_iff_ne.2 fun heq => h (heq ▸ hc)

lemma Arguments.parameter_not_mem (args : Arguments) : '(' ∉ args.text := by
  induction args with
  | name path => exact fun h => path.plain _ h (by simp)
  | generic path style inner ih =>
    have hpath : '(' ∉ path.text := fun h => path.plain _ h (by simp)
    cases style <;> simp [text, Brackets.enclose, Brackets.opening, Brackets.closing, hpath, ih]
  | more first rest ihfirst ihrest => simp [text, ihfirst, ihrest]

lemma bare_generic (name : Path) :
    dropParameters (dropLetter (name.generic style args)) = name.bare.generic style args := by
  have hletter : dropLetter (name.generic style args) = name.bare.generic style args := by
    cases style <;> exact dropLetter_append (by decide) (by decide)
  rw [hletter]
  apply dropParameters_eq_self
  have hname : '(' ∉ name.bare.text := fun h => name.bare.plain _ h (by simp)
  have hargs := args.parameter_not_mem
  cases style <;>
    simp [Path.generic, Brackets.enclose, Brackets.opening, Brackets.closing, hname, hargs]

lemma bare_ofArity (name : Path) (n : Nat) :
    dropParameters (dropLetter (name.ofArity n)) = name.bare.ofArity n := by
  have hletter : dropLetter (name.ofArity n) = name.bare.ofArity n :=
    dropLetter_append (by decide) (by decide)
  rw [hletter]
  exact dropParameters_eq_self fun h => Path.mem_ofArity h (by simp)

/-! ### Pages -/

/-- The page of a name, written in lower case and without backticks and plus signs. -/
def page (name : Text) : Text :=
  lower (replaceChar '+' ['.'] (replace arityRun ('-' :: ·) name))

/-- The base of an address without slashes at its end. -/
def bareBase (base : Text) : Text :=
  (base.reverse.dropWhile (· == '/')).reverse

lemma externalUrl_eq (name base : Text) :
    externalUrl name base = bareBase base ++ '/' ::
      page (replace genericArguments arityOfArguments (dropParameters (dropLetter name))) :=
  rfl

/-- An arity is a run of backticks with digits behind it. -/
lemma arityRun_eq_some {digits : Text} (h : arityRun before t = some (digits, rest)) :
    ∃ u, t = u ++ digits ++ rest ∧ (∀ d ∈ u, d = '`') ∧ ∀ d ∈ digits, Text.isDigit d = true := by
  unfold arityRun at h
  split at h
  case h_1 cs =>
    unfold arityAfter at h
    dsimp only at h
    generalize ht : '`' :: cs = t at h
    split at h
    · cases h
    · obtain ⟨rfl, rfl⟩ := Prod.mk.inj (Option.some.inj h)
      refine ⟨t.takeWhile (· == '`'), ?_, fun d hd => ?_, fun d hd => List.mem_takeWhile_imp hd⟩
      · have hdrop : t.drop (t.takeWhile (· == '`')).length = t.dropWhile (· == '`') := by
          conv_lhs => arg 2; rw [← List.takeWhile_append_dropWhile (p := (· == '`')) (l := t)]
          exact List.drop_left
        rw [List.append_assoc, List.takeWhile_append_dropWhile, hdrop,
          List.takeWhile_append_dropWhile]
      · simpa using List.mem_takeWhile_imp hd
  · cases h

lemma mem_replace_arityRun (h : c ∈ separators) :
    c ∈ replace arityRun ('-' :: ·) t ↔ c ∈ t := by
  have hother : ∀ d ∈ separators, d ≠ '-' ∧ d ≠ '`' ∧ Text.isDigit d = false :=
    List.all_iff_forall_prop.1 (by decide)
  obtain ⟨hhyphen, htick, hdigit⟩ := hother c h
  have hnot {u : Text} (hu : ∀ d ∈ u, Text.isDigit d = true) : c ∉ u := fun hmem => by
    simp [hu c hmem] at hdigit
  rw [replace_eq_flatMap]
  constructor
  · intro hmem
    obtain ⟨piece, hpiece, hmem⟩ := List.mem_flatMap.1 hmem
    cases piece with
    | plain d =>
      obtain rfl := List.mem_singleton.1 hmem
      refine mem_of_plain_mem (fun hfound => ?_) hpiece
      obtain ⟨u, rfl, -⟩ := arityRun_eq_some hfound
      exact List.suffix_append _ _
    | found digits =>
      obtain ⟨_, _, _, hfound⟩ := exists_of_found_mem hpiece
      obtain ⟨-, -, -, hdigits⟩ := arityRun_eq_some hfound
      exact absurd ((List.mem_cons.1 hmem).resolve_left hhyphen) (hnot hdigits)
  · intro hmem
    refine List.mem_flatMap.2 ⟨.plain c, plain_mem_of_mem (fun hfound => ?_) hmem, by
      simp [Piece.text]⟩
    obtain ⟨u, rfl, hticks, hdigits⟩ := arityRun_eq_some hfound
    refine ⟨u ++ _, rfl, fun hmem => ?_⟩
    rcases List.mem_append.1 hmem with hmem | hmem
    · exact htick (hticks c hmem)
    · exact hnot hdigits hmem

/-- Outside ASCII no character becomes a separator in lower case. The Kelvin sign, which becomes a
plain letter, is the one that moves into ASCII. -/
lemma shifted_lowerRuns {n : Nat} (h : 128 ≤ n) :
    128 ≤ shifted lowerRuns n ∨ shifted lowerRuns n = 'k'.toNat := by
  have hruns : ∀ r ∈ lowerRuns, 128 ≤ (r.1 : Int) + r.2.2.2 ∨
      r.1 = r.2.1 ∧ (r.1 : Int) + r.2.2.2 = 'k'.toNat := by decide +kernel
  unfold shifted
  split
  case h_1 first last step offset hfind =>
    have hrun := hruns _ (List.mem_of_find?_eq_some hfind)
    have hholds := List.find?_some hfind
    simp only [Bool.and_eq_true, decide_eq_true_eq] at hholds hrun
    omega
  · exact .inl h

lemma ofNat_not_mem_separators {n : Nat} (h : 128 ≤ n) : Char.ofNat n ∉ separators := by
  have hascii : ∀ d ∈ separators, d.toNat < 128 := List.all_iff_forall_prop.1 (by decide)
  by_cases hn : n.isValidChar
  · intro hmem
    have hlt := hascii _ hmem
    rw [Char.ofNat, dif_pos hn] at hlt
    exact Nat.not_lt.2 h hlt
  · rw [Char.ofNat, dif_neg hn]
    decide

lemma mem_lowerChar {d : Char} (h : c ∈ separators) : c ∈ lowerChar d ↔ c = d := by
  have hseparators : ∀ d ∈ separators, d.toNat < 128 ∧ lowerChar d = [d] :=
    List.all_iff_forall_prop.1 (by decide)
  have hascii : ∀ n < 128, (separators.all fun c =>
      decide (c = (Char.ofNat n).toLower → c = Char.ofNat n)) = true := by decide
  constructor
  · intro hmem
    unfold lowerChar at hmem
    split at hmem
    case isTrue hd =>
      have heq := List.all_iff_forall_prop.1 (hascii d.toNat hd) c h
      rw [Char.ofNat_toNat] at heq
      exact heq (List.mem_singleton.1 hmem)
    case isFalse hd =>
      split at hmem
      · have hdotted : ∀ d ∈ separators, d ∉ ['i', Char.ofNat 0x307] :=
          List.all_iff_forall_prop.1 (by decide)
        exact absurd hmem (hdotted c h)
      · rw [List.mem_singleton.1 hmem] at h
        rcases shifted_lowerRuns (Nat.le_of_not_lt hd) with hle | heq
        · exact absurd h (ofNat_not_mem_separators hle)
        · rw [heq] at h
          exact absurd h (by decide)
  · rintro rfl
    rw [(hseparators c h).2]
    exact List.mem_singleton.2 rfl

lemma mem_lower (h : c ∈ separators) : c ∈ lower t ↔ c ∈ t := by
  have hsigma : ∀ d ∈ separators, d ∉ [Char.ofNat 0x3c2] ∧ d ∉ [Char.ofNat 0x3c3] ∧
      d ≠ Char.ofNat 0x3a3 := List.all_iff_forall_prop.1 (by decide)
  obtain ⟨hfinal, hmiddle, hcapital⟩ := hsigma c h
  have hafter (before t : Text) : c ∈ lowerAfter before t ↔ c ∈ t := by
    induction t generalizing before with
    | nil => rfl
    | cons d t ih =>
      rw [lowerAfter, List.mem_append, ih, List.mem_cons]
      refine or_congr_left ?_
      split
      case isTrue hd =>
        have hne : c ≠ d := by
          rintro rfl
          exact hcapital (by rw [← hd, Char.ofNat_toNat])
        split <;> simp only [hfinal, hmiddle, hne]
      · exact mem_lowerChar h
  exact hafter [] t

lemma mem_page (h : c ∈ separators) : c ∈ page t ↔ c ∈ t := by
  have hsigns : ∀ d ∈ separators, d ≠ '.' ∧ d ≠ '+' :=
    List.all_iff_forall_prop.1 (by decide)
  obtain ⟨hdot, hplus⟩ := hsigns c h
  have hchar (u : Text) : c ∈ replaceChar '+' ['.'] u ↔ c ∈ u := by
    induction u with
    | nil => rfl
    | cons d u ih =>
      rw [replaceChar, List.flatMap_cons, List.mem_append, List.mem_cons]
      refine or_congr ?_ ih
      split
      case isTrue hd => simp [hdot, hd, hplus]
      · exact List.mem_singleton
  rw [page, mem_lower h, hchar, mem_replace_arityRun h]

/-- **A type has one page for all its spellings, unless its arguments are nested.** A type is
written with its arguments, in brackets of either style, or with their number. The address of its
page is the same for both exactly if no argument has arguments of its own, and behind the base the
address for the number has no separators. -/
theorem externalUrl_generic_iff (name : Path) (base : Text) (args : Arguments) (style : Brackets) :
    (externalUrl (name.generic style args) base = externalUrl (name.ofArity args.count) base ↔
        args.Flat) ∧
      ∃ page, externalUrl (name.ofArity args.count) base = bareBase base ++ '/' :: page ∧
        ∀ c ∈ page, c ∉ separators := by
  have harity : externalUrl (name.ofArity args.count) base =
      bareBase base ++ '/' :: page (name.bare.ofArity args.count) := by
    rw [externalUrl_eq, bare_ofArity, replace_ofArity]
  have hpage : ∀ c ∈ page (name.bare.ofArity args.count), c ∉ separators := fun c hc hsep =>
    Path.mem_ofArity ((mem_page hsep).1 hc) (List.mem_cons_of_mem _ hsep)
  refine ⟨⟨fun heq => ?_, fun hflat => ?_⟩, _, harity, hpage⟩
  · by_contra hnested
    rw [harity, externalUrl_eq, bare_generic, List.append_cancel_left_eq,
      List.cons_inj_right] at heq
    have hsep : style.opening ∈ separators := by cases style <;> decide
    have hmem := (mem_page hsep).2 (@opening_mem_replace args style name.bare hnested)
    rw [heq] at hmem
    exact hpage _ hmem hsep
  · rw [harity, externalUrl_eq, bare_generic, replace_generic_of_flat _ hflat]

/-- The brackets around a nested list stay, and the number of the inner arguments is shown. -/
theorem externalUrl_nested :
    externalUrl "System.List<Pair<A,B>>".toList "https://x".toList =
        "https://x/system.list<pair-2>".toList ∧
      externalUrl "System.List`1".toList "https://x".toList = "https://x/system.list-1".toList := by
  decide +kernel

end LinkedDocs.Symbol
