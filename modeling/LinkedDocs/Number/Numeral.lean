import LinkedDocs.Number.Double
import LinkedDocs.Text.Digit

/-!
# Numbers written as text

An integer is decimal digits of any script after an optional sign, a decimal may have a point and an
exponent. Single underscores may stand between digits, and blanks around the whole.
-/

namespace LinkedDocs.Numeral

open Text

/-- The blanks allowed around a number: all but the separators U+001C to U+001F. -/
def isMargin (c : Char) : Bool :=
  isBlank c && !(0x1c ≤ c.toNat && c.toNat ≤ 0x1f)

/-- The text without blanks around it. -/
def trim (t : Text) : Text :=
  ((t.dropWhile isMargin).reverse.dropWhile isMargin).reverse

/-- The text without underscores, each of which must stand between two digits. `before` says whether
a digit comes before the text. -/
def dropUnderscores? (isDigit : Char → Bool) (before : Bool) : Text → Option Text
  | [] => some []
  | '_' :: cs =>
    match cs with
    | d :: _ => if before && isDigit d then dropUnderscores? isDigit false cs else none
    | [] => none
  | c :: cs => (dropUnderscores? isDigit (isDigit c) cs).map (c :: ·)

/-- A sign, and the text after it. -/
def splitSign : Text → Bool × Text
  | '-' :: cs => (true, cs)
  | '+' :: cs => (false, cs)
  | cs => (false, cs)

/-- The most digits an integer may be written with. -/
def maxDigits : Nat := 4300

/-- How reading an integer can end. -/
inductive IntegerReading where
  | integer (n : Int)
  | malformed
  | tooLong (digits : Nat)

/-- The value of a digit in any base: a decimal digit of any script, or a letter. -/
def digitIn? (base : Nat) (c : Char) : Option Nat :=
  let value := (digitValue? c).or <|
    if 'a' ≤ c ∧ c ≤ 'z' then some (c.toNat - 'a'.toNat + 10)
    else if 'A' ≤ c ∧ c ≤ 'Z' then some (c.toNat - 'A'.toNat + 10)
    else none
  value.filter (· < base)

/-- The letter that may mark the base after a zero. -/
def baseMark? : (base : Nat) → Option Char
  | 2 => some 'b'
  | 8 => some 'o'
  | 16 => some 'x'
  | _ => none

/-- The text without the mark of its base, which one underscore may follow. -/
def dropBaseMark (base : Nat) : Text → Text
  | z :: c :: cs =>
    if digitValue? z = some 0 && baseMark? base = some c.toLower then
      match cs with
      | '_' :: cs => cs
      | cs => cs
    else z :: c :: cs
  | t => t

/-- Whether numbers in the base may have any length. -/
def isUnbounded (base : Nat) : Bool :=
  (baseMark? base).isSome

/-- Whether the character is a digit in the base. -/
def isDigitIn (base : Nat) (c : Char) : Bool :=
  (digitIn? base c).isSome

/-- Whether the character can stand among the digits of a number in the base. -/
def isSpacedDigitIn (base : Nat) (c : Char) : Bool :=
  isDigitIn base c || c = '_'

/-- The integer that the text writes in a base. That there are too many digits is said also where no
number could stand because of what comes after them. -/
def readIntegerIn (base : Nat) (t : Text) : IntegerReading :=
  let (negative, body) := splitSign (t.dropWhile isMargin)
  let body := dropBaseMark base body
  match dropUnderscores? (isDigitIn base) false (body.takeWhile (isSpacedDigitIn base)) with
  | none => .malformed
  | some [] => .malformed
  | some digits =>
    if maxDigits < digits.length && !isUnbounded base then .tooLong digits.length
    else if (body.dropWhile (isSpacedDigitIn base)).all isMargin then
      let n := digits.foldl (fun n c => base * n + (digitIn? base c).getD 0) 0
      .integer (if negative then -(n : Int) else n)
    else .malformed

/-- The integer that the text writes. -/
def readInteger (t : Text) : IntegerReading :=
  readIntegerIn 10 t

/-- The number `digits * 10 ^ exponent`. Sizes far out of range are not computed. -/
def decimal (negative : Bool) (digits : Text) (exponent : Int) : Double :=
  let n := digitsValue digits
  let size : Int := digits.length + exponent
  if n = 0 then .zero negative
  else if 400 < size ∧ 400 < (Text.ofNat n).length + exponent then .infinite negative
  else if size < -400 then .zero negative
  else .ofRatio negative (n * Nat.pow 10 exponent.toNat) (Nat.pow 10 (-exponent).toNat)

/-- An exponent part: nothing, or a mark, an optional sign and digits. -/
def exponentPart? : Text → Option Int
  | [] => some 0
  | c :: cs =>
    let (negative, digits) := splitSign cs
    if (c = 'e' || c = 'E') && digits != [] && digits.all isDigit then
      let n : Int := digitsValue digits
      some (if negative then -n else n)
    else none

/-- The decimal with digits, an optional point and an optional exponent. -/
def unsignedDecimal? (negative : Bool) (t : Text) : Option Double :=
  let whole := t.takeWhile isDigit
  let rest := t.dropWhile isDigit
  let (places, tail) := match rest with
    | '.' :: cs => (cs.takeWhile isDigit, cs.dropWhile isDigit)
    | cs => ([], cs)
  if whole ++ places = [] then none
  else (exponentPart? tail).map fun e => decimal negative (whole ++ places) (e - places.length)

/-- The number that the text writes, which may also be infinite or undefined. -/
def readDouble? (t : Text) : Option Double :=
  let (negative, body) := splitSign (trim t)
  let word := body.map Char.toLower
  if word = "inf".toList || word = "infinity".toList then some (.infinite negative)
  else if word = "nan".toList then some .nan
  else (dropUnderscores? isDigit false body).bind (unsignedDecimal? negative)

end LinkedDocs.Numeral
