import LinkedDocs.Base64
import LinkedDocs.Fault
import LinkedDocs.Number.Numeral
import LinkedDocs.Text.Case

/-!
# The meaning of scalars

A scalar without quotes can be null, a truth value, a number, a date or a moment; everything else is
text. Integers are decimal, or binary after `0b`, octal after `0`, hexadecimal after `0x`, or have
parts of sixty between colons. Decimals have a point, and their exponent a sign. Underscores within
numbers do not count. A tag can give any text a meaning, and then the text need not be of the form
that has it by itself.
-/

namespace LinkedDocs.Yaml

/-- What a plain scalar is. -/
inductive Meaning where
  | null
  | bool
  | int
  | double
  /-- A date or a moment. -/
  | time
  | binary
  /-- The key whose value is merged into the map. -/
  | merge
  /-- The sign for a default value. -/
  | default
  /-- One of the signs before names and tags, by itself. It has no value. -/
  | reserved
  | text
deriving DecidableEq

namespace Meaning

/-- The words for true and false. -/
def truths : List (Text × Bool) :=
  [("yes".toList, true), ("no".toList, false), ("true".toList, true), ("false".toList, false),
    ("on".toList, true), ("off".toList, false)]

/-- The ways to write a word: in small letters, capitalised, in capitals. -/
def spellings (word : Text) : List Text :=
  let capitals := word.map Char.toUpper
  [word, capitals.take 1 ++ word.drop 1, capitals]

/-- The truth value that a word stands for. -/
def truth? (t : Text) : Option Bool :=
  (truths.find? fun (word, _) => (spellings word).contains t).map (·.2)

/-- Whether the text stands for nothing. -/
def isNull (t : Text) : Bool :=
  t.isEmpty || t = ['~'] || (spellings "null".toList).contains t

/-- Whether the character is a decimal digit or an underscore. -/
def isSpacedDigit (c : Char) : Bool :=
  c.isDigit || c = '_'

/-- Whether the character is a digit in base eight or an underscore. -/
def isSpacedOctal (c : Char) : Bool :=
  ('0' ≤ c && c ≤ '7') || c = '_'

/-- Whether the character is a digit in base two or an underscore. -/
def isSpacedBinary (c : Char) : Bool :=
  c = '0' || c = '1' || c = '_'

/-- Whether the character is a hexadecimal digit or an underscore. -/
def isSpacedHex (c : Char) : Bool :=
  isSpacedDigit c || ('a' ≤ c && c ≤ 'f') || ('A' ≤ c && c ≤ 'F')

/-- Whether the text is a number below sixty, in one or two digits. -/
def isSixtieth : Text → Bool
  | [d] => d.isDigit
  | [t, d] => ('0' ≤ t && t ≤ '5') && d.isDigit
  | _ => false

/-- Whether the text is decimal digits of which the first is no zero. -/
def isCounting : Text → Bool
  | c :: cs => ('1' ≤ c && c ≤ '9') && cs.all isSpacedDigit
  | [] => false

/-- Whether the text is decimal digits. -/
def isDigits : Text → Bool
  | c :: cs => c.isDigit && cs.all isSpacedDigit
  | [] => false

/-- Whether the text is an integer without a sign. -/
def isUnsignedInt (t : Text) : Bool :=
  match t with
  | '0' :: 'b' :: cs => !cs.isEmpty && cs.all isSpacedBinary
  | '0' :: 'x' :: cs => !cs.isEmpty && cs.all isSpacedHex
  | '0' :: cs => cs.all isSpacedOctal
  | _ =>
    match Text.splitOn ':' t with
    | first :: rest => isCounting first && rest.all isSixtieth
    | [] => false

/-- Whether the text is an integer. -/
def isInt (t : Text) : Bool :=
  isUnsignedInt (Numeral.splitSign t).2

/-- Whether the text is an exponent with a sign, or nothing. -/
def isExponent : Text → Bool
  | [] => true
  | e :: sign :: ds =>
    (e = 'e' || e = 'E') && (sign = '-' || sign = '+') && !ds.isEmpty && ds.all Char.isDigit
  | _ => false

/-- Whether the text is digits up to an exponent. -/
def isFraction (t : Text) : Bool :=
  isExponent (t.dropWhile isSpacedDigit)

/-- Whether the text is parts of sixty, the last of them with a point. -/
def isSexagesimal (t : Text) : Bool :=
  match (Text.splitOn ':' t).reverse with
  | last :: before :: rest =>
    isSixtieth (last.takeWhile (· ≠ '.')) &&
      (match last.dropWhile (· ≠ '.') with
        | _ :: places => places.all isSpacedDigit
        | [] => false) &&
      (match (before :: rest).reverse with
        | first :: middle => isDigits first && middle.all isSixtieth
        | [] => false)
  | _ => false

/-- Whether the text is a decimal. -/
def isDouble (t : Text) : Bool :=
  let body := (Numeral.splitSign t).2
  let whole := body.takeWhile isSpacedDigit
  (isDigits whole &&
    (match body.dropWhile isSpacedDigit with
      | '.' :: cs => isFraction cs
      | _ => false)) ||
  (match t with
    | '.' :: c :: cs => c.isDigit && isFraction cs
    | _ => false) ||
  isSexagesimal body ||
  (spellings "inf".toList).any (fun word => body = '.' :: word) ||
  [ ".nan", ".NaN", ".NAN"].any (·.toList = t)

/-! ## Dates and moments -/

/-- A number of at least `least` and at most `most` digits, and the text after it. -/
def digits? (least most : Nat) (t : Text) : Option (Text × Text) :=
  let found := (t.take most).takeWhile Char.isDigit
  if found.length < least then none else some (found, t.drop found.length)

/-- What comes after a character. -/
def after? (c : Char) : Text → Option Text
  | d :: cs => if d = c then some cs else none
  | [] => none

/-- Whether the character is a blank between date and time. -/
def isTimeBlank (c : Char) : Bool :=
  c = ' ' || c = '\t'

/-- What comes after the sign between date and time: a letter, or blanks. -/
def afterTimeMark? : Text → Option Text
  | [] => none
  | c :: cs =>
    if c = 'T' || c = 't' then some cs
    else if isTimeBlank c then some (cs.dropWhile isTimeBlank)
    else none

/-- The microseconds after a point, and the text after them. Six digits count. -/
def fraction (t : Text) : Nat × Text :=
  match t with
  | '.' :: cs =>
    let places := (cs.takeWhile Char.isDigit).take 6
    (Text.digitsValue (places ++ List.replicate (6 - places.length) '0'),
      cs.dropWhile Char.isDigit)
  | _ => (0, t)

/-- The offset of a clock that is not at universal time, and the text after it. -/
def signedOffset? (sign : Int) (t : Text) : Option (Int × Text) :=
  (digits? 1 2 t).bind fun (hours, rest) =>
    let seconds : Int := 3600 * Text.digitsValue hours
    match (after? ':' rest).bind (digits? 2 2) with
    | some (minutes, rest) => some (sign * (seconds + 60 * Text.digitsValue minutes), rest)
    | none => some (sign * seconds, rest)

/-- The offset of the clock, if the text ends with one. -/
def offset? (t : Text) : Option (Option Int) :=
  if t.isEmpty then some none
  else
    let found := match t.dropWhile isTimeBlank with
      | 'Z' :: rest => some ((0 : Int), rest)
      | '+' :: rest => signedOffset? 1 rest
      | '-' :: rest => signedOffset? (-1) rest
      | _ => none
    match found with
    | some (offset, []) => some (some offset)
    | _ => none

/-- The moment on a date that the rest of a text writes. -/
def momentOn? (date : Date) (t : Text) : Option Moment := do
  let (hour, t) ← digits? 1 2 t
  let (minute, t) ← (after? ':' t).bind (digits? 2 2)
  let (second, t) ← (after? ':' t).bind (digits? 2 2)
  let (microsecond, t) := fraction t
  let offset ← offset? t
  return {
    date
    hour := Text.digitsValue hour
    minute := Text.digitsValue minute
    second := Text.digitsValue second
    microsecond, offset }

/-- The date or moment that a text writes, and whether it is written in full: a date by itself has two
digits for the month and two for the day. -/
def time? (t : Text) : Option (Scalar × Bool) := do
  let (year, t) ← digits? 4 4 t
  let (month, t) ← (after? '-' t).bind (digits? 1 2)
  let (day, t) ← (after? '-' t).bind (digits? 1 2)
  let date : Date := ⟨Text.digitsValue year, Text.digitsValue month, Text.digitsValue day⟩
  if t.isEmpty then return (.date date, month.length = 2 && day.length = 2)
  else return (.moment (← momentOn? date (← afterTimeMark? t)), true)

/-- The text without a line feed at its end, unless that is all. -/
def core (t : Text) : Text :=
  match t.reverse with
  | '\n' :: c :: cs => (c :: cs).reverse
  | _ => t

/-- The meaning of a scalar by its form. A line feed at the end does not count. -/
def ofText (t : Text) : Meaning :=
  let t := core t
  if (truth? t).isSome then .bool
  else if isDouble t then .double
  else if isInt t then .int
  else if t = ['<', '<'] then .merge
  else if isNull t then .null
  else if (time? t).any (·.2) then .time
  else if t = ['='] then .default
  else if t = ['!'] || t = ['&'] || t = ['*'] then .reserved
  else .text

/-! ## Reading -/

/-- The truth value that a text stands for. -/
def readTruth (t : Text) : Except Fault Scalar :=
  match truths.lookup (Text.lower t) with
  | some b => .ok (.bool b)
  | none => .error (.absent (.text (Text.lower t)))

/-- The integer that a text writes in a base. -/
def integerIn (base : Nat) (t : Text) : Except Fault Int :=
  match Numeral.readIntegerIn base t with
  | .integer n => .ok n
  | .malformed => .error (.badInteger base (.text t))
  | .tooLong digits => .error (.longInteger digits)

/-- The integer after the sign that a text may start with. -/
def unsignedInt (t : Text) : Except Fault Int :=
  match t with
  | [] => .error .emptyNumber
  | '0' :: 'b' :: cs => integerIn 2 cs
  | '0' :: 'x' :: cs => integerIn 16 cs
  | ['0'] => .ok 0
  | '0' :: _ => integerIn 8 t
  | _ => do
    let parts ← (Text.splitOn ':' t).mapM (integerIn 10)
    return parts.foldl (60 * · + ·) 0

/-- The integer that a text writes. -/
def readInt (t : Text) : Except Fault Scalar :=
  match t.filter (· ≠ '_') with
  | [] => .error .emptyNumber
  | body => do
    let (negative, body) := Numeral.splitSign body
    let n ← unsignedInt body
    return .int (if negative then -n else n)

/-- The decimal that a text writes. -/
def decimal (t : Text) : Except Fault Double :=
  match Numeral.readDouble? t with
  | some x => .ok x
  | none => .error (.badDecimal (.text t))

/-- The decimal with parts of sixty, the last part first, each of which counts `unit` times. -/
def sumSixties (sum : Double) (unit : Nat) : List Double → Except Fault Double
  | [] => .ok sum
  | x :: parts =>
    match Double.ofInt unit with
    | .infinite _ => .error .hugeInteger
    | factor => sumSixties (sum.add (x.mul factor)) (60 * unit) parts

/-- The decimal after the sign that a text may start with. -/
def unsignedDouble (t : Text) : Except Fault Double :=
  if t = ".inf".toList then .ok (.infinite false)
  else if t = ".nan".toList then .ok .nan
  else if t.contains ':' then do
    let parts ← (Text.splitOn ':' t).mapM decimal
    sumSixties (.zero false) 1 parts.reverse
  else decimal t

/-- The decimal that a text writes. -/
def readDouble (t : Text) : Except Fault Scalar :=
  match Text.lower (t.filter (· ≠ '_')) with
  | [] => .error .emptyNumber
  | body => do
    let (negative, body) := Numeral.splitSign body
    let x ← unsignedDouble body
    return .double (if negative then x.neg else x)

/-- What is wrong with a date or moment. -/
def timeFlaw? : Scalar → Option Text
  | .date d => d.flaw?
  | .moment m => m.flaw?
  | _ => none

/-- The date or moment that a text writes. -/
def readTime (t : Text) : Except Fault Scalar :=
  match time? (core t) with
  | none => .error .noDate
  | some (found, _) =>
    match timeFlaw? found with
    | some reason => .error (.badDate reason)
    | none => .ok found

end Meaning

end LinkedDocs.Yaml
