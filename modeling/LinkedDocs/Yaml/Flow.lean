import LinkedDocs.Text.Surrogate
import LinkedDocs.Yaml.Source

/-!
# Scalars that run over lines

A quoted or plain scalar may go on in the next line: the break becomes a space, unless empty lines
follow, which become line breaks. Blanks around the break do not count. In double quotes a
backslash escapes a character, or the break itself.
-/

namespace LinkedDocs.Yaml

/-- A part of a scalar. -/
inductive Part where
  | char (c : Char)
  | blank (c : Char)
  | newline (c : Char)
  /-- An escaped line break, which joins two lines. -/
  | continued
  /-- An escape with a code that no character has. -/
  | outsized (code : Nat)

/-- What has been read since the last character that counts. -/
inductive Gap where
  /-- Blanks within a line. -/
  | blanks (t : Text)
  /-- A line break, unless it was escaped, and the empty lines after it. -/
  | lines (first : Option Char) (more : Text)

/-- The text that stands for a gap between two characters that count. -/
def Gap.text : Gap → Text
  | .blanks t => t
  | .lines none more => more
  | .lines (some c) more =>
    if breakText c ≠ ['\n'] then breakText c ++ more
    else if more.isEmpty then [' ']
    else more

/-- The gap with a blank after it. -/
def Gap.addBlank (c : Char) : Gap → Gap
  | .blanks t => .blanks (t ++ [c])
  | .lines first more => .lines first more

/-- The gap with a line break after it. -/
def Gap.addBreak (c : Char) : Gap → Gap
  | .blanks _ => .lines (some c) []
  | .lines first more => .lines first (more ++ breakText c)

/-- The text of a quoted scalar. -/
def foldParts : Gap → List Part → Text
  | gap, [] => gap.text
  | gap, .char c :: parts => gap.text ++ c :: foldParts (.blanks []) parts
  | gap, .blank c :: parts => foldParts (gap.addBlank c) parts
  | gap, .newline c :: parts => foldParts (gap.addBreak c) parts
  | gap, .continued :: parts => gap.text ++ foldParts (.lines none []) parts
  | gap, .outsized _ :: parts => foldParts gap parts

/-- The first code in a scalar that no character has. -/
def outsized? (parts : List Part) : Option Nat :=
  parts.findSome? fun
    | .outsized code => some code
    | _ => none

namespace Quoted

/-- The parts of a character that is no quote and no escape. No document marker may stand at the
start of a line. -/
def plainPart? (c : Char) (rest : Source) : Option Part :=
  if isBreak c then
    if rest.startsDocumentMark then none else some (.newline c)
  else if c = ' ' || c = '\t' then some (.blank c)
  else some (.char c)

/-- Puts a part in front of what follows it. -/
def consPart (part : Option Part) (more : Option (List Part × Source)) :
    Option (List Part × Source) :=
  match part, more with
  | some part, some (parts, rest) => some (part :: parts, rest)
  | _, _ => none

/-- The parts up to the closing quote or the end mark, a doubled quote being one that does not close. -/
def singleParts? : Source → Option (List Part × Source)
  | [] => none
  | ('\'', _) :: ('\'', _) :: rest => consPart (some (.char '\'')) (singleParts? rest)
  | (c, _) :: rest =>
    if c = '\'' then some ([], rest)
    else if c = endMark then some ([], [])
    else consPart (plainPart? c rest) (singleParts? rest)

/-- The characters that are written as a backslash and one other character. -/
def escapes : List (Char × Char) :=
  [('0', '\x00'), ('a', '\x07'), ('b', '\x08'), ('t', '\t'), ('\t', '\t'), ('n', '\n'),
    ('v', '\x0b'), ('f', '\x0c'), ('r', '\r'), ('e', '\x1b'), (' ', ' '), ('"', '"'),
    ('\\', '\\'), ('/', '/'), ('N', '\x85'), ('_', '\xa0'), ('L', '\u2028'), ('P', '\u2029')]

/-- How many hexadecimal digits follow the letter of a numeric escape. -/
def codeLength? : Char → Option Nat
  | 'x' => some 2
  | 'u' => some 4
  | 'U' => some 8
  | _ => none

/-- The value of a hexadecimal digit. -/
def hexDigit? (c : Char) : Option Nat :=
  if '0' ≤ c ∧ c ≤ '9' then some (c.toNat - '0'.toNat)
  else if 'a' ≤ c ∧ c ≤ 'f' then some (c.toNat - 'a'.toNat + 10)
  else if 'A' ≤ c ∧ c ≤ 'F' then some (c.toNat - 'A'.toNat + 10)
  else none

/-- The number with the given hexadecimal digits. -/
def hexValue? (digits : Text) : Option Nat :=
  digits.foldl (fun n c => n.bind fun n => (hexDigit? c).map (16 * n + ·)) (some 0)

/-- The part that the escape of a code stands for. -/
def partOfCode (n : Nat) : Part :=
  if Text.isHalfCode n then .char (Text.ofHalf n)
  else if n < 0x110000 then .char (Char.ofNat n)
  else .outsized n

/-- What the parts up to the closing quote are read with: outside an escape, after a backslash, or
within the digits of a numeric escape. -/
inductive Mode where
  | text
  | escape
  | code (width : Nat) (digits : Text)

/-- The parts up to the closing quote or the end mark, with escapes. Reading ends at a code that no
character has. -/
def doubleParts? : Mode → Source → Option (List Part × Source)
  | _, [] => none
  | .text, (c, _) :: rest =>
    if c = '"' then some ([], rest)
    else if c = endMark then some ([], [])
    else if c = '\\' then doubleParts? .escape rest
    else consPart (plainPart? c rest) (doubleParts? .text rest)
  | .escape, (c, _) :: rest =>
    if c = endMark then some ([], [])
    else if isBreak c then
      if Source.startsDocumentMark rest then none
      else consPart (some .continued) (doubleParts? .text rest)
    else
      match escapes.lookup c, codeLength? c with
      | some image, _ => consPart (some (.char image)) (doubleParts? .text rest)
      | none, some width => doubleParts? (.code width []) rest
      | none, none => none
  | .code width digits, (c, _) :: rest =>
    let digits := digits ++ [c]
    if c = endMark then some ([], [])
    else if digits.length < width then doubleParts? (.code width digits) rest
    else
      match (hexValue? digits).map partOfCode with
      | some (.outsized code) => some ([.outsized code], [])
      | part => consPart part (doubleParts? .text rest)

/-- The scalar after an opening single quote, and the source after it. -/
def single? (s : Source) : Option (Text × Source) :=
  (singleParts? s).map fun (parts, rest) => (foldParts (.blanks []) parts, rest)

/-- The scalar after an opening double quote, or a code in it that no character has, and the source
after it. -/
def double? (s : Source) : Option (Except Nat Text × Source) :=
  (doubleParts? .text s).map fun (parts, rest) =>
    match outsized? parts with
    | some code => (.error code, rest)
    | none => (.ok (foldParts (.blanks []) parts), rest)

end Quoted

namespace Plain

/-- Whether the character separates the parts of a list or map in brackets. -/
def isFlowMark (c : Char) : Bool :=
  c = ',' || c = '?' || c = '[' || c = ']' || c = '\x7b' || c = '\x7d'

/-- Whether a colon before the source ends a key: a gap follows, or in brackets a mark. -/
def endsKey (inFlow : Bool) (rest : Source) : Bool :=
  rest.endsOr fun c => Source.isGap c || (inFlow && isFlowMark c && c ≠ '?')

/-- The characters that cannot start a plain scalar. -/
def reserved : Text :=
  "-?:,[]\x7b\x7d#&*!|>'\"%@`".toList

/-- Whether a plain scalar starts here. -/
def starts (inFlow : Bool) : Source → Bool
  | [] => false
  | (c, _) :: rest =>
    (!Source.isGap c && !reserved.contains c) ||
      (!Source.atGap rest && (c = '-' || (!inFlow && (c = '?' || c = ':'))))

/-- Whether a gap is such that a hash after it starts a comment. -/
def startsComment : Gap → Bool
  | .blanks t => !t.isEmpty
  | .lines .. => true

/-- Whether a character after a gap stands too far to the left to belong to the scalar. -/
def isOutside (inFlow : Bool) (indent : Int) (column : Nat) : Gap → Bool
  | .blanks _ => false
  | .lines .. => !inFlow && (column : Int) ≤ indent

/-- The text of a plain scalar from a place within it on, and the source after its last character.
`last` is the source after the last character that has been read, and `indent` the column of the
collection that the scalar stands in. -/
def text (inFlow : Bool) (indent : Int) (last : Source) : Gap → Source → Text × Source
  | _, [] => ([], last)
  | gap, (c, p) :: rest =>
    if c = ' ' then text inFlow indent last (gap.addBlank c) rest
    else if isBreak c then
      if Source.startsDocumentMark rest then ([], last)
      else text inFlow indent last (gap.addBreak c) rest
    else if c = '\t' || (c = '#' && startsComment gap) || (c = ':' && endsKey inFlow rest) ||
        (inFlow && isFlowMark c) || isOutside inFlow indent p.column gap then ([], last)
    else
      let (more, after) := text inFlow indent rest (.blanks []) rest
      (gap.text ++ c :: more, after)

end Plain

end LinkedDocs.Yaml
