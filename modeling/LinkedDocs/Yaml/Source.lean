import LinkedDocs.Text.Basic

/-!
# Located source

A YAML text is read with the place of every character, because indentation has a meaning. This
module holds the places, the characters that may occur, and the character classes of the format.
-/

namespace LinkedDocs.Yaml

/-- Where a character stands. Everything counts from zero. -/
structure Place where
  index : Nat
  line : Nat
  column : Nat

/-- A text, each character with its place. -/
abbrev Source := List (Char × Place)

/-- The mark that may stand in front of a text. -/
def byteOrderMark : Char := '\ufeff'

/-- Whether the character ends a line. -/
def isBreak (c : Char) : Bool :=
  c = '\n' || c = '\x85' || c = '\u2028' || c = '\u2029'

/-- What a line break means within a scalar. -/
def breakText (c : Char) : Text :=
  if c = '\u2028' || c = '\u2029' then [c] else ['\n']

/-- The characters that may occur in a text. -/
def allowedRanges : List (Nat × Nat) :=
  [(0x09, 0x0a), (0x0d, 0x0d), (0x20, 0x7e), (0x85, 0x85), (0xa0, 0xd7ff), (0xe000, 0xfffd),
    (0x10000, 0x10ffff)]

/-- Whether the character may occur in a text. -/
def isAllowed (c : Char) : Bool :=
  Text.inRanges allowedRanges c

/-- The mark at which a text cannot be read on. It may not occur in a text itself. -/
def endMark : Char := '\x00'

/-- The place after a character. A byte order mark takes no column. -/
def Place.after (p : Place) (c : Char) : Place :=
  if isBreak c then ⟨p.index + 1, p.line + 1, 0⟩
  else if c = byteOrderMark then { p with index := p.index + 1 }
  else { p with index := p.index + 1, column := p.column + 1 }

/-- A text with places. -/
def located (t : Text) : Source :=
  let start : Source × Place := ([], ⟨0, 0, 0⟩)
  (t.foldl (fun (done, p) c => ((c, p) :: done, p.after c)) start).1.reverse

/-- The source of a text, without the mark that may stand in front of it. -/
def Source.ofText (t : Text) : Source :=
  match Text.unifyLineEnds t with
  | c :: cs => located (if c = byteOrderMark then cs else c :: cs)
  | [] => []

namespace Source

/-- The characters without their places. -/
def text (s : Source) : Text :=
  s.map (·.1)

/-- Whether the source ends here or goes on with a character of a class. -/
def endsOr (p : Char → Bool) : Source → Bool
  | [] => true
  | (c, _) :: _ => p c

/-- Whether a word ends before the character: at a blank, a tab or a line break. -/
def isGap (c : Char) : Bool :=
  c = ' ' || c = '\t' || isBreak c

/-- Whether a gap or the end comes next. -/
def atGap (s : Source) : Bool :=
  s.endsOr isGap

/-- The source from the end of the line on. -/
def skipLine (s : Source) : Source :=
  s.dropWhile fun (c, _) => !isBreak c

/-- The source from the first character on that is no space. -/
def skipSpaces (s : Source) : Source :=
  s.dropWhile fun (c, _) => c = ' '

/-- The source after spaces and line breaks, and whether there is a break among them. -/
def afterFill (s : Source) : Source × Bool :=
  (s.dropWhile fun (c, _) => c = ' ' || isBreak c,
    (s.takeWhile fun (c, _) => c = ' ' || isBreak c).any fun (c, _) => isBreak c)

/-- Whether the next three characters are the given one and a gap comes after them. -/
def startsMark (c : Char) (s : Source) : Bool :=
  text (s.take 3) = [c, c, c] && atGap (s.drop 3)

/-- Whether a document marker comes next. -/
def startsDocumentMark (s : Source) : Bool :=
  s.startsMark '-' || s.startsMark '.'

/-- What comes after the rest of a line that holds at most spaces and a comment. -/
def afterBlankLine? (s : Source) : Option Source :=
  let s := s.skipSpaces
  let s := match s with
    | ('#', _) :: _ => s.skipLine
    | _ => s
  match s with
  | [] => some []
  | (c, _) :: rest => if isBreak c then some rest else none

/-- The next token's beginning, and whether a line break comes before it. Spaces, comments and
line breaks separate tokens; a tab does not. -/
def toToken (inComment broke : Bool) : Source → Source × Bool
  | [] => ([], broke)
  | (c, p) :: rest =>
    if isBreak c then toToken false true rest
    else if inComment then toToken true broke rest
    else if c = ' ' then toToken false broke rest
    else if c = '#' then toToken true broke rest
    else ((c, p) :: rest, broke)

end Source

end LinkedDocs.Yaml
