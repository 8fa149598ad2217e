import LinkedDocs.Screen.Width
import LinkedDocs.Text.Pieces

/-!
# Lines on a screen

Terminal escape sequences, and the breaking of lines that are too long: between words where possible,
within a word that is longer than a line.
-/

namespace LinkedDocs.Screen

/-- Whether the character can be a parameter of an escape sequence: a digit, a separator or a mark of
private use. -/
def isParameter (c : Char) : Bool :=
  '0' ≤ c && c ≤ '?'

/-- Whether the character can come between the parameters and the end of an escape sequence. -/
def isIntermediate (c : Char) : Bool :=
  ' ' ≤ c && c ≤ '/'

/-- Whether the character ends an escape sequence. -/
def isFinal (c : Char) : Bool :=
  '@' ≤ c && c ≤ '~'

/-- An escape sequence: escape, bracket, parameters, intermediate characters and a final one. -/
def escapeSequence : Text.Recogniser Unit := fun _ t =>
  match t with
  | '\x1b' :: '[' :: rest =>
    match (rest.dropWhile isParameter).dropWhile isIntermediate with
    | c :: after => if isFinal c then some ((), after) else none
    | [] => none
  | _ => none

/-- The text without escape sequences. -/
def dropEscapes (t : Text) : Text :=
  Text.replace escapeSequence (fun _ => []) t

/-- The text cut before every word but the first; blanks belong to the word before them. -/
def words : Text → List Text
  | [] => []
  | c :: cs =>
    match words cs with
    | [] => [[c]]
    | word :: more =>
      if Text.isBlank c && !(word.head?.any Text.isBlank) then [c] :: word :: more
      else (c :: word) :: more

/-- The words, with leading blanks belonging to the first. -/
def phrases (t : Text) : List Text :=
  match words t with
  | first :: second :: more =>
    if Text.isBlankText first then (first ++ second) :: more else first :: second :: more
  | few => few

/-- The text cut into parts that are at most `limit` columns wide. `taken` is how many columns the
first part has taken already. -/
def chop (limit taken : Nat) : Text → List Text
  | [] => [[]]
  | c :: cs =>
    let w := charWidth c
    if limit < taken + w then
      match chop limit w cs with
      | part :: parts => [] :: (c :: part) :: parts
      | [] => [[], [c]]
    else
      match chop limit (taken + w) cs with
      | part :: parts => (c :: part) :: parts
      | [] => [[c]]

/-- Lays words out in lines, `line` being the line that is not full yet. -/
def fill (limit : Nat) (line : Text) : List Text → List Text
  | [] => [line]
  | word :: more =>
    let size := width (Text.stripRight word)
    if width line + size ≤ limit then fill limit (line ++ word) more
    else if size ≤ limit then line :: fill limit word more
    else
      let parts := chop limit 0 word
      let full := if line.isEmpty then parts.dropLast else line :: parts.dropLast
      full ++ fill limit (parts.getLast?.getD []) more

/-- The control characters that a screen does not show. -/
def isHidden (c : Char) : Bool :=
  c = '\x07' || c = '\x08' || c = '\x0b' || c = '\x0c' || c = '\r'

/-- The line with every tab filled up to a multiple of eight columns. -/
def expandTabs (column : Nat) : Text → Text
  | [] => []
  | c :: cs =>
    if c = '\t' then
      let n := 8 - column % 8
      List.replicate n ' ' ++ expandTabs (column + n) cs
    else c :: expandTabs (column + charWidth c) cs

/-- The lines that a text takes on a screen. -/
def lines (limit : Nat) (t : Text) : List Text :=
  (Text.splitOn '\n' (t.filter (!isHidden ·))).flatMap fun line =>
    (fill limit [] (phrases (expandTabs 0 line))).map Text.stripRight

end LinkedDocs.Screen
