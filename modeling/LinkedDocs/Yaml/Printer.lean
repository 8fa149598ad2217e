import LinkedDocs.Yaml.Meaning
import LinkedDocs.Yaml.Source

/-!
# Printing YAML

Values as YAML text, collections indented. A text is printed without quotes if nothing in it could
be taken for a sign of the format and it means nothing else; in single quotes if it has neither
characters that need an escape nor blanks next to a line break; and in double quotes otherwise.

Within single quotes a line break is printed as it is. A reader takes a next-line character there for
a line feed, so a text with such characters can come back changed.
-/

namespace LinkedDocs.Yaml.Printer

/-! ## Texts -/

/-- How a text is printed. -/
inductive Style where
  | plain
  | single
  | double
deriving DecidableEq

/-- Whether the character can only be printed as an escape. -/
def needsEscape (c : Char) : Bool :=
  !Text.inRanges [(0x0a, 0x0a), (0x20, 0x7e), (0x85, 0x85), (0xa0, 0xd7ff), (0xe000, 0xfefe),
    (0xff00, 0xfffd), (0x10000, 0x10fffe)] c || (Text.half? c).isSome

/-- Whether a character of one class comes right before one of another. -/
def hasPair (first second : Char → Bool) : Text → Bool
  | c :: d :: rest => (first c && second d) || hasPair first second (d :: rest)
  | _ => false

/-- Whether the character is a blank or ends a line. -/
def isSpaceOrBreak (c : Char) : Bool :=
  c = ' ' || isBreak c

/-- Whether the character separates words. -/
def isGap (c : Char) : Bool :=
  c = '\x00' || c = '\t' || c = '\r' || isSpaceOrBreak c

/-- Whether a word ends here. -/
def atGap : Text → Bool
  | [] => true
  | c :: _ => isGap c

/-- The characters that have a meaning at the beginning of a scalar. -/
def leadingSigns : Text :=
  "#,[]\x7b\x7d&*!|>'\"%@`".toList

/-- Whether a colon ends a word, or a hash begins one. -/
def hasInnerSign (afterGap : Bool) : Text → Bool
  | [] => false
  | c :: rest =>
    (c = ':' && atGap rest) || (c = '#' && afterGap) || hasInnerSign (isGap c) rest

/-- Whether something in the text could be taken for a sign of the format. -/
def hasSign (t : Text) : Bool :=
  Text.startsWith "---".toList t || Text.startsWith "...".toList t ||
    match t with
    | [] => false
    | c :: rest =>
      leadingSigns.contains c || ((c = '?' || c = ':' || c = '-') && atGap rest) ||
        hasInnerSign (isGap c) rest

/-- Whether the text can be printed without quotes. -/
def allowsPlain (t : Text) : Bool :=
  !t.isEmpty && !(t.head?.any isSpaceOrBreak) && !(t.getLast?.any isSpaceOrBreak) &&
    !t.any isBreak && !t.any needsEscape && !hasSign t

/-- Whether the text can be printed in single quotes. -/
def allowsSingle (t : Text) : Bool :=
  !t.any needsEscape && !hasPair isBreak (· = ' ') t && !hasPair (· = ' ') isBreak t

/-- The style in which a text is printed. -/
def styleOf (t : Text) : Style :=
  if allowsPlain t && Meaning.ofText t = .text then .plain
  else if allowsSingle t then .single
  else .double

/-- The letters of the short escapes. -/
def shortEscapes : List (Char × Char) :=
  [('\x00', '0'), ('\x07', 'a'), ('\x08', 'b'), ('\t', 't'), ('\n', 'n'), ('\x0b', 'v'),
    ('\x0c', 'f'), ('\r', 'r'), ('\x1b', 'e'), ('"', '"'), ('\\', '\\'), ('\x85', 'N'),
    ('\xa0', '_'), ('\u2028', 'L'), ('\u2029', 'P')]

/-- A character within double quotes: as it is if every reader takes it as it is. -/
def char (c : Char) : Text :=
  match shortEscapes.lookup c, Text.half? c with
  | some e, _ => ['\\', e]
  | none, some half => "\\u".toList ++ Text.hex 4 half
  | none, none =>
    let n := c.toNat
    if Text.inRanges [(0x20, 0x7e), (0xa1, 0xd7ff), (0xe000, 0xfefe), (0xff00, 0xfffd)] c then [c]
    else if n < 0x100 then "\\x".toList ++ Text.hex 2 n
    else if n < 0x10000 then "\\u".toList ++ Text.hex 4 n
    else "\\U".toList ++ Text.hex 8 n

/-- The beginning of a line at a depth. -/
def margin (depth : Nat) : Text :=
  List.replicate (2 * depth) ' '

/-- The text within single quotes, its lines at a depth. A run of line breaks that starts with a line
feed gets one more, because a reader takes a single one for a space. -/
def singleBody (depth : Nat) (afterBreak : Bool) : Text → Text
  | [] => if afterBreak then margin depth else []
  | c :: rest =>
    if isBreak c then
      (if !afterBreak && c = '\n' then ['\n', '\n'] else [c]) ++ singleBody depth true rest
    else
      (if afterBreak then margin depth else []) ++ (if c = '\'' then ['\'', '\''] else [c]) ++
        singleBody depth false rest

/-- A text, its lines at a depth. -/
def text (depth : Nat) (t : Text) : Text :=
  match styleOf t with
  | .plain => t
  | .single => '\'' :: singleBody depth false t ++ ['\'']
  | .double => '"' :: t.flatMap char ++ ['"']

/-! ## Values -/

/-- A number with a point: one without gets it before its exponent. -/
def double : Double → Text
  | .nan => ".nan".toList
  | .infinite negative => (if negative then "-.inf" else ".inf").toList
  | x =>
    let t := x.text
    if t.contains '.' then t
    else t.takeWhile (· ≠ 'e') ++ ".0".toList ++ t.dropWhile (· ≠ 'e')

def scalar (depth : Nat) : Scalar → Text
  | .null => "null".toList
  | .bool b => (if b then "true" else "false").toList
  | .int n => Text.ofInt n
  | .double x => double x
  | .text t => text depth t
  | .bytes bs => "!!binary \"".toList ++ Base64.text bs ++ ['"']
  | other => other.toText

/-- Whether a key can stand before its colon in one line. -/
def isSimpleKey : Scalar → Bool
  | .text t => !t.isEmpty && t.length < 123 && !t.any isBreak
  | _ => true

/-- A key with its colon, its lines at a depth. -/
def key (depth : Nat) (k : Scalar) : Text :=
  if isSimpleKey k then scalar depth k ++ [':']
  else "? ".toList ++ scalar depth k ++ '\n' :: margin (depth - 1) ++ [':']

/-- The entries of a set. -/
def members (depth : Nat) (items : List Scalar) : Text :=
  items.flatMap fun k => '\n' :: margin depth ++ key (depth + 1) k ++ " null".toList

mutual

/-- A value after a key or a dash, its lines at a depth, within the collections with the labels
`shown`. -/
def value (shown : List Nat) (depth : Nat) : Value → Text
  | .scalar s => ' ' :: scalar depth s
  | .list [] => " []".toList
  | .list (v :: vs) => items shown depth (v :: vs)
  | .tuple [] => " []".toList
  | .tuple (v :: vs) => items shown depth (v :: vs)
  | .map [] => " \x7b\x7d".toList
  | .map (e :: es) => entries shown depth (e :: es)
  | .set [] => " !!set \x7b\x7d".toList
  | .set (k :: ks) => " !!set".toList ++ members depth (k :: ks)
  | .knot label body =>
    if shown.contains label then " null".toList else value (label :: shown) depth body

/-- The items of a list. -/
def items (shown : List Nat) (depth : Nat) : List Value → Text
  | [] => []
  | v :: rest =>
    '\n' :: margin depth ++ '-' :: value shown (depth + 1) v ++ items shown depth rest

/-- The entries of a map. -/
def entries (shown : List Nat) (depth : Nat) : List (Scalar × Value) → Text
  | [] => []
  | (k, v) :: rest =>
    '\n' :: margin depth ++ key (depth + 1) k ++ value shown (depth + 1) v ++
      entries shown depth rest

end

/-- The value as a YAML document. -/
def render (v : Value) : Text :=
  match v with
  | .scalar s => scalar 1 s ++ ['\n']
  | v => (value [] 0 v).drop 1 ++ ['\n']

end LinkedDocs.Yaml.Printer
