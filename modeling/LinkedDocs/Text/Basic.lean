/-!
# Text

Text is a list of code points. This module holds the blank characters, trimming, lines, and
tables of character ranges.
-/

namespace LinkedDocs

/-- A sequence of code points. -/
abbrev Text := List Char

namespace Text

/-- Whether the code point lies in one of the ranges, ends included. -/
def inRanges (ranges : List (Nat × Nat)) (c : Char) : Bool :=
  ranges.any fun r => r.1 ≤ c.toNat && c.toNat ≤ r.2

/-- The blank characters: spaces of every width, line and paragraph breaks, and the separators
U+001C to U+001F. -/
def blankRanges : List (Nat × Nat) :=
  [(0x09, 0x0d), (0x1c, 0x20), (0x85, 0x85), (0xa0, 0xa0), (0x1680, 0x1680), (0x2000, 0x200a),
    (0x2028, 0x2029), (0x202f, 0x202f), (0x205f, 0x205f), (0x3000, 0x3000)]

/-- Whether the character is blank. -/
def isBlank (c : Char) : Bool :=
  inRanges blankRanges c

/-- The text without its leading blanks. -/
def stripLeft (t : Text) : Text :=
  t.dropWhile isBlank

/-- The text without its trailing blanks. -/
def stripRight (t : Text) : Text :=
  (t.reverse.dropWhile isBlank).reverse

/-- The text without blanks at either end. -/
def strip (t : Text) : Text :=
  stripRight (stripLeft t)

/-- Whether the text has blanks only. -/
def isBlankText (t : Text) : Bool :=
  t.all isBlank

/-- The text without leading and trailing occurrences of a character. -/
def trimChar (c : Char) (t : Text) : Text :=
  ((t.dropWhile (· == c)).reverse.dropWhile (· == c)).reverse

/-- The parts between the occurrences of a character; there is always at least one. -/
def splitOn (separator : Char) : Text → List Text
  | [] => [[]]
  | c :: cs =>
    match splitOn separator cs with
    | [] => [[c]]
    | part :: parts =>
      if c = separator then [] :: part :: parts else (c :: part) :: parts

theorem splitOn_ne_nil (separator : Char) (t : Text) : splitOn separator t ≠ [] := by
  cases t with
  | nil => simp [splitOn]
  | cons c t =>
    rw [splitOn]
    split
    · simp
    · split <;> simp

/-- The parts with a text between neighbours. -/
def join (separator : Text) : List Text → Text
  | [] => []
  | [part] => part
  | part :: parts => part ++ separator ++ join separator parts

/-- The parts as they are listed in a sentence. -/
def enumeration : List Text → Text
  | [] => []
  | [a] => a
  | [a, b] => a ++ " and ".toList ++ b
  | [a, b, c] => a ++ ", ".toList ++ b ++ ", and ".toList ++ c
  | a :: rest => a ++ ", ".toList ++ enumeration rest

/-- Every occurrence of a character replaced by a text. -/
def replaceChar (c : Char) (image : Text) (t : Text) : Text :=
  t.flatMap fun d => if d = c then image else [d]

theorem replaceChar_eq_self {c : Char} {image t : Text} (h : c ∉ t) : replaceChar c image t = t := by
  induction t with
  | nil => rfl
  | cons d t ih =>
    obtain ⟨hd, ht⟩ : c ≠ d ∧ c ∉ t := by simpa using h
    rw [replaceChar, List.flatMap_cons, if_neg (Ne.symm hd)]
    exact congrArg (d :: ·) (ih ht)

/-- What follows a leading text, if the text starts with it. -/
def dropLead? : (lead : Text) → Text → Option Text
  | [], t => some t
  | _ :: _, [] => none
  | p :: ps, c :: cs => if p = c then dropLead? ps cs else none

/-- Whether the text starts with another. -/
def startsWith (lead t : Text) : Bool :=
  (dropLead? lead t).isSome

/-- Whether the text has another as a part. -/
def hasPart (part : Text) : Text → Bool
  | [] => part.isEmpty
  | c :: cs => startsWith part (c :: cs) || hasPart part cs

/-- Line ends in any of the three forms become a line feed. -/
def unifyLineEnds : Text → Text
  | [] => []
  | '\r' :: '\n' :: cs => '\n' :: unifyLineEnds cs
  | c :: cs => (if c = '\r' then '\n' else c) :: unifyLineEnds cs

/-- The decimal digits of a number. -/
def ofNat (n : Nat) : Text :=
  Nat.toDigits 10 n

/-- The decimal digits of a number, with zeros in front up to a width. -/
def padded (width n : Nat) : Text :=
  let digits := ofNat n
  List.replicate (width - digits.length) '0' ++ digits

/-- The decimal digits of an integer, with a minus sign if it is negative. -/
def ofInt : Int → Text
  | .ofNat n => ofNat n
  | .negSucc n => '-' :: ofNat (n + 1)

end Text

end LinkedDocs
