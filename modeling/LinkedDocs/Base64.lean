import LinkedDocs.Text.Basic

/-!
# Base 64

Bytes written in the letters of base 64, each of which stands for six bits. Characters that are no
letters are passed over, and padding ends the text once it completes a group of four.
-/

namespace LinkedDocs.Base64

/-- The six bits that a letter stands for. -/
def digit? (c : Char) : Option Nat :=
  if 'A' ≤ c ∧ c ≤ 'Z' then some (c.toNat - 'A'.toNat)
  else if 'a' ≤ c ∧ c ≤ 'z' then some (c.toNat - 'a'.toNat + 26)
  else if '0' ≤ c ∧ c ≤ '9' then some (c.toNat - '0'.toNat + 52)
  else if c = '+' then some 62
  else if c = '/' then some 63
  else none

/-- The bytes from a place within a group of four on: `left` are the bits that no byte has taken, and
`pads` the padding characters since the last letter. A group must not end early without padding. -/
def bytesFrom? (place left pads : Nat) : Text → Option (List UInt8)
  | [] => if place = 0 then some [] else none
  | c :: cs =>
    if c = '=' then
      if place < 2 then bytesFrom? place left pads cs
      else if 4 ≤ place + pads + 1 then some []
      else bytesFrom? place left (pads + 1) cs
    else
      match digit? c with
      | none => bytesFrom? place left pads cs
      | some d =>
        match place with
        | 0 => bytesFrom? 1 d 0 cs
        | 1 => (bytesFrom? 2 (d % 16) 0 cs).map ((4 * left + d / 16).toUInt8 :: ·)
        | 2 => (bytesFrom? 3 (d % 4) 0 cs).map ((16 * left + d / 4).toUInt8 :: ·)
        | _ => (bytesFrom? 0 0 0 cs).map ((64 * left + d).toUInt8 :: ·)

/-- The bytes that an ASCII text writes. -/
def bytes? (t : Text) : Option (List UInt8) :=
  if t.all (·.toNat < 0x80) then bytesFrom? 0 0 0 t else none

/-- The letter for six bits. -/
def letter (n : Nat) : Char :=
  if n < 26 then Char.ofNat ('A'.toNat + n)
  else if n < 52 then Char.ofNat ('a'.toNat + (n - 26))
  else if n < 62 then Char.ofNat ('0'.toNat + (n - 52))
  else if n = 62 then '+'
  else '/'

/-- The bytes in the letters of base 64, padded to groups of four. -/
def text : List UInt8 → Text
  | [] => []
  | [a] => [letter (a.toNat / 4), letter (a.toNat % 4 * 16), '=', '=']
  | [a, b] =>
    [letter (a.toNat / 4), letter (a.toNat % 4 * 16 + b.toNat / 16), letter (b.toNat % 16 * 4), '=']
  | a :: b :: c :: rest =>
    letter (a.toNat / 4) :: letter (a.toNat % 4 * 16 + b.toNat / 16) ::
      letter (b.toNat % 16 * 4 + c.toNat / 64) :: letter (c.toNat % 64) :: text rest

end LinkedDocs.Base64
