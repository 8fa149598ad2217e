import LinkedDocs.Text.Basic

/-!
# Names without regard to case

A name in plain letters is read in any case. Besides the capitals, the long s, the Kelvin sign and
the dotted and dotless forms of i are read as plain letters.
-/

namespace LinkedDocs.Text

/-- The plain letter that a character is read as, or the character itself. -/
def letter (c : Char) : Char :=
  if c.toNat < 128 then c.toLower
  else if c.toNat = 0x17f then 's'
  else if c.toNat = 0x212a then 'k'
  else if c.toNat = 0x130 || c.toNat = 0x131 then 'i'
  else c

/-- What follows a name in plain letters, if the text starts with it. -/
def afterName? : (name : Text) → Text → Option Text
  | [], t => some t
  | _ :: _, [] => none
  | p :: ps, c :: cs => if letter c = p then afterName? ps cs else none

end LinkedDocs.Text
