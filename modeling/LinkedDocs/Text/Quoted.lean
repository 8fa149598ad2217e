import LinkedDocs.Text.Printable
import LinkedDocs.Text.Surrogate

/-!
# Quoted text

A text between quotes, as messages show it. Single quotes are used unless the text has one and no
double quote; characters that do not print are written as escapes.
-/

namespace LinkedDocs.Text

/-- The number in base sixteen, with zeros in front up to a width. -/
def hex (width n : Nat) : Text :=
  let digits := Nat.toDigits 16 n
  List.replicate (width - digits.length) '0' ++ digits

/-- The quote that is put around a text. -/
def quoteFor (t : Text) : Char :=
  if t.contains '\'' && !t.contains '"' then '"' else '\''

/-- A character within the given quotes. -/
def escapeChar (quote c : Char) : Text :=
  if c = quote || c = '\\' then ['\\', c]
  else if c = '\t' then "\\t".toList
  else if c = '\n' then "\\n".toList
  else if c = '\r' then "\\r".toList
  else if isPrintable c then [c]
  else if let some half := half? c then "\\u".toList ++ hex 4 half
  else if c.toNat ≤ 0xff then "\\x".toList ++ hex 2 c.toNat
  else if c.toNat ≤ 0xffff then "\\u".toList ++ hex 4 c.toNat
  else "\\U".toList ++ hex 8 c.toNat

/-- The text between quotes. -/
def quoted (t : Text) : Text :=
  let quote := quoteFor t
  quote :: t.flatMap (escapeChar quote) ++ [quote]

/-- The text with its halves of surrogate pairs written as escapes. -/
def spellHalves (t : Text) : Text :=
  t.flatMap fun c =>
    match half? c with
    | some half => "\\u".toList ++ hex 4 half
    | none => [c]

end LinkedDocs.Text
