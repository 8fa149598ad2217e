import LinkedDocs.Markup.Rest
import LinkedDocs.Number.Numeral
import LinkedDocs.Text.Pieces

/-!
# The stash

Code and link targets are taken out of a text before it is converted and put back at the end. A
token stands for each of them: its number between two control characters, which are removed from
every text before it is converted.
-/

namespace LinkedDocs.Markup

open Text

/-- The character that starts a token. -/
def tokenOpen : Char := '\x02'

/-- The character that ends a token. -/
def tokenClose : Char := '\x03'

/-- The text without the characters that tokens are made of. -/
def dropTokenMarks (t : Text) : Text :=
  t.filter fun c => c != tokenOpen && c != tokenClose

/-- The token of a number. -/
def token (n : Nat) : Text :=
  tokenOpen :: Text.ofNat n ++ [tokenClose]

/-- A token, read as the digits of its number. -/
def tokenDigits : Recogniser Text := fun _ t =>
  match t with
  | c :: cs =>
    if c = tokenOpen then
      match cs.takeWhile isDigit, cs.dropWhile isDigit with
      | digits@(_ :: _), d :: rest =>
        if d = tokenClose then some (digits, rest) else none
      | _, _ => none
    else none
  | [] => none

/-- The texts taken out so far, each under the number of its token. -/
structure Stash where
  items : List Text := []

namespace Stash

/-- Takes a text out and answers its token. -/
def put (s : Stash) (t : Text) : Text × Stash :=
  (token s.items.length, ⟨s.items ++ [t]⟩)

/-- The greatest number that can be a place. -/
def maxPlace : Nat := Nat.pow 2 63 - 1

/-- The text under the number that digits write. -/
def get (s : Stash) (digits : Text) : Except Fault Text :=
  if Numeral.maxDigits < digits.length then .error (.longInteger digits.length)
  else
    match s.items[digitsValue digits]? with
    | some t => .ok t
    | none => .error (if maxPlace < digitsValue digits then .hugeToken else .looseToken)

/-- What a piece of a text is put back as. -/
def piece (s : Stash) : Piece Text → Except Fault Text
  | .plain c => .ok [c]
  | .found digits => s.get digits

/-- Puts the text of every token back, once. -/
def restoreOnce (s : Stash) (t : Text) : Except Fault Text :=
  ((pieces tokenDigits none t).mapM s.piece).map List.flatten

/-- Puts every text back, also within texts that were taken out, until nothing changes. A name that
holds token marks can keep this up for ever. -/
def restore (s : Stash) (t : Text) : Except NoResult Text :=
  atRest s.restoreOnce t

end Stash

end LinkedDocs.Markup
