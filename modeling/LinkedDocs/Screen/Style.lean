import LinkedDocs.Fault
import LinkedDocs.Screen.Emoji

/-!
# Styled text

A tag in square brackets opens a style, and one with a slash closes it. The screen is a plain one, so
nothing of a style is seen but the lack of its tags. A backslash before a tag makes it a text, and
`escape` puts one before every tag of a text that is to be shown as it stands.
-/

namespace LinkedDocs.Screen

/-- A tag: the name of a style, and what follows an equals sign. -/
structure StyleTag where
  name : Text
  value : Option Text := none

namespace StyleTag

/-- The tag with the given text between its brackets. -/
def ofText (t : Text) : StyleTag :=
  match t.dropWhile (· ≠ '=') with
  | _ :: value => ⟨t.takeWhile (· ≠ '='), some value⟩
  | [] => ⟨t, none⟩

/-- The tag as it is written. -/
def text (tag : StyleTag) : Text :=
  '[' :: tag.name ++ (tag.value.map ('=' :: ·)).getD [] ++ [']']

end StyleTag

/-- Whether a character can be the first of a tag. -/
def startsTag (c : Char) : Bool :=
  c.isLower || c = '#' || c = '/' || c = '@'

/-- What stands between the brackets of a tag at the head of the text, and the text after it. -/
def tagBody? : Text → Option (Text × Text)
  | '[' :: c :: cs =>
    let isInside := fun d => d ≠ '[' && d ≠ ']'
    match startsTag c, cs.dropWhile isInside with
    | true, ']' :: rest => some (c :: cs.takeWhile isInside, rest)
    | _, _ => none
  | _ => none

/-- A tag and the number of backslashes before it. -/
def slashedTag : Text.Recogniser (Nat × Text) := fun _ t =>
  let slashes := t.takeWhile (· = '\\')
  (tagBody? (t.dropWhile (· = '\\'))).map fun (body, rest) => ((slashes.length, body), rest)

/-- A text that is shown as the given one. A single backslash at the end is doubled, lest it belong
to what follows. -/
def escape (t : Text) : Text :=
  let t := Text.replace slashedTag
    (fun (slashes, body) => List.replicate (2 * slashes + 1) '\\' ++ '[' :: body ++ [']']) t
  match t.reverse with
  | '\\' :: '\\' :: _ => t
  | '\\' :: _ => t ++ ['\\']
  | _ => t

/-- The parts of a styled text. -/
inductive StylePart where
  | text (t : Text)
  | tag (position : Nat) (tag : StyleTag)

namespace StylePart

/-- The parts of a text that is cut at its tags. Each pair of backslashes before a tag is one, and
one that is left over makes the tag a text. `position` is where the cut text starts, `before` the
characters since the last tag, the nearest first. -/
def ofPieces (position : Nat) (before : Text) : List (Text.Piece (Nat × Text)) → List StylePart
  | [] => [.text before.reverse]
  | .plain c :: more => ofPieces (position + 1) (c :: before) more
  | .found (slashes, body) :: more =>
    let part :=
      if slashes % 2 = 1 then .text ('[' :: body ++ [']'])
      else .tag (position + slashes) (.ofText body)
    .text before.reverse :: .text (List.replicate (slashes / 2) '\\') :: part ::
      ofPieces (position + slashes + body.length + 2) [] more

/-- The parts of a styled text. -/
def ofText (t : Text) : List StylePart :=
  ofPieces 0 [] (Text.pieces slashedTag none t)

end StylePart

/-- The short names of styles. -/
def styleNames : List (Text × Text) :=
  [("b", "bold"), ("d", "dim"), ("i", "italic"), ("u", "underline"), ("uu", "underline2"),
    ("r", "reverse"), ("c", "conceal"), ("s", "strike"), ("o", "overline")].map
      fun (short, long) => (short.toList, long.toList)

/-- The name by which styles are told apart. -/
def styleName (name : Text) : Text :=
  let name := Text.lower (Text.strip name)
  (styleNames.lookup name).getD name

/-- The names of open styles, the last one first, after a tag. A closing tag without a name closes
the last one. -/
def applyTag (position : Nat) (tag : StyleTag) (opened : List Text) : Except Fault (List Text) :=
  match tag.name with
  | '/' :: name =>
    if Text.isBlankText name then
      match opened with
      | [] => .error (.nothingToClose position)
      | _ :: rest => .ok rest
    else if opened.contains (styleName name) then .ok (opened.erase (styleName name))
    else .error (.unopenedTag tag.text position)
  | name => .ok (styleName name :: opened)

/-- A backslash that keeps a bracket from opening a tag. -/
def slashedBracket : Text.Recogniser Unit := fun _ t =>
  match t with
  | '\\' :: '[' :: rest => some ((), rest)
  | _ => none

/-- What is seen of the parts of a styled text, given the styles that are open. -/
def seenIn (opened : List Text) : List StylePart → Except Fault Text
  | [] => .ok []
  | .text t :: more => do
    let rest ← seenIn opened more
    return showEmoji (Text.replace slashedBracket (fun _ => ['[']) t) ++ rest
  | .tag position tag :: more => do
    seenIn (← applyTag position tag opened) more

/-- What is seen of a styled text. -/
def seen (t : Text) : Except Fault Text :=
  seenIn [] (StylePart.ofText t)

end LinkedDocs.Screen
