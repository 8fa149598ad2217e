import LinkedDocs.Text.Pieces
import LinkedDocs.Text.Letter

/-!
# Tags

Recognisers for the tags of documentation markup. Tag and attribute names are read without regard
to case, and blanks may stand before the end of a tag. An element runs from its opening tag to the
first closing tag after it.
-/

namespace LinkedDocs.Markup

open Text

/-- What follows blanks and the end of a tag. -/
def afterTagEnd? (t : Text) : Option Text :=
  match stripLeft t with
  | '>' :: rest => some rest
  | _ => none

/-- What follows blanks and the end of a tag without content. -/
def afterEmptyTagEnd? (t : Text) : Option Text :=
  match stripLeft t with
  | '/' :: '>' :: rest => some rest
  | _ => none

/-- What follows the opening tag of a name. -/
def afterOpen? (name : Text) : Text → Option Text
  | '<' :: cs => (afterName? name cs).bind afterTagEnd?
  | _ => none

/-- What follows the closing tag of a name. -/
def afterClose? (name : Text) : Text → Option Text
  | '<' :: '/' :: cs => (afterName? name cs).bind afterTagEnd?
  | _ => none

/-- The text up to the first place where `stop?` succeeds, and what follows there. -/
def upTo? (stop? : Text → Option Text) : Text → Option (Text × Text)
  | [] => (stop? []).map ([], ·)
  | c :: cs =>
    match stop? (c :: cs) with
    | some rest => some ([], rest)
    | none => (upTo? stop? cs).map fun (body, rest) => (c :: body, rest)

/-- The text up to the first place where `stop?` succeeds, unless `refuse` holds before it. -/
def upToWithout? (stop? : Text → Option Text) (refuse : Text → Bool) :
    Text → Option (Text × Text)
  | [] => (stop? []).map ([], ·)
  | c :: cs =>
    match stop? (c :: cs) with
    | some rest => some ([], rest)
    | none =>
      if refuse (c :: cs) then none
      else (upToWithout? stop? refuse cs).map fun (body, rest) => (c :: body, rest)

/-- The content of an element, up to its first closing tag. -/
def element (name : Text) : Recogniser Text := fun _ t =>
  (afterOpen? name t).bind (upTo? (afterClose? name))

/-- The content of an element that holds no opening tag of its own name. -/
def innermost (name : Text) : Recogniser Text := fun _ t =>
  (afterOpen? name t).bind
    (upToWithout? (afterClose? name) fun u => (afterOpen? name u).isSome)

/-- A tag without content. -/
def emptyTag (name : Text) : Recogniser Unit := fun _ t =>
  match t with
  | '<' :: cs => ((afterName? name cs).bind afterEmptyTagEnd?).map ((), ·)
  | _ => none

/-- What follows a name and at least one blank. -/
def afterNameAndBlank? (name t : Text) : Option Text :=
  match afterName? name t with
  | some (c :: cs) => if isBlank c then some (stripLeft cs) else none
  | _ => none

/-- What follows an attribute name and an equals sign, blanks allowed around the sign. -/
def afterAttributeName? (name t : Text) : Option Text :=
  match (afterName? name t).map stripLeft with
  | some ('=' :: cs) => some (stripLeft cs)
  | _ => none

/-- What follows the closing tag whose name is spelt as in the opening tag, up to capitals. -/
def afterMatchingClose? (spelling : Text) : Text → Option Text
  | '<' :: '/' :: cs =>
    if (cs.take spelling.length).map Char.toLower = spelling.map Char.toLower then
      afterTagEnd? (cs.drop spelling.length)
    else none
  | _ => none

/-- A reference read from a tag: the value of its attribute and its label, if it has one. -/
structure TagReference where
  value : Text
  label : Option Text

/-- What may stand between the attribute and the end of a reference: the end of an empty tag, or
content that `body?` reads. -/
def tagRest? (body? : Text → Option (Option Text × Text)) (t : Text) :
    Option (Option Text × Text) :=
  match afterEmptyTagEnd? t with
  | some rest => some (none, rest)
  | none => (afterTagEnd? t).bind body?

/-- The value up to the first quote after which the rest of the reference can be read. -/
def valueAndRest? (quote : Char) (body? : Text → Option (Option Text × Text)) :
    Text → Option (TagReference × Text)
  | [] => none
  | c :: cs =>
    let here := if c = quote then tagRest? body? cs else none
    match here with
    | some (label, rest) => some (⟨[], label⟩, rest)
    | none => (valueAndRest? quote body? cs).map fun (r, rest) => (⟨c :: r.value, r.label⟩, rest)

/-- A quoted attribute value and the rest of the reference. -/
def quotedAndRest? (body? : Text → Option (Option Text × Text)) : Text →
    Option (TagReference × Text)
  | c :: cs => if c = '"' || c = '\'' then valueAndRest? c body? cs else none
  | [] => none

/-- The name among the given ones that a tag starts with, as it is spelt there, and the text after
it and the blanks that must follow. -/
def tagName? (names : List Text) (t : Text) : Option (Text × Text) :=
  names.findSome? fun name =>
    (afterNameAndBlank? name t).map (t.take name.length, ·)

/-- A reference tag of one of the given names with the given attribute. `body?` reads the content
from the tag's spelling on. -/
def referenceTag (names : List Text) (field : Text)
    (body? : Text → Text → Option (Option Text × Text)) : Recogniser TagReference := fun _ t =>
  match t with
  | '<' :: cs =>
    match tagName? names cs with
    | some (spelling, rest) =>
      (afterAttributeName? field rest).bind (quotedAndRest? (body? spelling))
    | none => none
  | _ => none

/-- Content that is a label, up to the closing tag. -/
def labelled (spelling t : Text) : Option (Option Text × Text) :=
  (upTo? (afterMatchingClose? spelling) t).map fun (label, rest) => (some label, rest)

/-- Content that is blank, up to the closing tag. -/
def blankBody (spelling t : Text) : Option (Option Text × Text) :=
  (afterMatchingClose? spelling (stripLeft t)).map (none, ·)

/-- Content that is blank, up to a closing tag of the name. -/
def blankBodyOf (name t : Text) : Option (Option Text × Text) :=
  (afterClose? name (stripLeft t)).map (none, ·)

end LinkedDocs.Markup
