import LinkedDocs.Markup.Tag
import LinkedDocs.Text.Word
import LinkedDocs.Text.Case

/-!
# Lists

Bullet lists, numbered lists and tables. An item has a term, a description, or plain text that
counts as its description. An empty item is left out, and a list without items is nothing.
-/

namespace LinkedDocs.Markup

open Text

inductive ListKind where
  | bullet | number | table
deriving DecidableEq, Repr

namespace ListKind

/-- The kind that a word names; any other word is a bullet list. -/
def ofText (word : Text) : ListKind :=
  if word = "number".toList then .number
  else if word = "table".toList then .table
  else .bullet

def text : ListKind → Text
  | .bullet => "bullet".toList
  | .number => "number".toList
  | .table => "table".toList

end ListKind

/-- One item of a list, or its header. -/
structure ListItem where
  term : Text := []
  description : Text := []
deriving DecidableEq, Repr

namespace ListItem

def isEmpty (item : ListItem) : Bool :=
  item.term.isEmpty && item.description.isEmpty

/-- The item in one line: its description, or else its term. -/
def text (item : ListItem) : Text :=
  if item.description.isEmpty then item.term else item.description

end ListItem

/-- Runs of blanks become one space, and none stay at the ends. -/
def collapseBlanks (t : Text) : Text :=
  strip (replace (fun _ t =>
    match t with
    | c :: cs => if isBlank c then some ((), stripLeft cs) else none
    | [] => none) (fun _ => [' ']) t)

/-- The value of a type attribute, which starts a word. -/
def typeAttribute : Recogniser Text := fun before t =>
  if before.any isWord then none
  else
    match afterAttributeName? "type".toList t with
    | some (quote :: cs) =>
      let isQuote := fun c => c == '"' || c == '\''
      let inner := stripLeft cs
      match inner.takeWhile isWord, stripLeft (inner.dropWhile isWord) with
      | word@(_ :: _), close :: rest =>
        if isQuote quote && isQuote close then some (word, rest) else none
      | _, _ => none
    | _ => none

/-- The kind of list that the attributes ask for. -/
def listKind (attributes : Text) : ListKind :=
  match firstFind? typeAttribute none attributes with
  | some (_, word, _) => .ofText (lower word)
  | none => .bullet

/-- An opening or closing tag of a term or a description. -/
def partTag : Recogniser Unit := fun _ t =>
  let names := [ "term".toList, "description".toList]
  (names.findSome? fun name => (afterOpen? name t).or (afterClose? name t)).map ((), ·)

/-- The content of the first element of a name. -/
def firstElement? (name body : Text) : Option Text :=
  (firstFind? (element name) none body).map fun (_, inner, _) => inner

/-- The item written by the content of an item element. -/
def parseItem (body : Text) : ListItem :=
  match firstElement? "term".toList body, firstElement? "description".toList body with
  | none, none => ⟨[], collapseBlanks (replace partTag (fun _ => []) body)⟩
  | term, description =>
    ⟨(term.map collapseBlanks).getD [], (description.map collapseBlanks).getD []⟩

/-- The header and the items written by the content of a list element. -/
def parseList (body : Text) : Option ListItem × List ListItem :=
  let items := fun t => (finds (element "item".toList) t).map parseItem
  match firstFind? (element "listheader".toList) none body with
  | some (lead, header, rest) => (some (parseItem header), items (lead ++ rest))
  | none => (none, items body)

/-- The text as it is written in a table cell. -/
def cell (t : Text) : Text :=
  replaceChar '|' "\\|".toList t

/-- A row of a table with two cells. -/
def tableRow (left right : Text) : Text :=
  "| ".toList ++ cell left ++ " | ".toList ++ cell right ++ " |".toList

/-- An item on its own, its term in bold above its description. -/
def definition (item : ListItem) : Text :=
  let bold := "**".toList ++ item.term ++ "**".toList
  if item.term.isEmpty then item.description
  else if item.description.isEmpty then bold
  else bold ++ '\n' :: item.description

/-- The list in Markdown. Numbers count only the items that are shown. -/
def renderList (kind : ListKind) (header : Option ListItem) (items : List ListItem) : Text :=
  let shown := items.filter (!·.isEmpty)
  if shown.isEmpty then []
  else
    match kind, header with
    | .number, _ =>
      join ['\n'] (shown.mapIdx fun i item => Text.ofNat (i + 1) ++ ". ".toList ++ item.text)
    | .table, some h =>
      let term := if h.term.isEmpty then "Term".toList else h.term
      let description := if h.description.isEmpty then "Description".toList else h.description
      join ['\n'] (tableRow term description :: "| --- | --- |".toList ::
        shown.map fun item => tableRow item.term item.description)
    | .table, none => join "\n\n".toList (shown.map definition)
    | .bullet, _ => join ['\n'] (shown.map fun item => "- ".toList ++ item.text)

end LinkedDocs.Markup
