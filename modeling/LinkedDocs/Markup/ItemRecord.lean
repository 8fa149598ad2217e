import LinkedDocs.Markup.ItemList
import LinkedDocs.Record

/-!
# List items given as records

The items of a list can be given as records, whose parts may be values of any type. A part that counts
as given is shown as text, but the cells of a table must be texts, and so must a description that
stands alone in a list of definitions.
-/

namespace LinkedDocs.Markup

/-- The parts of an item. -/
structure ItemRecord where
  term : Value := .text []
  description : Value := .text []

namespace ItemRecord

/-- The item that a record describes; null describes none. -/
def ofValue (v : Value) : Except Fault (Option ItemRecord) :=
  if v.isNull then .ok none
  else do
    let record ← v.entries
    Value.checkParts "ListItem".toList [] [ "term".toList, "description".toList] record
    let part := fun name => (Value.lookup? record (.text name)).getD (.text [])
    return some ⟨part "term".toList, part "description".toList⟩

/-- A part as it is shown, which is nothing unless it counts as given. -/
def shownPart (v : Value) : Text :=
  if v.holds then v.toText else []

/-- The item with its parts as they are shown. -/
def item (r : ItemRecord) : ListItem :=
  ⟨shownPart r.term, shownPart r.description⟩

/-- Checks that the parts can be the cells of a table. -/
def checkCells (r : ItemRecord) : Except Fault Unit := do
  let _ ← r.term.expectText "replace".toList
  let _ ← r.description.expectText "replace".toList
  return ()

/-- Checks that the parts can be the cells of a table's header, where a part that does not count as
given has a default. -/
def checkHeader (r : ItemRecord) : Except Fault Unit :=
  let given := fun v : Value => if v.holds then v else .text []
  checkCells ⟨given r.term, given r.description⟩

/-- Checks that a description without a term is a text. -/
def checkDefinition (place : Nat) (r : ItemRecord) : Except Fault Unit :=
  match r.term.holds, r.description with
  | true, _ => .ok ()
  | false, .scalar (.text _) => .ok ()
  | false, other => .error (.notJoinable place other)

/-- The records of items that are all there. -/
def present : List (Option ItemRecord) → Except Fault (List ItemRecord)
  | [] => .ok []
  | some r :: rest => (present rest).map (r :: ·)
  | none :: _ => .error (.lacks .null "is_empty".toList)

/-- Checks the parts that a list of a kind takes as they are. -/
def check (kind : ListKind) (header : Option ItemRecord) (shown : List ItemRecord) :
    Except Fault Unit :=
  match kind, header with
  | .table, some header => do
    checkHeader header
    shown.forM checkCells
  | .table, none => (shown.mapIdx checkDefinition).forM id
  | _, _ => .ok ()

/-- The list in Markdown. -/
def render (kind : ListKind) (header : Option ItemRecord) (items : List (Option ItemRecord)) :
    Except Fault Text := do
  let shown := (← present items).filter (!·.item.isEmpty)
  if shown.isEmpty then return []
  else
    check kind header shown
    return renderList kind (header.map (·.item)) (shown.map (·.item))

end ItemRecord

end LinkedDocs.Markup
