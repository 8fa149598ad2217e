import LinkedDocs.Fault
import LinkedDocs.Text.Case

/-!
# Reading records

Records are maps whose values may have any type. These functions read a record's parts and name
the fault when a part has a type from which it cannot be read.
-/

namespace LinkedDocs

/-- Whether the byte is an ASCII blank. -/
def isBlankByte (b : UInt8) : Bool :=
  b = 0x20 || (0x09 ≤ b && b ≤ 0x0d)

/-- The bytes without blanks at either end. -/
def stripBytes (bs : List UInt8) : List UInt8 :=
  ((bs.dropWhile isBlankByte).reverse.dropWhile isBlankByte).reverse

namespace Value

/-- The entries of a map. -/
def entries (v : Value) : Except Fault (List (Scalar × Value)) :=
  match v.untied with
  | .map entries => .ok entries
  | _ => .error (.lacks v "get".toList)

/-- The items of a value: of a list its items, of a text its characters, of a map its keys, of bytes
their numbers. -/
def items (v : Value) : Except Fault (List Value) :=
  match v.untied with
  | .list values => .ok values
  | .tuple values => .ok values
  | .set values => .ok (values.map .scalar)
  | .scalar (.text t) => .ok (t.map fun c => .text [c])
  | .scalar (.bytes bs) => .ok (bs.map fun b => .int b.toNat)
  | .map entries => .ok (entries.map fun (key, _) => .scalar key)
  | _ => .error (.notIterable v)

/-- The items under a key; nothing given is no items. -/
def itemsUnder (record : List (Scalar × Value)) (key : Text) : Except Fault (List Value) :=
  let value := get record key
  if value.holds then value.items else .ok []

/-- The value as an identifier. -/
def identifier : Value → Except Fault Scalar
  | .scalar s => .ok s
  | other => .error (.notAKey other)

/-- Whether a collection has an item: a list an equal item, a map a key, a text a part. -/
def has (container item : Value) : Except Fault Bool :=
  match container.untied with
  | .list values => .ok (values.any item.same)
  | .tuple values => .ok (values.any item.same)
  | .map entries => item.identifier.map fun key => entries.any (·.1.same key)
  | .set values => item.identifier.map fun key => values.any (·.same key)
  | .scalar (.text t) =>
    match item with
    | .scalar (.text part) => .ok (Text.hasPart part t)
    | _ => .error (.notWithinText item)
  | _ => .error (.notSearchable container)

/-- The value as text, for an operation that only texts have. -/
def expectText (operation : Text) : Value → Except Fault Text
  | .scalar (.text t) => .ok t
  | .scalar (.bytes bs) =>
    .error (if operation = "strip".toList then .bytesNotText
      else .lacks (.scalar (.bytes bs)) operation)
  | other => .error (.lacks other operation)

/-- The value as text, which must not have an integer that cannot be shown. -/
def shown (v : Value) : Except Fault Text :=
  if v.isShowable then .ok v.toText else .error .unshowableInteger

/-- Checks the parts of a record: each must be known, and none that is required may be missing. -/
def checkParts (owner : Text) (required optional : List Text) (record : List (Scalar × Value)) :
    Except Fault Unit :=
  let known := required ++ optional
  match record.find? fun (key, _) => !known.any fun name => key.same (.text name) with
  | some (key, _) => .error (.unexpectedPart owner key.toText)
  | none =>
    match required.filter fun name => (lookup? record (.text name)).isNone with
    | [] => .ok ()
    | missing => .error (.missingParts owner missing)

/-- The word of an enumeration that a value spells in any case. Null spells none. -/
def word {α : Type} (title : Text) (all : List α) (text : α → Text) (value : Value) :
    Except Fault (Option α) :=
  if value.isNull then .ok none
  else do
    let spelled ← value.shown
    match all.find? fun a => text a == Text.lower spelled with
    | some a => return some a
    | none => .error (.unknownWord title value)

/-- The word of an enumeration that a value is. -/
def exactWord {α : Type} (title : Text) (all : List α) (text : α → Text) (value : Value) :
    Except Fault α :=
  match all.find? fun a => value.same (.text (text a)) with
  | some a => .ok a
  | none => .error (.noSuchWord title value)

end Value

end LinkedDocs
