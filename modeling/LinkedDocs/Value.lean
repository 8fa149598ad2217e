import LinkedDocs.Scalar

/-!
# Values

Graph files and settings are trees of scalars, lists and maps whose types are not known in
advance. A file can also hold rows, sets, and collections that hold themselves.
-/

namespace LinkedDocs

/-- A scalar, or a collection of values. -/
inductive Value where
  | scalar (s : Scalar)
  | list (items : List Value)
  /-- A map in the order in which its keys were first given. -/
  | map (entries : List (Scalar × Value))
  /-- Values that belong together. -/
  | tuple (items : List Value)
  /-- Scalars in the order in which they were first given. -/
  | set (items : List Scalar)
  /-- A collection that holds itself, unrolled some levels deep. The same label within it says that
  the same collection is meant. -/
  | knot (label : Nat) (body : Value)

namespace Value

@[match_pattern] abbrev null : Value := .scalar .null
@[match_pattern] abbrev bool (b : Bool) : Value := .scalar (.bool b)
@[match_pattern] abbrev int (n : Int) : Value := .scalar (.int n)
@[match_pattern] abbrev double (x : Double) : Value := .scalar (.double x)
@[match_pattern] abbrev text (t : Text) : Value := .scalar (.text t)

instance : Inhabited Value := ⟨null⟩

/-- An absent text is null. -/
def ofText? : Option Text → Value
  | some t => text t
  | none => null

def isNull : Value → Bool
  | null => true
  | _ => false

/-- The value itself, where it is known that it may hold itself. -/
def untied : Value → Value
  | .knot _ body => untied body
  | v => v

/-- Whether the value counts as given: null, false, zero and everything empty do not. -/
def holds : Value → Bool
  | .scalar s => s.holds
  | .list items => !items.isEmpty
  | .map entries => !entries.isEmpty
  | .tuple items => !items.isEmpty
  | .set items => !items.isEmpty
  | .knot _ body => holds body

/-- The name of the value's type, as messages give it. -/
def typeName : Value → Text
  | .scalar s => s.typeName
  | .list _ => "list".toList
  | .map _ => "dict".toList
  | .tuple _ => "tuple".toList
  | .set _ => "set".toList
  | .knot _ body => typeName body

/-- The name of the value's type without the module that it belongs to. -/
def shortTypeName (v : Value) : Text :=
  (Text.splitOn '.' v.typeName).getLast?.getD []

/-! ## Maps -/

/-- The value stored under a key. -/
def lookup? (entries : List (Scalar × Value)) (key : Scalar) : Option Value :=
  (entries.find? (·.1.same key)).map (·.2)

/-- The value stored under a text, or null. -/
def get (entries : List (Scalar × Value)) (key : Text) : Value :=
  (lookup? entries (.text key)).getD null

/-- Stores a value under a key: a key that is there keeps its place and spelling. -/
def insert (entries : List (Scalar × Value)) (key : Scalar) (value : Value) :
    List (Scalar × Value) :=
  if entries.any (·.1.same key) then
    entries.map fun (k, v) => if k.same key then (k, value) else (k, v)
  else entries ++ [(key, value)]

/-! ## Equality -/

mutual

/-- Whether two values are equal: of the same kind and with equal parts, which in maps and sets may
come in any order. -/
def same (a b : Value) : Bool :=
  match a, b.untied with
  | .scalar a, .scalar b => a.same b
  | .list as, .list bs => sameItems as bs
  | .tuple as, .tuple bs => sameItems as bs
  | .map as, .map bs => as.length == bs.length && sameEntries as bs
  | .set as, .set bs => as.length == bs.length && as.all fun a => bs.any a.same
  | .knot _ a, b => same a b
  | _, _ => false

/-- Whether two lists have equal items in the same places. -/
def sameItems : List Value → List Value → Bool
  | [], [] => true
  | a :: as, b :: bs => same a b && sameItems as bs
  | _, _ => false

/-- Whether the entries of the one map are all in the other. -/
def sameEntries : List (Scalar × Value) → List (Scalar × Value) → Bool
  | [], _ => true
  | (k, v) :: rest, bs =>
    (match lookup? bs k with
      | some w => same v w
      | none => false) && sameEntries rest bs

end

/-- Whether the value is the undefined number. -/
def isUndefined : Value → Bool
  | double .nan => true
  | _ => false

/-- Whether two values compare as equal. The undefined number does not compare as equal to itself,
though a collection that has it is found to have it. -/
def equals (a b : Value) : Bool :=
  !a.isUndefined && a.same b

/-! ## Text -/

/-- Texts between an opening and a closing one, with commas between them. -/
def enclose (opening closing : String) (parts : List Text) : Text :=
  opening.toList ++ Text.join ", ".toList parts ++ closing.toList

/-- A collection that is being shown already. -/
def ellipsis : Value → Text
  | .map _ => "\x7b...\x7d".toList
  | .tuple _ => "(...)".toList
  | _ => "[...]".toList

mutual

/-- The value as it is shown within a list or a map, within the collections with the labels
`shown`. -/
def inspectWithin (shown : List Nat) : Value → Text
  | .scalar s => s.inspect
  | .list items => enclose "[" "]" (inspectItems shown items)
  | .map entries => enclose "\x7b" "\x7d" (inspectEntries shown entries)
  | .tuple items =>
    enclose "(" (if items.length = 1 then ",)" else ")") (inspectItems shown items)
  | .set items =>
    if items.isEmpty then "set()".toList else enclose "\x7b" "\x7d" (items.map Scalar.inspect)
  | .knot label body =>
    if shown.contains label then ellipsis body else inspectWithin (label :: shown) body

/-- The items of a list, each as it is shown. -/
def inspectItems (shown : List Nat) : List Value → List Text
  | [] => []
  | v :: rest => inspectWithin shown v :: inspectItems shown rest

/-- The entries of a map, each as it is shown. -/
def inspectEntries (shown : List Nat) : List (Scalar × Value) → List Text
  | [] => []
  | (k, v) :: rest =>
    (k.inspect ++ ": ".toList ++ inspectWithin shown v) :: inspectEntries shown rest

end

/-- The value as it is shown within a list or a map. -/
def inspect (v : Value) : Text :=
  inspectWithin [] v

/-- The value as text. -/
def toText : Value → Text
  | .scalar s => s.toText
  | other => other.inspect

mutual

/-- Whether every integer in the value can be shown, within the collections with the labels
`shown`. -/
def isShowableWithin (shown : List Nat) : Value → Bool
  | .scalar s => s.isShowable
  | .list items => areShowable shown items
  | .map entries => entriesShowable shown entries
  | .tuple items => areShowable shown items
  | .set items => items.all Scalar.isShowable
  | .knot label body => shown.contains label || isShowableWithin (label :: shown) body

/-- Whether the items can all be shown. -/
def areShowable (shown : List Nat) : List Value → Bool
  | [] => true
  | v :: rest => isShowableWithin shown v && areShowable shown rest

/-- Whether the entries can all be shown. -/
def entriesShowable (shown : List Nat) : List (Scalar × Value) → Bool
  | [] => true
  | (k, v) :: rest => k.isShowable && isShowableWithin shown v && entriesShowable shown rest

end

/-- Whether every integer in the value can be shown. -/
def isShowable (v : Value) : Bool :=
  isShowableWithin [] v

end Value

end LinkedDocs
