import LinkedDocs.Yaml.Meaning
import LinkedDocs.Yaml.Node

/-!
# Documents

`Document.read` gives the value that a YAML text with at most one document describes. A map keeps the
place of a key that is given twice and the value that is given last.

A document is checked before its value is made, collections level by level: the scalars in a
collection come before the collections in it. So it is the outermost problem that is reported.
-/

namespace LinkedDocs.Yaml

/-- What a node stands for. -/
inductive Shape where
  | scalar (meaning : Meaning)
  | list
  | map
  | set
  /-- A list of pairs, each given as a map with one entry. -/
  | pairs
deriving DecidableEq

namespace Shape

/-- The names of the format's own types, with what they stand for. -/
def coreTypes : List (Text × Shape) :=
  [("null".toList, .scalar .null), ("bool".toList, .scalar .bool), ("int".toList, .scalar .int),
    ("float".toList, .scalar .double), ("str".toList, .scalar .text),
    ("timestamp".toList, .scalar .time), ("binary".toList, .scalar .binary),
    ("merge".toList, .scalar .merge), ("value".toList, .scalar .default), ("seq".toList, .list),
    ("map".toList, .map), ("set".toList, .set), ("omap".toList, .pairs), ("pairs".toList, .pairs)]

/-- What a tag says about a node. -/
def ofTag? (tag : Text) : Option Shape :=
  (Text.dropLead? coreLead tag).bind (coreTypes.lookup ·)

/-- What a tag says about a node, or else the node's own shape, if the tag leaves it open. -/
def ofTagOr? (own : Shape) : Option Text → Option Shape
  | none => some own
  | some tag => if tag = ['!'] then some own else ofTag? tag

end Shape

namespace Node

/-- What the node stands for, if its tag is known. -/
def shape? : Node → Option Shape
  | .scalar none isPlain t => some (.scalar (if isPlain then .ofText t else .text))
  | .scalar tag _ t => Shape.ofTagOr? (.scalar (.ofText t)) tag
  | .list tag _ => Shape.ofTagOr? .list tag
  | .map tag _ => Shape.ofTagOr? .map tag
  | .ring _ body => shape? body
  | .back _ => some .list

/-- Whether the node is the key whose value is merged into the map. -/
def isMerge (n : Node) : Bool :=
  n.shape? = some (.scalar .merge)

/-- Whether the node is the sign for a default value. -/
def isDefault (n : Node) : Bool :=
  n.shape? = some (.scalar .default)

/-- A result without a value is malformed. -/
def orMalformed {α : Type} : Option α → Except Problem α
  | some a => .ok a
  | none => .error .malformed

/-! ## Merging -/

mutual

/-- The entries of a map with its merge keys followed, those from merged maps first. -/
def flatEntries? : Node → Option (List (Node × Node))
  | .map _ entries => (flatPairs? entries).map fun (merged, own) => merged ++ own
  | .ring _ body => flatEntries? body
  | .back _ => some []
  | _ => none

/-- The entries that merge keys bring in, and the others. -/
def flatPairs? : List (Node × Node) → Option (List (Node × Node) × List (Node × Node))
  | [] => some ([], [])
  | (k, v) :: rest =>
    match flatPairs? rest with
    | none => none
    | some (merged, own) =>
      if k.isMerge then (broughtEntries? v).map fun brought => (brought ++ merged, own)
      else some (merged, (k, v) :: own)

/-- The entries that a merge key brings in, those of an earlier map in a list counting more. -/
def broughtEntries? : Node → Option (List (Node × Node))
  | .list _ items => (flatItems? items).map (·.reverse.flatten)
  | .map _ entries => (flatPairs? entries).map fun (merged, own) => merged ++ own
  | .ring _ body => broughtEntries? body
  | .back _ => some []
  | .scalar .. => none

/-- The entries of each of several maps. -/
def flatItems? : List Node → Option (List (List (Node × Node)))
  | [] => some []
  | n :: rest =>
    match flatEntries? n, flatItems? rest with
    | some entries, some more => some (entries :: more)
    | _, _ => none

end

/-! ## Scalars -/

mutual

/-- The text of a node that stands for a scalar. A map has the text of its default value. -/
def scalarText? : Node → Option Text
  | .scalar _ _ t => some t
  | .map _ entries => defaultText? entries
  | .ring _ body => scalarText? body
  | _ => none

/-- The text of the default value among some entries. -/
def defaultText? : List (Node × Node) → Option Text
  | [] => none
  | (k, v) :: rest => if k.isDefault then scalarText? v else defaultText? rest

end

/-- The date or moment that a node stands for, whose own text counts. -/
def timeValue : Node → Except Fault Scalar
  | .scalar _ _ t => Meaning.readTime t
  | _ => .error (.notText (.list []))

/-- The scalar that a node stands for, with a meaning. -/
def scalarOf (meaning : Meaning) (n : Node) : Except Problem Scalar := do
  let t ← orMalformed n.scalarText?
  match meaning with
  | .null => return .null
  | .bool => (Meaning.readTruth t).mapError .faulty
  | .int => (Meaning.readInt t).mapError .faulty
  | .double => (Meaning.readDouble t).mapError .faulty
  | .time => n.timeValue.mapError .faulty
  | .binary => (orMalformed (Base64.bytes? t)).map .bytes
  | .text => return .text t
  | .merge => .error .malformed
  | .default => .error .malformed
  | .reserved => .error .malformed

/-- The key that a node stands for. The sign for a default value is text there. -/
def keyOf (n : Node) : Except Problem Scalar := do
  match ← orMalformed n.shape? with
  | .scalar .default => scalarOf .text n
  | .scalar meaning => scalarOf meaning n
  | _ => .error .malformed

/-! ## Checking -/

/-- Checks a node within a collection, as far as it is no collection itself. -/
def check : Node → Except Problem (List Node)
  | .back _ => .ok []
  | n => do
    match ← orMalformed n.shape? with
    | .scalar meaning => (scalarOf meaning n).map fun _ => []
    | _ => return [n]

/-- Checks the entries of a map and answers the collections among the values. -/
def checkEntries : List (Node × Node) → Except Problem (List Node)
  | [] => .ok []
  | (k, v) :: rest => do
    let _ ← keyOf k
    let found ← check v
    return found ++ (← checkEntries rest)

/-- The items of a list. -/
def items? : Node → Option (List Node)
  | .list _ items => some items
  | .ring _ body => items? body
  | _ => none

/-- The entry of a map that has one. -/
def onlyEntry? : Node → Option (Node × Node)
  | .map _ [entry] => some entry
  | .ring _ body => onlyEntry? body
  | _ => none

/-- Checks what stands in a collection and answers the collections in it. -/
def checkParts (n : Node) : Except Problem (List Node) := do
  match ← orMalformed n.shape? with
  | .scalar meaning => (scalarOf meaning n).map fun _ => []
  | .list => return (← (← orMalformed n.items?).mapM check).flatten
  | .map => checkEntries (← orMalformed n.flatEntries?)
  | .set => checkEntries (← orMalformed n.flatEntries?)
  | .pairs =>
    let found ← (← orMalformed n.items?).mapM fun item => do
      let (k, v) ← orMalformed item.onlyEntry?
      return (← check k) ++ (← check v)
    return found.flatten

/-- Checks collections level by level, at most `fuel` levels deep. -/
def checkLevels : (fuel : Nat) → List Node → Except Problem Unit
  | 0, _ => .ok ()
  | fuel + 1, level => do
    match level with
    | [] => return ()
    | level => checkLevels fuel (← level.mapM checkParts).flatten

/-! ## Values -/

/-- The entries that a merge key brings in. -/
def mergedEntries : Node → List (Node × Node)
  | .list _ items => (items.map entriesOf).reverse.flatten
  | n => entriesOf n
where
  /-- The entries of a map. -/
  entriesOf : Node → List (Node × Node)
    | .map _ entries => entries
    | .ring _ body => entriesOf body
    | _ => []

/-- The entries of a map after its merge keys have been followed. Merged entries come first. -/
def followMerges (entries : List (Node × Node)) : List (Node × Node) :=
  let merges := entries.filter (·.1.isMerge)
  let own := entries.filter (!·.1.isMerge)
  (merges.flatMap fun (_, v) => mergedEntries v) ++ own

mutual

/-- The node with all merge keys followed. -/
def merged : Node → Node
  | .scalar tag isPlain t => .scalar tag isPlain t
  | .list tag items => .list tag (mergedItems items)
  | .map tag entries => .map tag (followMerges (mergedPairs entries))
  | .ring label body => .ring label (merged body)
  | .back label => .back label

/-- The items with all merge keys followed. -/
def mergedItems : List Node → List Node
  | [] => []
  | n :: rest => merged n :: mergedItems rest

/-- The entries with the merge keys in their keys and values followed. -/
def mergedPairs : List (Node × Node) → List (Node × Node)
  | [] => []
  | (k, v) :: rest => (merged k, merged v) :: mergedPairs rest

end

/-- The scalar of a node, or null if it has none. -/
def scalarOrNull (n : Node) : Scalar :=
  match n.keyOf with
  | .ok s => s
  | .error _ => .null

mutual

/-- The value of a node, given those of the nodes around it that hold themselves. -/
def value (rings : List (Nat × Value)) : Node → Value
  | .scalar tag isPlain t =>
    match (Node.scalar tag isPlain t).shape? with
    | some (.scalar _) => .scalar (Node.scalar tag isPlain t).scalarOrNull
    | _ => .null
  | .list tag items =>
    match (Node.list tag items).shape? with
    | some .pairs => .list (pairValues rings items)
    | _ => .list (itemValues rings items)
  | .map tag entries =>
    match (Node.map tag entries).shape? with
    | some (.scalar _) => .scalar (Node.map tag entries).scalarOrNull
    | some .set => .set ((entryValues rings [] entries).map (·.1))
    | _ => .map (entryValues rings [] entries)
  | .ring label body => .knot label (value rings body)
  | .back label => (rings.lookup label).getD (.list [])

/-- The values of the items of a list. -/
def itemValues (rings : List (Nat × Value)) : List Node → List Value
  | [] => []
  | n :: rest => value rings n :: itemValues rings rest

/-- The values of a list of pairs. -/
def pairValues (rings : List (Nat × Value)) : List Node → List Value
  | [] => []
  | .map _ [(k, v)] :: rest => .tuple [value rings k, value rings v] :: pairValues rings rest
  | _ :: rest => pairValues rings rest

/-- The entries of a map, put after those that are there already. -/
def entryValues (rings : List (Nat × Value)) (entries : List (Scalar × Value)) :
    List (Node × Node) → List (Scalar × Value)
  | [] => entries
  | (k, v) :: rest =>
    entryValues rings (Value.insert entries k.scalarOrNull (value rings v)) rest

end

/-- How deep a value that holds itself is unrolled. -/
def unrolling : Nat := 16

/-- The values of the nodes that hold themselves, unrolled so many times. -/
def ringValues (rings : List (Nat × Node)) : (times : Nat) → List (Nat × Value)
  | 0 => []
  | times + 1 =>
    let inner := ringValues rings times
    rings.map fun (label, body) => (label, .knot label (value inner body))

/-- The value of a tree that has been checked. -/
def Tree.value (tree : Tree) : Value :=
  let rings := tree.rings.map fun (label, body) => (label, body.merged)
  tree.root.merged.value (ringValues rings unrolling)

end Node

/-- The value that a text describes. Without a document it is null. -/
def Document.read (s : Supply) : Except Problem Value := do
  let ts ← Node.orMalformed (tokens? s)
  match ← Node.ofTokens ts with
  | none => return .null
  | some tree =>
    Node.checkLevels (ts.length + 1) (← tree.root.check)
    return tree.value

/-- The value that a text at hand describes. -/
def Document.ofText (t : Text) : Except Problem Value :=
  read (.ofText t)

end LinkedDocs.Yaml
