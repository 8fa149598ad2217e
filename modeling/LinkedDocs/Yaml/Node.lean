import LinkedDocs.Yaml.Token

/-!
# Nodes

The tree that the tokens of a document describe: scalars, lists and maps, each perhaps with a tag. A
reference to an anchor stands for a copy of the node that the anchor names; within that node it
points back at it.

Tokens are looked at one by one. A text that breaks a rule of the format is malformed, unless an
obstacle is met before.
-/

namespace LinkedDocs.Yaml

inductive Node where
  | scalar (tag : Option Text) (isPlain : Bool) (t : Text)
  | list (tag : Option Text) (items : List Node)
  | map (tag : Option Text) (entries : List (Node × Node))
  /-- A node that holds itself, under a label. -/
  | ring (label : Nat) (body : Node)
  /-- The node around this one that has the label. -/
  | back (label : Nat)

/-- What the tags of the format's own types start with. -/
def coreLead : Text :=
  "tag:yaml.org,2002:".toList

/-- What tags with a handle start with, unless a directive says otherwise. -/
def defaultLeads : List (Text × Text) :=
  [(['!'], ['!']), (['!', '!'], coreLead)]

namespace Node

/-- A node that is left out. -/
def absent : Node :=
  .scalar none true []

/-- What is known about an anchor. -/
inductive Anchor where
  /-- Its node is being read and has a label for those that point back at it. -/
  | opened (label : Nat)
  | complete (n : Node)

/-- What is left to read, and what is known from what has been read. -/
structure Stream where
  tokens : List Token
  /-- What tags with a handle start with. -/
  leads : List (Text × Text) := defaultLeads
  anchors : List (Text × Anchor) := []
  /-- The labels that nodes point back at. -/
  used : List Nat := []
  /-- The nodes that hold themselves, by their labels. -/
  rings : List (Nat × Node) := []

/-- Reads nodes off a stream of tokens. -/
abbrev Reader := StateT Stream (Except Problem)

namespace Reader

/-- Gives up on a text that breaks a rule. -/
def fail {α : Type} : Reader α :=
  throw .malformed

/-- The next token. It must not be an obstacle. -/
def peek? : Reader (Option Token) := do
  match (← get).tokens with
  | .obstacle o :: _ => throw o.problem
  | ts => return ts.head?

/-- Goes to the next token. -/
def advance : Reader Unit :=
  modify fun s => { s with tokens := s.tokens.tail }

/-- Whether one of some tokens comes next. -/
def comes (ts : List Token) : Reader Bool := do
  return (← peek?).any ts.contains

/-- Takes a token if it comes next. -/
def accept (t : Token) : Reader Bool := do
  if ← comes [t] then
    advance
    return true
  else return false

/-- Takes a token that must come next. -/
def expect (t : Token) : Reader Unit := do
  if ← accept t then return () else fail

/-- The anchor that comes next. -/
def anchor? : Reader (Option Text) := do
  match ← peek? with
  | some (.anchor name) => advance; return some name
  | _ => return none

/-- The tag that comes next, with the handle that it may leave its beginning to. -/
def tag? : Reader (Option (Option Text × Text)) := do
  match ← peek? with
  | some (.tag handle name) => advance; return some (handle, name)
  | _ => return none

/-- A tag in full. Its handle must be known. -/
def fullTag (handle : Option Text) (name : Text) : Reader Text := do
  match handle with
  | none => return name
  | some handle =>
    match (← get).leads.lookup handle with
    | some lead => return lead ++ name
    | none => fail

/-- An anchor and a tag, each of which may be missing, in either order. -/
def properties : Reader (Option Text × Option Text) := do
  let first ← anchor?
  match ← tag? with
  | none => return (first, none)
  | some (handle, name) =>
    let anchor ← if first.isSome then pure first else anchor?
    return (anchor, some (← fullTag handle name))

/-- The node that an anchor names. -/
def named (name : Text) : Reader Node := do
  match (← get).anchors.lookup name with
  | some (.complete n) => return n
  | some (.opened label) =>
    modify fun s => { s with used := label :: s.used }
    return .back label
  | none => fail

/-- Introduces an anchor, which must be new, and answers its label. -/
def declare (name : Text) : Reader Nat := do
  let s ← get
  if (s.anchors.lookup name).isSome then fail
  else
    set { s with anchors := (name, .opened s.anchors.length) :: s.anchors }
    return s.anchors.length

/-- Completes an anchor. -/
def define (name : Text) (label : Nat) (n : Node) : Reader Node := do
  let s ← get
  if s.used.contains label then
    let ring := Node.ring label n
    set { s with anchors := (name, .complete ring) :: s.anchors, rings := (label, n) :: s.rings }
    return ring
  else
    set { s with anchors := (name, .complete n) :: s.anchors }
    return n

end Reader

open Reader

mutual

/-- Reads a node. Only in a block can it be an indented collection, and only after a key a list that
is not indented. -/
def read (block unindented : Bool) : (fuel : Nat) → Reader Node
  | 0 => fail
  | fuel + 1 => do
    match ← peek? with
    | some (.reference name) =>
      advance
      named name
    | _ =>
      let (anchor, tag) ← properties
      let _ ← peek?
      match anchor with
      | none => readContent block unindented tag.isSome tag fuel
      | some name =>
        let label ← declare name
        let n ← readContent block unindented true tag fuel
        define name label n

/-- Reads a node without its anchor and tag. After one of these the rest can be left out. -/
def readContent (block unindented optional : Bool) (tag : Option Text) : (fuel : Nat) → Reader Node
  | 0 => fail
  | fuel + 1 => do
    match ← peek? with
    | some (.scalar t isPlain) =>
      advance
      return .scalar tag isPlain t
    | some .flowList =>
      advance
      return .list tag (← readFlowItems fuel)
    | some .flowMap =>
      advance
      return .map tag (← readFlowEntries fuel)
    | next =>
      if next = some .blockEntry ∧ unindented then
        return .list tag (← readUnindentedItems fuel)
      else if next = some .blockList ∧ block then
        advance
        return .list tag (← readItems fuel)
      else if next = some .blockMap ∧ block then
        advance
        return .map tag (← readEntries fuel)
      else if optional then
        return .scalar tag true []
      else fail

/-- Reads a node, or none if one of some tokens comes next. -/
def readUnless (ends : List Token) (block unindented : Bool) : (fuel : Nat) → Reader Node
  | 0 => fail
  | fuel + 1 => do
    if ← comes ends then return absent
    else read block unindented fuel

/-- Reads the items of an indented list. -/
def readItems : (fuel : Nat) → Reader (List Node)
  | 0 => fail
  | fuel + 1 => do
    if ← accept .blockEntry then
      let item ← readUnless [.blockEntry, .blockEnd] true false fuel
      return item :: (← readItems fuel)
    else
      expect .blockEnd
      return []

/-- Reads the items of a list that is not indented. -/
def readUnindentedItems : (fuel : Nat) → Reader (List Node)
  | 0 => fail
  | fuel + 1 => do
    if ← accept .blockEntry then
      let item ← readUnless [.blockEntry, .key, .value, .blockEnd] true false fuel
      return item :: (← readUnindentedItems fuel)
    else return []

/-- Reads the entries of an indented map. -/
def readEntries : (fuel : Nat) → Reader (List (Node × Node))
  | 0 => fail
  | fuel + 1 => do
    if ← accept .key then
      let ends := [Token.key, .value, .blockEnd]
      let key ← readUnless ends true true fuel
      let value ← if ← accept .value then readUnless ends true true fuel else pure absent
      return (key, value) :: (← readEntries fuel)
    else
      expect .blockEnd
      return []

/-- Reads the value after a key in brackets. -/
def readFlowValue (ends : List Token) : (fuel : Nat) → Reader Node
  | 0 => fail
  | fuel + 1 => do
    if ← accept .value then readUnless ends false false fuel else return absent

/-- Reads the items of a list in brackets. A key in it stands for a map with that key only. -/
def readFlowItems : (fuel : Nat) → Reader (List Node)
  | 0 => fail
  | fuel + 1 => do
    if ← accept .flowListEnd then return []
    else
      let item ← if ← accept .key then do
          let key ← readUnless [.value, .flowEntry, .flowListEnd] false false fuel
          let value ← readFlowValue [.flowEntry, .flowListEnd] fuel
          pure (.map none [(key, value)])
        else read false false fuel
      if ← accept .flowEntry then
        return item :: (← readFlowItems fuel)
      else
        expect .flowListEnd
        return [item]

/-- Reads the entries of a map in brackets. -/
def readFlowEntries : (fuel : Nat) → Reader (List (Node × Node))
  | 0 => fail
  | fuel + 1 => do
    if ← accept .flowMapEnd then return []
    else
      let entry ← if ← accept .key then do
          let key ← readUnless [.value, .flowEntry, .flowMapEnd] false false fuel
          let value ← readFlowValue [.flowEntry, .flowMapEnd] fuel
          pure (key, value)
        else do
          let key ← read false false fuel
          pure (key, absent)
      if ← accept .flowEntry then
        return entry :: (← readFlowEntries fuel)
      else
        expect .flowMapEnd
        return [entry]

end

/-- What the directives of a document say. -/
structure Directives where
  versioned : Bool := false
  leads : List (Text × Text) := []

/-- Takes the directives of a document off some tokens: at most one names the version, which must be
1, and a handle is explained at most once. -/
def takeDirectives? (d : Directives) : List Token → Option (Directives × List Token)
  | .version major :: ts =>
    if d.versioned || major ≠ 1 then none else takeDirectives? { d with versioned := true } ts
  | .tagLead handle lead :: ts =>
    if (d.leads.lookup handle).isSome then none
    else takeDirectives? { d with leads := (handle, lead) :: d.leads } ts
  | .directive :: ts => takeDirectives? d ts
  | ts => some (d, ts)

/-- Reads the beginning of a document: its directives and the marker after them. -/
def readStart : Reader Unit := do
  match takeDirectives? {} (← get).tokens with
  | none => fail
  | some (d, ts) =>
    modify fun s => { s with tokens := ts, leads := d.leads ++ defaultLeads }
    expect .documentStart

/-- Reads the root of a document. It may be left out after a document marker. -/
def readRoot (fuel : Nat) : Reader Node := do
  let starts := fun (t : Token) => t.isDirective || t = .documentStart
  if (← peek?).any starts then
    readStart
    if (← peek?).all fun t => starts t || t = .documentEnd then return absent
    else read true false fuel
  else read true false fuel

/-- Reads what comes after the root. There must be no other document. -/
def readEnd : (fuel : Nat) → Reader Unit
  | 0 => fail
  | fuel + 1 => do
    if ← accept .documentEnd then readEnd fuel
    else if (← peek?).isSome then
      readStart
      fail
    else return ()

/-- A tree, with the nodes in it that hold themselves. -/
structure Tree where
  root : Node
  rings : List (Nat × Node)

/-- Reads the only document, if there is one. -/
def readDocument (fuel : Nat) : Reader (Option Tree) := do
  if (← peek?).isNone then return none
  else
    let root ← readRoot fuel
    readEnd fuel
    return some ⟨root, (← get).rings⟩

/-- The only document that the tokens describe, or nothing if there is no document. -/
def ofTokens (ts : List Token) : Except Problem (Option Tree) :=
  (readDocument (4 * ts.length + 4)).run' { tokens := ts }

end Node

end LinkedDocs.Yaml
