import LinkedDocs.Number.Numeral
import LinkedDocs.Text.Utf8
import LinkedDocs.Yaml.Block
import LinkedDocs.Yaml.Flow
import LinkedDocs.Yaml.Supply

/-!
# Tokens

The signs of a YAML text: markers, brackets, the beginnings and ends of indented collections, names
and scalars. Indentation becomes tokens here, and so does a key: a scalar or bracketed collection is
a key if a colon follows it in the same line, which is known only when the colon is met. Until then
it is a candidate, and the token that marks it as a key is put in front of it afterwards.

Tokens are asked for one by one, so an obstacle in the text only counts once a token is asked for that
cannot be given without going past it. `Layout.tokens?` ends the tokens there.
-/

namespace LinkedDocs.Yaml

inductive Token where
  /-- The directive that names the format's version. -/
  | version (major : Nat)
  /-- The directive that says what tags with a handle start with. -/
  | tagLead (handle lead : Text)
  /-- Any other directive. -/
  | directive
  | documentStart
  | documentEnd
  | blockList
  | blockMap
  | blockEnd
  | flowList
  | flowListEnd
  | flowMap
  | flowMapEnd
  | blockEntry
  | flowEntry
  | key
  | value
  | reference (name : Text)
  | anchor (name : Text)
  /-- A tag, which may leave its beginning to a handle. -/
  | tag (handle : Option Text) (name : Text)
  | scalar (text : Text) (isPlain : Bool)
  /-- The end of what can be read. -/
  | obstacle (o : Obstacle)
deriving DecidableEq

/-- Whether the token is a directive. -/
def Token.isDirective : Token → Bool
  | .version _ => true
  | .tagLead .. => true
  | .directive => true
  | _ => false

/-! ## Names, tags and directives -/

/-- Whether the character can stand in a name. -/
def isNameChar (c : Char) : Bool :=
  c.isAlphanum || c = '-' || c = '_'

/-- A name that is not empty, and the source after it. -/
def name? (s : Source) : Option (Text × Source) :=
  let name := Source.text (s.takeWhile fun (c, _) => isNameChar c)
  if name.isEmpty then none else some (name, s.dropWhile fun (c, _) => isNameChar c)

/-- The name of an anchor or of a reference to one, and the source after it. -/
def anchorName? (s : Source) : Option (Text × Source) :=
  (name? s).bind fun (name, rest) =>
    if rest.endsOr fun c => Source.isGap c || "?:,]\x7d%@`".toList.contains c then
      some (name, rest)
    else none

/-- Whether the character can stand in a tag. -/
def isTagChar (c : Char) : Bool :=
  c.isAlphanum || "-;/?:@&=+$,_.!~*'()[]".toList.contains c

/-- The bytes of the escapes that come next, each of two hexadecimal digits after a percent sign, and
the source after them. -/
def escapedBytes? : Source → Option (List UInt8 × Source)
  | ('%', _) :: (a, _) :: (b, _) :: rest =>
    match Quoted.hexValue? [a, b], escapedBytes? rest with
    | some n, some (more, rest) => some (n.toUInt8 :: more, rest)
    | _, _ => none
  | ('%', _) :: _ => none
  | s => some ([], s)

/-- The text of the escapes that come next, and the source after them. -/
def escapedText? (s : Source) : Option (Text × Source) :=
  (escapedBytes? s).bind fun (bytes, rest) =>
    match Utf8.decode bytes with
    | .ok t => some (t, rest)
    | .error _ => none

/-- The characters of a tag that come next, and the source after them. Each step takes a run of
characters and the escapes after it, so there are no more steps than characters. -/
def tagText? : (fuel : Nat) → Source → Option (Text × Source)
  | 0, s => some ([], s)
  | fuel + 1, s =>
    let run := Source.text (s.takeWhile fun (c, _) => isTagChar c)
    let rest := s.dropWhile fun (c, _) => isTagChar c
    match rest with
    | ('%', _) :: _ =>
      (escapedText? rest).bind fun (t, rest) =>
        (tagText? fuel rest).map fun (more, rest) => (run ++ t ++ more, rest)
    | _ => some (run, rest)

/-- The end of a tag, which is not empty, and the source after it. -/
def tagName? (s : Source) : Option (Text × Source) :=
  if s.endsOr fun c => !isTagChar c && c ≠ '%' then none else tagText? s.length s

/-- The handle of a tag after its exclamation mark: a name up to another exclamation mark, or nothing
if a blank follows. -/
def tagHandle? (s : Source) : Option (Text × Source) :=
  match s with
  | (' ', _) :: _ => some (['!'], s)
  | _ =>
    match s.dropWhile fun (c, _) => isNameChar c with
    | ('!', _) :: rest =>
      some ('!' :: Source.text (s.takeWhile fun (c, _) => isNameChar c) ++ ['!'], rest)
    | _ => none

/-- Whether a tag or directive may end here. -/
def atSpaceOrBreak (s : Source) : Bool :=
  s.endsOr fun c => c = ' ' || isBreak c

/-- The tag after an exclamation mark, and the source after it. -/
def tag? (s : Source) : Option (Token × Source) :=
  let word := s.takeWhile fun (c, _) => !(c = ' ' || isBreak c)
  let found := match s with
    | ('<', _) :: rest =>
      (tagName? rest).bind fun (name, rest) =>
        match rest with
        | ('>', _) :: rest => some (none, name, rest)
        | _ => none
    | _ =>
      if s.atGap then some (none, ['!'], s)
      else if word.any (·.1 = '!') then
        (tagHandle? s).bind fun (handle, rest) =>
          (tagName? rest).map fun (name, rest) => (some handle, name, rest)
      else (tagName? s).map fun (name, rest) => (some ['!'], name, rest)
  found.bind fun (handle, name, rest) =>
    if atSpaceOrBreak rest then some (.tag handle name, rest) else none

/-- The digits that come next, of which there is at least one, and the source after them. -/
def digits? (s : Source) : Option (Text × Source) :=
  let digits := Source.text (s.takeWhile fun (c, _) => c.isDigit)
  if digits.isEmpty then none else some (digits, s.dropWhile fun (c, _) => c.isDigit)

/-- The obstacle that digits are if there are too many of them. -/
def digitsObstacle? (digits : Text) : Option Obstacle :=
  if Numeral.maxDigits < digits.length then some (.tooLong digits.length) else none

/-- The version after its directive's name, and the source from the next line on. -/
def version? (s : Source) : Option (Token × Source) :=
  (digits? s.skipSpaces).bind fun (major, rest) =>
    match digitsObstacle? major, rest with
    | some o, _ => some (.obstacle o, [])
    | none, ('.', _) :: rest =>
      (digits? rest).bind fun (minor, rest) =>
        match digitsObstacle? minor with
        | some o => some (.obstacle o, [])
        | none =>
          if atSpaceOrBreak rest then
            rest.afterBlankLine?.map fun rest => (.version (Text.digitsValue major), rest)
          else none
    | none, _ => none

/-- The directive after a percent sign, and the source from the next line on. -/
def directive? (s : Source) : Option (Token × Source) :=
  (name? s).bind fun (name, rest) =>
    if !atSpaceOrBreak rest then none
    else if name = "YAML".toList then version? rest
    else if name = "TAG".toList then
      match rest.skipSpaces with
      | ('!', _) :: rest =>
        (tagHandle? rest).bind fun (handle, rest) =>
          match rest with
          | (' ', _) :: _ =>
            (tagName? rest.skipSpaces).bind fun (lead, rest) =>
              if atSpaceOrBreak rest then
                rest.afterBlankLine?.map fun rest => (.tagLead handle lead, rest)
              else none
          | _ => none
      | _ => none
    else rest.skipLine.afterBlankLine?.map fun rest => (.directive, rest)

/-! ## Layout -/

/-- A token that may turn out to start a key. -/
structure Candidate where
  /-- How many tokens come before it. -/
  number : Nat
  /-- Whether nothing else than a key can stand there. -/
  required : Bool
  place : Place

/-- How far a text has been cut into tokens. -/
structure Layout where
  /-- The column of the innermost indented collection. -/
  indent : Int := -1
  /-- The columns of the collections around it. -/
  outer : List Int := []
  /-- The candidate at each level of brackets, innermost first. -/
  candidates : List (Option Candidate) := [none]
  /-- Whether a key can start here. -/
  keyAllowed : Bool := true
  /-- The tokens, last first. -/
  tokens : List Token := []
  count : Nat := 0

namespace Layout

def inFlow (l : Layout) : Bool :=
  1 < l.candidates.length

def push (t : Token) (l : Layout) : Layout :=
  { l with tokens := t :: l.tokens, count := l.count + 1 }

/-- Puts a token in front of the one with the given number. -/
def insert (number : Nat) (t : Token) (l : Layout) : Layout :=
  { l with tokens := l.tokens.insertIdx (l.count - number) t, count := l.count + 1 }

def allowKey (allowed : Bool) (l : Layout) : Layout :=
  { l with keyAllowed := allowed }

/-- The candidate at the current level. -/
def candidate? (l : Layout) : Option Candidate :=
  l.candidates.head?.join

def setCandidate (candidate : Option Candidate) (l : Layout) : Layout :=
  { l with candidates := candidate :: l.candidates.tail }

/-- Gives up the candidate at the current level, which must not be required. -/
def dropCandidate? (l : Layout) : Option Layout :=
  if l.candidate?.any (·.required) then none else some (l.setCandidate none)

/-- Makes the next token a candidate if a key can start there. -/
def addCandidate? (p : Place) (l : Layout) : Option Layout :=
  if l.keyAllowed then
    l.dropCandidate?.map (·.setCandidate (some {
      number := l.count
      required := !l.inFlow && l.indent = p.column
      place := p }))
  else some l

/-- Whether a key that started with the candidate can no longer end: it must be in one line and no
longer than 1024 characters. -/
def isStale (p : Place) (candidate : Candidate) : Bool :=
  candidate.place.line ≠ p.line || 1024 < p.index - candidate.place.index

/-- Gives up the candidates that are stale, none of which must be required. -/
def dropStale? (p : Place) (l : Layout) : Option Layout :=
  let stale := fun (c : Option Candidate) => c.any (isStale p)
  if l.candidates.any fun c => stale c && c.any (·.required) then none
  else some { l with candidates := l.candidates.map fun c => if stale c then none else c }

/-- The columns left after closing the collections to the right of a column, and how many were
closed. -/
def close (column : Int) : Int → List Int → Nat × Int × List Int
  | indent, [] => (0, indent, [])
  | indent, next :: outer =>
    if column < indent then
      let (n, rest) := close column next outer
      (n + 1, rest)
    else (0, indent, next :: outer)

/-- Closes the indented collections to the right of a column; brackets suspend indentation. -/
def closeTo (column : Int) (l : Layout) : Layout :=
  if l.inFlow then l
  else
    let (n, indent, outer) := close column l.indent l.outer
    { l with
      indent
      outer
      tokens := List.replicate n .blockEnd ++ l.tokens
      count := l.count + n }

/-- Whether a collection starts at a column. -/
def startsAt (column : Nat) (l : Layout) : Bool :=
  l.indent < column

/-- The layout within a collection that starts at a column. -/
def indented (column : Nat) (l : Layout) : Layout :=
  { l with indent := column, outer := l.indent :: l.outer }

/-- Starts a collection at a column, unless it is there already. -/
def openAt (column : Nat) (t : Token) (l : Layout) : Layout :=
  if l.startsAt column then (l.indented column).push t else l

/-- The layout after a document marker or before a directive. -/
def leaveDocument? (l : Layout) : Option Layout :=
  (l.closeTo (-1)).dropCandidate?.map (·.allowKey false)

/-- A scalar, name or tag, which may start a key. -/
def atom? (p : Place) (l : Layout) (found : Option (Token × Source)) : Option (Layout × Source) :=
  match l.addCandidate? p, found with
  | some l, some (t, rest) => some ((l.allowKey false).push t, rest)
  | _, _ => none

/-- An opening bracket. -/
def openFlow? (p : Place) (t : Token) (l : Layout) : Option Layout :=
  (l.addCandidate? p).map fun l =>
    { l.push t with candidates := none :: l.candidates, keyAllowed := true }

/-- A closing bracket. -/
def closeFlow? (t : Token) (l : Layout) : Option Layout :=
  if l.inFlow then some { l.push t with candidates := l.candidates.tail, keyAllowed := false }
  else none

/-- A dash before an item. In brackets there is no list that it could belong to. -/
def entry? (p : Place) (l : Layout) : Option Layout :=
  if l.inFlow then l.dropCandidate?.map fun l => (l.allowKey true).push .blockEntry
  else if l.keyAllowed then
    (l.openAt p.column .blockList).dropCandidate?.map fun l => (l.allowKey true).push .blockEntry
  else none

/-- A question mark before a key. -/
def explicitKey? (p : Place) (l : Layout) : Option Layout :=
  if l.inFlow then l.dropCandidate?.map fun l => (l.allowKey false).push .key
  else if l.keyAllowed then
    (l.openAt p.column .blockMap).dropCandidate?.map fun l => (l.allowKey true).push .key
  else none

/-- A colon before a value. If there is a candidate it was a key. -/
def colon? (p : Place) (l : Layout) : Option Layout :=
  match l.candidate? with
  | some c =>
    let l := (l.setCandidate none).insert c.number .key
    let column := c.place.column
    let l := if !l.inFlow && l.startsAt column then
        (l.indented column).insert c.number .blockMap
      else l
    some ((l.allowKey false).push .value)
  | none =>
    if l.inFlow then some ((l.allowKey false).push .value)
    else if l.keyAllowed then
      some (((l.openAt p.column .blockMap).allowKey true).push .value)
    else none

/-- A block scalar. -/
def block? (folded : Bool) (rest : Source) (l : Layout) : Option (Layout × Source) :=
  match l.dropCandidate?, Block.scalar? folded l.indent rest with
  | some l, some (t, rest) => some ((l.allowKey true).push (.scalar t false), rest)
  | _, _ => none

/-- Cuts off the token that starts with the character `c` at `p`. -/
def next? (l : Layout) (c : Char) (p : Place) (rest : Source) : Option (Layout × Source) :=
  let here : Source := (c, p) :: rest
  let single := fun (t : Text × Source) => (Token.scalar t.1 false, t.2)
  let double := fun (t : Except Nat Text × Source) =>
    match t.1 with
    | .ok text => (Token.scalar text false, t.2)
    | .error code => (Token.obstacle (.outsized code), t.2)
  if p.column = 0 && c = '%' then
    l.leaveDocument?.bind fun l => (directive? rest).map fun (t, rest) => (l.push t, rest)
  else if p.column = 0 && here.startsMark '-' then
    l.leaveDocument?.map fun l => (l.push .documentStart, rest.drop 2)
  else if p.column = 0 && here.startsMark '.' then
    l.leaveDocument?.map fun l => (l.push .documentEnd, rest.drop 2)
  else if c = '[' then (l.openFlow? p .flowList).map (·, rest)
  else if c = '\x7b' then (l.openFlow? p .flowMap).map (·, rest)
  else if c = ']' then (l.closeFlow? .flowListEnd).map (·, rest)
  else if c = '\x7d' then (l.closeFlow? .flowMapEnd).map (·, rest)
  else if c = ',' then l.dropCandidate?.map fun l => ((l.allowKey true).push .flowEntry, rest)
  else if c = '-' && rest.atGap then (l.entry? p).map (·, rest)
  else if c = '?' && (l.inFlow || rest.atGap) then (l.explicitKey? p).map (·, rest)
  else if c = ':' && (l.inFlow || rest.atGap) then (l.colon? p).map (·, rest)
  else if c = '*' then l.atom? p ((anchorName? rest).map fun (t, rest) => (.reference t, rest))
  else if c = '&' then l.atom? p ((anchorName? rest).map fun (t, rest) => (.anchor t, rest))
  else if c = '!' then l.atom? p (tag? rest)
  else if c = '|' && !l.inFlow then l.block? false rest
  else if c = '>' && !l.inFlow then l.block? true rest
  else if c = '\'' then l.atom? p ((Quoted.single? rest).map single)
  else if c = '"' then l.atom? p ((Quoted.double? rest).map double)
  else if Plain.starts l.inFlow here then
    let (t, rest) := Plain.text l.inFlow l.indent here (.blanks []) here
    let (rest, broke) := rest.afterFill
    (l.atom? p (some (.scalar t true, rest))).map fun (l, rest) => (l.allowKey broke, rest)
  else none

/-- The obstacle that the last token is. -/
def obstacle? (l : Layout) : Option Obstacle :=
  match l.tokens with
  | .obstacle o :: _ => some o
  | _ => none

/-- The tokens that can be given before the one that starts in the source: those before the first
candidate, because it is not known yet whether that is a key. -/
def settled (s : Source) (l : Layout) : List Token :=
  let still := match s with
    | [] => []
    | (_, p) :: _ => l.candidates.reduceOption.filter fun c => !isStale p c
  l.tokens.reverse.take (still.foldl (fun n c => min n c.number) l.count)

/-- The tokens of a source that has been cut up. -/
def finish? (s : Source) (obstacle : Option Obstacle) (l : Layout) : Option (List Token) :=
  match obstacle with
  | some o => some (l.settled s ++ [.obstacle o])
  | none => l.leaveDocument?.map (·.tokens.reverse)

/-- The obstacle in the way of a token: the token itself, or that there was nothing left after it
because the end mark was met. -/
def obstacleIn? (rest : Source) (atEnd : Option Obstacle) (l : Layout) : Option Obstacle :=
  l.obstacle?.or (if rest.isEmpty then atEnd else none)

/-- Cuts a source into tokens, up to an obstacle. Each takes at least one character, so a source has no
more tokens than characters. -/
def tokens? (atEnd : Option Obstacle) : (fuel : Nat) → Layout → Source → Option (List Token)
  | 0, l, s => l.finish? s atEnd
  | fuel + 1, l, s =>
    match s.toToken false false with
    | ([], _) => l.finish? s atEnd
    | ((c, p) :: rest, broke) =>
      if c = endMark then l.finish? s atEnd
      else
        match (l.allowKey (l.keyAllowed || (broke && !l.inFlow))).dropStale? p with
        | none => none
        | some current =>
          match (current.closeTo p.column).next? c p rest with
          | none => none
          | some (next, rest) =>
            match next.obstacleIn? rest atEnd with
            | some o => l.finish? s (some o)
            | none => tokens? atEnd fuel next rest

end Layout

/-- The tokens of a text, or nothing if it is malformed. -/
def tokens? (s : Supply) : Option (List Token) :=
  Layout.tokens? s.obstacle s.source.length {} s.source

end LinkedDocs.Yaml
