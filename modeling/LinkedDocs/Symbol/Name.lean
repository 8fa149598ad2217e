import LinkedDocs.Text.Pieces
import LinkedDocs.Text.Case
import LinkedDocs.Text.Digit

/-!
# Symbol names

A symbol is referred to by a documentation id such as `T:Ns.Type` or `M:Ns.Type.Go(System.String)`:
an optional letter for its kind, a dotted name, and an optional parameter list. A generic type is
written with its arguments in angle brackets or braces, or with its arity after a backtick.
-/

namespace LinkedDocs

/-- What a documentation id refers to. -/
inductive SymbolKind where
  | assembly | namespace | type | field | property | method | event | unknown
deriving DecidableEq, Repr

namespace SymbolKind

/-- Every kind, in order. -/
def all : List SymbolKind :=
  [.assembly, .namespace, .type, .field, .property, .method, .event, .unknown]

def text : SymbolKind → Text
  | .assembly => "assembly".toList
  | .namespace => "namespace".toList
  | .type => "type".toList
  | .field => "field".toList
  | .property => "property".toList
  | .method => "method".toList
  | .event => "event".toList
  | .unknown => "unknown".toList

/-- The kind that the letter of a documentation id stands for. -/
def ofLetter : Char → SymbolKind
  | 'A' => .assembly
  | 'N' => .namespace
  | 'T' => .type
  | 'F' => .field
  | 'P' => .property
  | 'M' => .method
  | 'E' => .event
  | _ => .unknown

end SymbolKind

namespace Symbol

open Text

/-- The kind letter of a documentation id and the rest after its colon. -/
def splitLetter? : Text → Option (Char × Text)
  | c :: ':' :: rest => if 'A' ≤ c ∧ c ≤ 'Z' then some (c, rest) else none
  | _ => none

/-- Whether the name starts with a kind letter and a colon. -/
def hasLetter (name : Text) : Bool :=
  (splitLetter? name).isSome

/-- The name without its kind letter and colon. -/
def dropLetter (name : Text) : Text :=
  match splitLetter? name with
  | some (_, rest) => rest
  | none => name

/-- The kind that the name's letter stands for. -/
def kind (name : Text) : SymbolKind :=
  match splitLetter? name with
  | some (c, _) => .ofLetter c
  | none => .unknown

/-- The name up to its parameter list. -/
def dropParameters (name : Text) : Text :=
  name.takeWhile (· != '(')

def isOpenBracket (c : Char) : Bool :=
  c == '<' || c == '{'

def isCloseBracket (c : Char) : Bool :=
  c == '>' || c == '}'

def isBracket (c : Char) : Bool :=
  isOpenBracket c || isCloseBracket c

/-- A generic argument list without a further list inside it. Either style of bracket closes
either. -/
def genericArguments : Recogniser Text := fun _ t =>
  match t with
  | c :: cs =>
    if isOpenBracket c then
      match cs.dropWhile (!isBracket ·) with
      | d :: rest => if isCloseBracket d then some (cs.takeWhile (!isBracket ·), rest) else none
      | [] => none
    else none
  | [] => none

/-- The name without generic argument lists, from the innermost outwards. -/
def dropGenerics (name : Text) : Text :=
  let outer := replace genericArguments (fun _ => []) name
  if outer.length < name.length then dropGenerics outer else name
termination_by name.length

/-- Digits with at least one backtick, of which the first `ticks` are passed over. -/
def arityAfter (ticks : Nat) (t : Text) : Option (Text × Text) :=
  let digits := t.drop ticks
  match digits.takeWhile isDigit with
  | [] => none
  | arity => some (arity, digits.dropWhile isDigit)

/-- An arity after one or two backticks. -/
def arityMark : Recogniser Text := fun _ t =>
  match t with
  | '`' :: '`' :: _ => arityAfter 2 t
  | '`' :: _ => arityAfter 1 t
  | _ => none

/-- An arity after any number of backticks. -/
def arityRun : Recogniser Text := fun _ t =>
  match t with
  | '`' :: _ => arityAfter (t.takeWhile (· == '`')).length t
  | _ => none

/-- The name as it is shown to a reader: without arities. -/
def displayName (name : Text) : Text :=
  replace arityRun (fun _ => []) name

/-- What stands after the last dot. -/
def lastSegment (name : Text) : Text :=
  (name.reverse.takeWhile (· != '.')).reverse

/-- The last dotted segment of a name, without letter, parameters and generic arguments. -/
def simpleName (name : Text) : Text :=
  lastSegment (dropGenerics (dropParameters (dropLetter name)))

/-- The one form of a type name under which its spellings are matched. -/
def normalize (name : Text) : Text :=
  strip (replaceChar '+' ['.'] (replace arityMark (fun _ => [])
    (dropGenerics (dropLetter (strip name)))))

/-- The namespace of a normalized type name and the name within it. -/
def splitNamespace (name : Text) : Text × Text :=
  let simple := lastSegment name
  (name.take (name.length - simple.length - 1), simple)

/-- Whether the name lies in one of the namespaces documented elsewhere. -/
def isExternal (name : Text) (namespaces : List Text) : Bool :=
  namespaces.any (startsWith · name)

/-- The number of arguments in a generic argument list, written as an arity. -/
def arityOfArguments (arguments : Text) : Text :=
  '`' :: Text.ofNat (arguments.count ',' + 1)

/-- The page about a type in the documentation at `base`. An arity is written after a hyphen, and
a nested type after a dot. -/
def externalUrl (name base : Text) : Text :=
  let bare := dropParameters (dropLetter name)
  let withArity := replace genericArguments arityOfArguments bare
  let page := lower (replaceChar '+' ['.'] (replace arityRun ('-' :: ·) withArity))
  (base.reverse.dropWhile (· == '/')).reverse ++ '/' :: page

end Symbol

end LinkedDocs
