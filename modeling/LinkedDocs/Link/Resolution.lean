import LinkedDocs.Link.Index
import LinkedDocs.Symbol.Keyword
import LinkedDocs.Text.Letter

/-!
# Resolving references

A symbol is looked up in the link index under several spellings; one that is not there may be
documented elsewhere. A link always resolves to its own address, and a keyword to its page in the
language reference.
-/

namespace LinkedDocs

/-- What has become of one reference. -/
structure Resolution where
  raw : Text
  kind : ReferenceKind
  state : ResolutionState
  displayName : Value
  target : Option Text := none
  targetId : Value := .null
  symbolKind : SymbolKind := .unknown

namespace Resolution

def isResolved (r : Resolution) : Bool :=
  r.state ≠ .unresolved

/-- The target, if it is not empty. -/
def address? (r : Resolution) : Option Text :=
  r.target.filter (!·.isEmpty)

/-- A link in Markdown. -/
def link (label address : Text) : Text :=
  '[' :: label ++ "](".toList ++ address ++ [')']

/-- Text as inline code. -/
def code (t : Text) : Text :=
  '`' :: t ++ ['`']

/-- The reference in Markdown: a link, or inline code if there is no target. -/
def markdown (r : Resolution) : Text :=
  let label := r.displayName.toText
  match r.kind, r.address? with
  | .keyword, some address => link (code label) address
  | _, some address => if r.isResolved then link label address else code label
  | _, none => code label

end Resolution

/-- Resolves references against an index. -/
structure Resolver where
  index : LinkIndex := {}
  config : Config := {}

namespace Resolver

open Text

/-- Whether the text starts as a web address does. -/
def isUrl (t : Text) : Bool :=
  match afterName? "http".toList t with
  | some rest =>
    startsWith "://".toList rest || ((afterName? [ 's'] rest).any (startsWith "://".toList))
  | none => false

/-- The start of a reference that names a keyword. -/
def keywordMark : Text := "langword:".toList

/-- What a reference without a kind points at. -/
def classify (raw : Text) : ReferenceKind :=
  if isUrl raw then .externalResource
  else if startsWith keywordMark (lower raw) then .keyword
  else if !Symbol.hasLetter raw && !raw.contains '.' && (Keyword.url? raw).isSome then .keyword
  else .internalSymbol

/-- The keys under which a symbol is looked up, in order. -/
def candidates (raw : Text) : List Text :=
  let bare := Symbol.dropParameters (Symbol.dropLetter raw)
  [raw, Symbol.dropParameters raw, bare] ++
    (match Symbol.kind raw with
      | .type | .unknown => [Symbol.normalize bare]
      | _ => [])

/-- The target of a symbol in the index. -/
def lookup? (resolver : Resolver) (raw : Text) : Option LinkTarget :=
  (candidates raw).findSome? resolver.index.lookup?

/-- What a link without a label is called. -/
def defaultLabel : Text := "link".toList

/-- A web address resolves to itself. Without a label it is called a link. -/
def resolveLink (url label : Text) : Resolution :=
  let shown := strip label
  { raw := url
    kind := .externalResource
    state := .resolvedExternal
    displayName := .text (if shown.isEmpty then defaultLabel else shown)
    target := some (strip url) }

/-- A keyword resolves to its reference page. -/
def resolveKeyword (keyword : Text) : Resolution :=
  let word := Keyword.canonical keyword
  let url := Keyword.url? word
  { raw := keyword
    kind := .keyword
    state := if url.isSome then .resolvedExternal else .unresolved
    displayName := .text word
    target := url }

/-- A symbol that the index has. -/
def resolvedInternal (payload raw : Text) (target : LinkTarget) : Resolution :=
  { raw := payload
    kind := .internalSymbol
    state := .resolvedInternal
    displayName := target.displayName
    target := some target.href
    targetId := target.entityId
    symbolKind := match Symbol.kind raw with
      | .unknown => target.symbolKind
      | kind => kind }

/-- A symbol that is documented elsewhere. -/
def resolvedExternal (resolver : Resolver) (payload raw : Text) : Resolution :=
  let bare := Symbol.dropParameters (Symbol.dropLetter raw)
  { raw := payload
    kind := .internalSymbol
    state := .resolvedExternal
    displayName := .text (Symbol.displayName (Symbol.simpleName bare))
    target := some (Symbol.externalUrl bare resolver.config.externalBase)
    symbolKind := Symbol.kind raw }

/-- A symbol that nothing is known about. -/
def unresolved (payload raw : Text) : Resolution :=
  { raw := payload
    kind := .internalSymbol
    state := .unresolved
    displayName := .text (Symbol.displayName (Symbol.simpleName raw))
    symbolKind := Symbol.kind raw }

/-- Resolves a symbol: in the index, or else elsewhere if its namespace is documented there. -/
def resolveSymbol (resolver : Resolver) (payload : Text) : Resolution :=
  let raw := strip payload
  if raw.isEmpty then
    { raw := payload, kind := .internalSymbol, state := .unresolved, displayName := .text [] }
  else if isUrl raw then resolveLink raw []
  else
    match resolver.lookup? raw with
    | some target => resolvedInternal payload raw target
    | none =>
      let bare := Symbol.dropParameters (Symbol.dropLetter raw)
      if Symbol.isExternal bare resolver.config.externalNamespaces then
        resolver.resolvedExternal payload raw
      else unresolved payload raw

/-- A web address under the label that a record gives. Bytes are kept as they are, without the
blanks around them; anything else but text cannot be stripped. -/
def resolveLabelled (url : Text) : Value → Except Fault Resolution
  | .scalar (.text label) => .ok (resolveLink url label)
  | .scalar (.bytes bs) =>
    let shown := stripBytes bs
    if shown.isEmpty then .ok (resolveLink url [])
    else .ok { resolveLink url [] with displayName := .scalar (.bytes shown) }
  | label => if label.holds then .error (.lacks label "strip".toList) else .ok (resolveLink url [])

/-- The record with what a resolution found, its raw text apart. -/
def withResolution (record : Reference) (r : Resolution) : Reference :=
  { record with
    kind := some r.kind
    state := some r.state
    target := .ofText? r.target
    displayName := r.displayName
    targetId := r.targetId
    symbolKind := r.symbolKind }

/-- Resolves a reference attached to an entity. Its own kind counts; without one it is classified
by its text. -/
def resolveRecord (resolver : Resolver) (record : Reference) : Except Fault Reference := do
  let raw := strip (← record.raw.expectText "strip".toList)
  match record.kind.getD (classify raw) with
  | .externalResource =>
    return withResolution record (← resolveLabelled raw record.displayName)
  | .keyword =>
    let word := if startsWith keywordMark (lower raw) then raw.drop keywordMark.length else raw
    return withResolution record (resolveKeyword word)
  | .internalSymbol => return withResolution record (resolver.resolveSymbol raw)

/-- The resolver over the index of a graph. -/
def ofGraph (g : Graph) (config : Config) : Except Fault Resolver := do
  return ⟨← LinkIndex.build g config, config⟩

end Resolver

end LinkedDocs
