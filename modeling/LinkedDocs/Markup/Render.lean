import LinkedDocs.Link.Resolution
import LinkedDocs.Markup.Code
import LinkedDocs.Markup.ItemList
import LinkedDocs.Markup.Stash

/-!
# Rendering markup

A note in documentation markup becomes Markdown without angle brackets outside code. Code regions
are stashed first, then references, code spans and inline code; what is left is formatted, its lists
are laid out, its angle brackets are escaped, and the stash is put back.
-/

namespace LinkedDocs.Markup

open Text

/-! ## Code regions -/

/-- A stretch of code, fenced or in an element. -/
inductive CodeRegion where
  | fenced (fence : Fence)
  | element (code : CodeElement)

def codeRegion : Recogniser CodeRegion := fun before t =>
  ((fence before t).map fun (f, rest) => (.fenced f, rest)).or
    ((codeElement before t).map fun (e, rest) => (.element e, rest))

/-- A fenced block of the language and the code. -/
def fencedBlock (language code : Text) : Text :=
  "```".toList ++ language ++ '\n' :: code ++ "\n```".toList

/-- Stashes a code region. Verbatim code loses its markers, a fence stays as it is, and an element
becomes a fence of its own paragraph. -/
def stashCode (defaultLanguage : Text) (s : Stash) : CodeRegion → Text × Stash
  | .fenced f => s.put (if isVerbatim f.language then f.body else f.source)
  | .element e =>
    let language := languageOf e.attributes
    let body := stripCdata e.body
    if isVerbatim language then s.put (join ['\n'] (trimmedLines body))
    else
      let code := escapeFences (dedent body)
      if isBlankText code then ([], s)
      else
        let language := if language.isEmpty then defaultLanguage else language
        let (token, s) := s.put (fencedBlock language code)
        ("\n\n".toList ++ token ++ "\n\n".toList, s)

/-! ## References -/

/-- What has been stashed and resolved so far. -/
structure Progress where
  stash : Stash := {}
  resolutions : List Resolution := []

namespace Progress

def put (p : Progress) (t : Text) : Text × Progress :=
  let (token, stash) := p.stash.put t
  (token, { p with stash })

def note (p : Progress) (r : Resolution) : Progress :=
  { p with resolutions := p.resolutions ++ [r] }

end Progress

def seeTags : List Text := [ "see".toList, "seealso".toList]

/-- A reference to a symbol. -/
def symbolTag : Recogniser TagReference :=
  referenceTag seeTags "cref".toList labelled

/-- A reference to a web address. -/
def linkTag : Recogniser TagReference :=
  referenceTag seeTags "href".toList labelled

/-- A reference to a keyword. -/
def keywordTag : Recogniser TagReference :=
  referenceTag [ "see".toList] "langword".toList fun _ => blankBodyOf "see".toList

/-- A reference to a parameter. -/
def parameterTag : Recogniser TagReference :=
  referenceTag [ "typeparamref".toList, "paramref".toList] "name".toList blankBody

/-- The label of a reference, or nothing. -/
def labelOf (tag : TagReference) : Text :=
  strip (tag.label.getD [])

/-- A link whose address is stashed. -/
def stashedLink (p : Progress) (label address : Text) : Text × Progress :=
  let (token, p) := p.put address
  (Resolution.link label token, p)

/-- A symbol as a link under the tag's own label, or as it is shown by itself. -/
def stashSymbol (resolver : Resolver) (p : Progress) (tag : TagReference) : Text × Progress :=
  let r := resolver.resolveSymbol tag.value
  let label := labelOf tag
  match r.address? with
  | some address =>
    if label.isEmpty then (p.note r).put r.markdown else stashedLink (p.note r) label address
  | none => (p.note r).put r.markdown

def stashLink (p : Progress) (tag : TagReference) : Text × Progress :=
  let r := Resolver.resolveLink tag.value (labelOf tag)
  stashedLink (p.note r) r.displayName.toText (r.target.getD [])

def stashKeyword (p : Progress) (tag : TagReference) : Text × Progress :=
  let r := Resolver.resolveKeyword tag.value
  (p.note r).put r.markdown

/-- A parameter is shown in italics. -/
def italicParameter (tag : TagReference) : Text :=
  '*' :: strip tag.value ++ ['*']

/-- Converts the references of a text. -/
def stashReferences (resolver : Resolver) (p : Progress) (t : Text) : Text × Progress :=
  let (t, p) := replaceWith symbolTag (stashSymbol resolver) p t
  let (t, p) := replaceWith linkTag stashLink p t
  let (t, p) := replaceWith keywordTag stashKeyword p t
  (replace parameterTag italicParameter t, p)

/-! ## Inline code -/

/-- A run of blanks with a line feed in it. -/
def brokenBlanks : Recogniser Unit := fun _ t =>
  if (t.takeWhile isBlank).contains '\n' then some ((), t.dropWhile isBlank) else none

/-- The code of an inline element, in one line. -/
def inlineCode (inner : Text) : Text :=
  strip (replace brokenBlanks (fun _ => [' ']) inner)

/-- Code as it is written within a line. Code that has a backtick gets two of them around it. -/
def inlineSpan (code : Text) : Text :=
  if '`' ∈ code then "`` ".toList ++ code ++ " ``".toList else '`' :: code ++ ['`']

/-- Stashes inline code, with what was taken out of it put back. -/
def stashInline (s : Except NoResult Stash) (inner : Text) : Text × Except NoResult Stash :=
  match s with
  | .error cause => ([], .error cause)
  | .ok s =>
    let code := inlineCode inner
    if code.isEmpty then ([], .ok s)
    else
      match s.restore code with
      | .error cause => ([], .error cause)
      | .ok code =>
        let (token, s) := s.put (inlineSpan code)
        (token, .ok s)

/-! ## Formatting -/

/-- A paragraph, set off by blank lines. -/
def paragraph (inner : Text) : Text :=
  let content := strip inner
  if content.isEmpty then "\n\n".toList else "\n\n".toList ++ content ++ "\n\n".toList

/-- Text with a marker on both sides, inside of the blanks around it. -/
def emphasized (marker inner : Text) : Text :=
  let core := strip inner
  if core.isEmpty then marker ++ marker
  else
    inner.takeWhile isBlank ++ marker ++ core ++ marker ++
      (inner.reverse.takeWhile isBlank).reverse

/-- One round of formatting: the innermost paragraphs, then bold, then italic elements. -/
def formatRound (t : Text) : Text :=
  let t := replace (innermost "para".toList) paragraph t
  let t := replace (innermost "b".toList) (emphasized "**".toList) t
  replace (innermost "i".toList) (emphasized "*".toList) t

/-- Repeats a step until it changes nothing, at most `fuel` times. -/
def settle (step : Text → Text) : (fuel : Nat) → Text → Text
  | 0, t => t
  | fuel + 1, t => let next := step t; if next = t then t else settle step fuel next

/-- A hard line break, with the space before it and the rest of its line. -/
def hardBreak : Recogniser Unit := fun _ t =>
  let tag := match t with
    | ' ' :: '<' :: cs => some cs
    | '<' :: cs => some cs
    | _ => none
  match (tag.bind (afterName? "br".toList)).bind fun rest =>
      (afterEmptyTagEnd? rest).or (afterTagEnd? rest) with
  | some rest =>
    match rest.dropWhile isIndent with
    | '\n' :: rest => some ((), rest)
    | rest => some ((), rest)
  | none => none

/-- Converts paragraphs, emphasis and line breaks. A round that changes the text takes at least two
angle brackets from it, so their number bounds the rounds. -/
def format (t : Text) : Text :=
  let t := replace (emptyTag "para".toList) (fun _ => "\n\n".toList) t
  replace hardBreak (fun _ => "  \n".toList) (settle formatRound (t.count '<' + 1) t)

/-! ## Lists -/

/-- A list element: its attributes and its content. -/
structure ListElement where
  attributes : Text
  body : Text

/-- Whether a list starts here. -/
def startsList : Text → Bool
  | '<' :: cs =>
    match afterName? "list".toList cs with
    | some (c :: _) => isBlank c || c = '>'
    | _ => false
  | _ => false

/-- A list element that holds no other list. -/
def listElement : Recogniser ListElement := fun _ t =>
  match t with
  | '<' :: cs =>
    match afterName? "list".toList cs with
    | some rest =>
      match rest.dropWhile (· != '>') with
      | _ :: inner =>
        (upToWithout? (afterClose? "list".toList) startsList inner).map fun (body, after) =>
          (⟨rest.takeWhile (· != '>'), body⟩, after)
      | [] => none
    | none => none
  | _ => none

/-- A list in Markdown, set off by blank lines. -/
def layOutList (e : ListElement) : Text :=
  let (header, items) := parseList e.body
  let rendered := renderList (listKind e.attributes) header items
  if rendered.isEmpty then "\n\n".toList else "\n\n".toList ++ rendered ++ "\n\n".toList

/-- One round of laying out lists: those that hold no other list. -/
def listRound (t : Text) : Text :=
  replace listElement layOutList t

/-- Lays out lists from the inside until none is left. -/
def layOutLists (t : Text) : Except NoResult Text :=
  atRest (fun t => .ok (listRound t)) t

/-! ## The whole -/

/-- The number of lines of spaces and tabs only that the text starts with, and what follows. -/
def blankLines (t : Text) : Nat × Text :=
  match _h : t.dropWhile isIndent with
  | '\n' :: rest => let (n, rest) := blankLines rest; (n + 1, rest)
  | _ => (0, t)
termination_by t.length
decreasing_by
  have := (List.dropWhile_sublist isIndent (l := t)).length_le
  simp only [_h, List.length_cons] at this
  omega

/-- A line feed with at least two blank lines after it. -/
def blankRun : Recogniser Unit := fun _ t =>
  match t with
  | '\n' :: cs =>
    match blankLines cs with
    | (_ + 2, rest) => some ((), rest)
    | _ => none
  | _ => none

/-- Runs of blank lines become one blank line. -/
def collapseBlankLines (t : Text) : Text :=
  replace blankRun (fun _ => "\n\n".toList) t

/-- Whether there is anything to convert: some text, with a tag or a fence in it. -/
def needsWork (t : Text) : Bool :=
  !isBlankText t && (t.contains '<' || hasPart "```".toList t)

/-- A converted note, and the references met on the way, also where the conversion fails. -/
structure Rendering where
  text : Except NoResult Text
  resolutions : List Resolution := []

/-- What is left of the text after code and references have been stashed. -/
def finish (s : Stash) (t : Text) : Except NoResult Text := do
  let t ← layOutLists (format t)
  s.restore (strip (collapseBlankLines (escapeAngles t)))

/-- Converts a text that has tags or fences. -/
def convert (resolver : Resolver) (t : Text) : Rendering :=
  let (t, s) := replaceWith codeRegion (stashCode resolver.config.codeLanguage) {}
    (dropTokenMarks t)
  let (t, p) := stashReferences resolver { stash := s } t
  let (t, s) := replaceWith codeSpan Stash.put p.stash t
  let (t, s) := replaceWith (element "c".toList) stashInline (.ok s) t
  ⟨s.bind (finish · t), p.resolutions⟩

/-- Converts a text. One without tags and fences stays as it is. -/
def render (resolver : Resolver) (t : Text) : Rendering :=
  if needsWork t then convert resolver t else ⟨.ok t, []⟩

end LinkedDocs.Markup
