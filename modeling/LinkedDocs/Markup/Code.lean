import LinkedDocs.Markup.Fence
import LinkedDocs.Markup.Tag
import LinkedDocs.Text.Word
import LinkedDocs.Text.Case

/-!
# Code

What a code element holds: an optional CDATA section around lines of code, of which the blank
lines at both ends and the indentation that all lines share are dropped.
-/

namespace LinkedDocs.Markup

open Text

/-- What follows blanks and the start of a CDATA section. -/
def afterCdataOpen? (code : Text) : Option Text :=
  dropLead? "<![CDATA[".toList (stripLeft code)

/-- The text before the end of a CDATA section that has only blanks after it. -/
def beforeCdataClose? (code : Text) : Option Text :=
  (dropLead? ">]]".toList (stripLeft code.reverse)).map List.reverse

/-- The code without a CDATA section around it. -/
def stripCdata (code : Text) : Text :=
  ((afterCdataOpen? code).bind beforeCdataClose?).getD code

/-- The lines of the code without blank lines at either end. -/
def trimmedLines (code : Text) : List Text :=
  let lines := (splitOn '\n' (unifyLineEnds code)).dropWhile isBlankText
  (lines.reverse.dropWhile isBlankText).reverse

/-- The spaces and tabs that a line starts with. -/
def indentation (line : Text) : Text :=
  line.takeWhile isIndent

/-- The longest text with which both start. -/
def commonLead : Text → Text → Text
  | c :: cs, d :: ds => if c = d then c :: commonLead cs ds else []
  | _, _ => []

/-- The indentation that all lines share, lines of spaces and tabs apart. -/
def margin (lines : List Text) : Text :=
  match (lines.filter fun line => !line.all isIndent).map indentation with
  | [] => []
  | first :: more => more.foldl commonLead first

/-- A line without the margin; a line of spaces and tabs becomes empty. -/
def dedentLine (margin line : Text) : Text :=
  if line.all isIndent then [] else line.drop margin.length

/-- The lines without the indentation they share. -/
def dedentLines (lines : List Text) : List Text :=
  lines.map (dedentLine (margin lines))

/-- The code without blank lines at either end and without the indentation its lines share. -/
def dedent (code : Text) : Text :=
  join ['\n'] (dedentLines (trimmedLines code))

/-- A run of backticks. -/
def ticks : Recogniser Nat := fun _ t =>
  match tickRun t with
  | 0 => none
  | n => some (n, t.drop n)

/-- A run of backticks as it is written within code: one that would be a marker is escaped. -/
def writtenTicks (n : Nat) : Text :=
  if n = 3 then "\\`\\`\\`".toList else List.replicate n '`'

/-- The code with every run of exactly three backticks escaped. -/
def escapeFences (code : Text) : Text :=
  replace ticks writtenTicks code

/-- The text with its angle brackets written as entities. -/
def escapeAngles (t : Text) : Text :=
  t.flatMap fun c =>
    if c = '<' then "&lt;".toList else if c = '>' then "&gt;".toList else [c]

/-- A code element: its attributes and its content. -/
structure CodeElement where
  attributes : Text
  body : Text

/-- A code element, up to its first closing tag. -/
def codeElement : Recogniser CodeElement := fun _ t =>
  match t with
  | '<' :: cs =>
    match afterName? "code".toList cs with
    | some (c :: rest) =>
      if isBlank c || c = '>' then
        match (c :: rest).dropWhile (· != '>') with
        | _ :: inner =>
          (upTo? (afterClose? "code".toList) inner).map fun (body, after) =>
            (⟨(c :: rest).takeWhile (· != '>'), body⟩, after)
        | [] => none
      else none
    | _ => none
  | _ => none

/-- A quoted word, and what follows it. Either quote closes either. -/
def quotedWord? : Text → Option (Text × Text)
  | c :: cs =>
    let isQuote := fun d => d == '"' || d == '\''
    if isQuote c then
      match cs.dropWhile (!isQuote ·) with
      | _ :: rest => some (cs.takeWhile (!isQuote ·), rest)
      | [] => none
    else none
  | [] => none

/-- The value of a language attribute, which does not follow a word or a hyphen. -/
def languageAttribute : Recogniser Text := fun before t =>
  if before.any fun c => isWord c || c == '-' then none
  else
    ([ "language".toList, "lang".toList].findSome? fun name => afterAttributeName? name t).bind
      quotedWord?

/-- The language that a code element's attributes give, or nothing. -/
def languageOf (attributes : Text) : Text :=
  match firstFind? languageAttribute none attributes with
  | some (_, language, _) => strip language
  | none => []

/-- Whether a language asks for its code to be passed on as it is. -/
def isVerbatim (language : Text) : Bool :=
  lower language = "noescape".toList

end LinkedDocs.Markup
