import LinkedDocs.Text.Pieces

/-!
# Fences and code spans

A fence starts with a line that begins with three backticks and ends with the next line that is
three backticks with only spaces and tabs around them. A code span is text within one line between
two runs of equally many backticks.
-/

namespace LinkedDocs.Markup

open Text

/-- Spaces and tabs, which may indent a line. -/
def isIndent (c : Char) : Bool :=
  c == ' ' || c == '\t'

/-- A fenced block of code. -/
structure Fence where
  /-- The word directly after the opening backticks. -/
  language : Text
  /-- The text between the two markers. -/
  body : Text
  /-- The whole block as it stands. -/
  source : Text

/-- What follows three backticks after an indentation. -/
def afterMarker? (t : Text) : Option Text :=
  match t.dropWhile isIndent with
  | '`' :: '`' :: '`' :: rest => some rest
  | _ => none

/-- Whether a line closes a fence. -/
def isClosingLine (line : Text) : Bool :=
  match afterMarker? line with
  | some rest => rest.all isIndent
  | none => false

/-- The lines from a line start up to the first closing line, and the text from the end of that
line on. -/
def linesToClosing? (t : Text) : Option (List Text × Text) :=
  let line := t.takeWhile (· != '\n')
  if isClosingLine line then some ([], t.dropWhile (· != '\n'))
  else
    match _h : t.dropWhile (· != '\n') with
    | [] => none
    | _ :: next => (linesToClosing? next).map fun (lines, after) => (line :: lines, after)
termination_by t.length
decreasing_by
  have := (List.dropWhile_sublist (· != '\n') (l := t)).length_le
  simp only [_h, List.length_cons] at this
  omega

/-- A fence, which must begin at a line start. -/
def fence : Recogniser Fence := fun before t =>
  if before = none || before = some '\n' then
    match afterMarker? t with
    | none => none
    | some rest =>
      match rest.dropWhile (· != '\n') with
      | [] => none
      | _ :: inner =>
        (linesToClosing? inner).map fun (lines, after) =>
          (⟨rest.takeWhile (fun c => !isBlank c && c != '`'), join ['\n'] lines,
            t.take (t.length - after.length)⟩, after)
  else none

/-- The number of backticks that the text starts with. -/
def tickRun (t : Text) : Nat :=
  (t.takeWhile (· == '`')).length

/-- The text up to the first run of exactly `n` backticks within the line, and what follows that
run. `inRun` says that the character before is a backtick. -/
def upToRun? (n : Nat) (inRun : Bool) : Text → Option (Text × Text)
  | [] => none
  | c :: cs =>
    if c = '\n' then none
    else if c = '`' && !inRun && tickRun (c :: cs) = n then some ([], (c :: cs).drop n)
    else (upToRun? n (c == '`') cs).map fun (body, rest) => (c :: body, rest)

/-- A code span as it stands, backticks included. -/
def codeSpan : Recogniser Text := fun before t =>
  let n := tickRun t
  if n = 0 || before = some '`' then none
  else
    match upToRun? n true (t.drop n) with
    | some (_, rest) => some (t.take (t.length - rest.length), rest)
    | none => none

end LinkedDocs.Markup
