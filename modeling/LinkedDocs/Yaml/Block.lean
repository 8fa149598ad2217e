import LinkedDocs.Yaml.Source

/-!
# Block scalars

A block scalar consists of the lines below its indicator that are indented further than the
collection it stands in. A literal one keeps its line breaks, a folded one joins lines that start
with a character that is no blank. Trailing line breaks are kept, dropped, or reduced to one.
-/

namespace LinkedDocs.Yaml.Block

/-- What becomes of the line breaks at the end. -/
inductive Chomping where
  | clip | strip | keep
deriving DecidableEq

/-- What stands after the indicator of a block scalar. -/
structure Header where
  chomping : Chomping := .clip
  /-- By how much the lines are indented, if that is said. -/
  increment : Option Nat := none

/-- The chomping that a character asks for. -/
def chomping? : Char → Option Chomping
  | '+' => some .keep
  | '-' => some .strip
  | _ => none

/-- The increment that a digit asks for. -/
def increment? (c : Char) : Option Nat :=
  if '0' ≤ c ∧ c ≤ '9' then some (c.toNat - '0'.toNat) else none

/-- Chomping and increment in either order, each at most once. -/
def indicators (s : Source) : Header × Source :=
  match s with
  | [] => ({}, s)
  | (c, _) :: rest =>
    match chomping? c, increment? c with
    | some chomping, _ =>
      match rest with
      | [] => ({ chomping }, rest)
      | (d, _) :: rest' =>
        match increment? d with
        | some n => ({ chomping, increment := some n }, rest')
        | none => ({ chomping }, rest)
    | none, some n =>
      match rest with
      | [] => ({ increment := some n }, rest)
      | (d, _) :: rest' =>
        match chomping? d with
        | some chomping => ({ chomping, increment := some n }, rest')
        | none => ({ increment := some n }, rest)
    | none, none => ({}, s)

/-- The header of a block scalar and the source from the next line on. -/
def header? (s : Source) : Option (Header × Source) :=
  let (header, rest) := indicators s
  if header.increment = some 0 then none
  else if rest.endsOr fun c => c = ' ' || isBreak c then
    rest.afterBlankLine?.map fun rest => (header, rest)
  else none

/-- The line breaks of the empty lines that come next, and the source from the first other line on,
without its indentation. -/
def blankLines (indent : Nat) : Source → Text × Source
  | [] => ([], [])
  | (c, p) :: rest =>
    if c = ' ' ∧ p.column < indent then blankLines indent rest
    else if isBreak c then
      let (breaks, after) := blankLines indent rest
      (breakText c ++ breaks, after)
    else ([], (c, p) :: rest)

/-- Going over empty lines leaves no more than there was. -/
theorem blankLines_length_le (indent : Nat) (s : Source) :
    (blankLines indent s).2.length ≤ s.length := by
  induction s with
  | nil => simp [blankLines]
  | cons x s ih =>
    obtain ⟨c, p⟩ := x
    rw [blankLines]
    split
    · exact Nat.le_succ_of_le ih
    · split
      · exact Nat.le_succ_of_le ih
      · exact Nat.le_refl _

/-- The indentation of the first line that is not empty, or of an empty line that has more. -/
def leadingIndent (s : Source) : Nat :=
  let lead := s.takeWhile fun (c, _) => c = ' ' || isBreak c
  lead.foldl (fun most (c, p) => if c = ' ' then max most (p.column + 1) else most) 0

/-- A line with the breaks of the empty lines before it and its own. -/
structure Line where
  before : Text
  text : Text
  ending : Text

/-- The lines of a scalar, the breaks of the empty lines after the last one, and the source after
them. -/
def lines (indent : Nat) (s : Source) : List Line × Text × Source :=
  match _h : (blankLines indent s).2 with
  | [] => ([], (blankLines indent s).1, [])
  | (c, p) :: rest =>
    let before := (blankLines indent s).1
    if p.column = indent then
      let text := c :: Source.text (rest.takeWhile fun (d, _) => !isBreak d)
      match _h' : Source.skipLine rest with
      | [] => ([⟨before, text, []⟩], [], [])
      | (b, _) :: next =>
        let (more, trailing, after) := lines indent next
        (⟨before, text, breakText b⟩ :: more, trailing, after)
    else ([], before, (c, p) :: rest)
termination_by s.length
decreasing_by
  have h₁ := blankLines_length_le indent s
  rw [_h] at h₁
  have h₂ := (List.dropWhile_sublist (fun (x : Char × Place) => !isBreak x.1) (l := rest)).length_le
  have h₃ : (rest.dropWhile fun (x : Char × Place) => !isBreak x.1) = (b, _) :: next := _h'
  rw [h₃] at h₂
  simp only [List.length_cons] at h₁ h₂
  omega

/-- Whether a line starts with a blank or a tab. -/
def startsBlank : Text → Bool
  | c :: _ => c = ' ' || c = '\t'
  | [] => false

/-- What stands between two lines. -/
def glue (folded : Bool) (a b : Line) : Text :=
  if folded ∧ a.ending = ['\n'] ∧ !startsBlank a.text ∧ !startsBlank b.text then
    if b.before.isEmpty then [' '] else []
  else a.ending

/-- The lines with what stands between them, without the break of the last one. -/
def joined (folded : Bool) : List Line → Text
  | [] => []
  | [a] => a.before ++ a.text
  | a :: b :: rest => a.before ++ a.text ++ glue folded a b ++ joined folded (b :: rest)

/-- The break of the last line. -/
def lastEnding (ls : List Line) : Text :=
  (ls.getLast?.map (·.ending)).getD []

/-- The scalar after its indicator, and the source after it. `indent` is the column of the collection
that the scalar stands in. -/
def scalar? (folded : Bool) (indent : Int) (s : Source) : Option (Text × Source) :=
  (header? s).map fun (header, s) =>
    let least := (max (indent + 1) 1).toNat
    let indent := match header.increment with
      | some n => least + n - 1
      | none => max least (leadingIndent s)
    let (ls, trailing, rest) := lines indent s
    let tail := match header.chomping with
      | .strip => []
      | .clip => lastEnding ls
      | .keep => lastEnding ls ++ trailing
    (joined folded ls ++ tail, rest)

end LinkedDocs.Yaml.Block
