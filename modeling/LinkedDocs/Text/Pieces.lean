import LinkedDocs.Text.Basic

/-!
# Cutting a text at the places a recogniser finds

A recogniser looks at one place of a text. `pieces` goes through a text from left to right and
cuts out everything a recogniser finds, each find ending before the next one is looked for;
replacing, collecting and searching are list functions on the pieces.
-/

namespace LinkedDocs.Text

/-- Looks at the character before a place and at the text from there on. Answers what stands at
the place and the text after it. -/
abbrev Recogniser (α : Type) := Option Char → Text → Option (α × Text)

/-- A cut text consists of single characters and of finds. -/
inductive Piece (α : Type) where
  | plain (c : Char)
  | found (a : α)

/-- The last character of `t` before its end part `rest`. -/
def lastBefore (t rest : Text) : Option Char :=
  (t.take (t.length - rest.length)).getLast?

/-- The text cut at its finds. A find that takes no character is passed over. -/
def pieces {α : Type} (m : Recogniser α) (before : Option Char) : Text → List (Piece α)
  | [] => []
  | c :: cs =>
    match m before (c :: cs) with
    | some (a, rest) =>
      if rest.length ≤ cs.length then
        .found a :: pieces m (lastBefore (c :: cs) rest) rest
      else .plain c :: pieces m (some c) cs
    | none => .plain c :: pieces m (some c) cs
termination_by t => t.length
decreasing_by all_goals simp only [List.length_cons]; omega

/-- Every find replaced by a text. -/
def replace {α : Type} (m : Recogniser α) (image : α → Text) (t : Text) : Text :=
  (pieces m none t).flatMap fun
    | .plain c => [c]
    | .found a => image a

/-- Every find replaced by a text, from left to right, with a state passed along. -/
def replaceWith {α σ : Type} (m : Recogniser α) (image : σ → α → Text × σ) (s : σ) (t : Text) :
    Text × σ :=
  let (parts, last) := (pieces m none t).foldl (fun (parts, s) piece =>
    match piece with
    | .plain c => ([c] :: parts, s)
    | .found a => let (part, s) := image s a; (part :: parts, s)) ([], s)
  (parts.reverse.flatten, last)

/-- The finds, from left to right. -/
def finds {α : Type} (m : Recogniser α) (t : Text) : List α :=
  (pieces m none t).filterMap fun
    | .plain _ => none
    | .found a => some a

/-- The first find, between the text before it and the text after it. -/
def firstFind? {α : Type} (m : Recogniser α) (before : Option Char := none) :
    Text → Option (Text × α × Text)
  | [] => none
  | c :: cs =>
    match m before (c :: cs) with
    | some (a, rest) => some ([], a, rest)
    | none => (firstFind? m (some c) cs).map fun (lead, a, rest) => (c :: lead, a, rest)

end LinkedDocs.Text
