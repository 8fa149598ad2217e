import LinkedDocs.Fault
import LinkedDocs.Text.Intake
import LinkedDocs.Yaml.Source

/-!
# The supply of a text

A YAML text is read from its beginning, and something in it may make it impossible to read on. Such an
obstacle counts only when it is met: if a rule of the format has been broken before, that is the
problem with the text.

A text that is at hand is looked through for characters that may not occur before it is read. A file
is looked through batch by batch, as it is read.
-/

namespace LinkedDocs.Yaml

/-- Why a text describes no value. -/
inductive Problem where
  /-- The text breaks the rules of the format. -/
  | malformed
  /-- A part of the text has no value. -/
  | faulty (fault : Fault)

/-- Something at which a text cannot be read on. -/
inductive Obstacle where
  /-- A code that no character has. -/
  | outsized (code : Nat)
  /-- A number with too many digits. -/
  | tooLong (digits : Nat)
  /-- A character that may not occur. -/
  | forbidden
  /-- Bytes that are no text. -/
  | undecodable (flaw : Utf8.Flaw)
deriving DecidableEq

/-- The problem with a text in which the obstacle is met. -/
def Obstacle.problem : Obstacle → Problem
  | .outsized code => .faulty (if code < 0x80000000 then .badCode else .hugeCode)
  | .tooLong digits => .faulty (.longInteger digits)
  | .forbidden => .malformed
  | .undecodable flaw => .faulty flaw.fault

/-- What can be read of a text, and the obstacle after it. -/
structure Supply where
  text : Text
  obstacle : Option Obstacle := none

namespace Supply

/-- The supply of a text that is at hand. -/
def ofText (t : Text) : Supply :=
  if t.all isAllowed then { text := t } else { text := [], obstacle := some .forbidden }

/-- The supply of a file that is read batch by batch. -/
def ofBytes (bytes : List UInt8) : Supply :=
  let (t, flaw) := Utf8.readable bytes
  match t.findIdx? (!isAllowed ·) with
  | some place => { text := t.take (Utf8.Intake.startOf place), obstacle := some .forbidden }
  | none => { text := t, obstacle := flaw.map .undecodable }

/-- The source of a supply. An end mark stands for the obstacle. -/
def source (s : Supply) : Source :=
  Source.ofText (if s.obstacle.isSome then s.text ++ [endMark] else s.text)

end Supply

end LinkedDocs.Yaml
