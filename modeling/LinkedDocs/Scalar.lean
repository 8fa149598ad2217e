import LinkedDocs.Calendar
import LinkedDocs.Number.Shortest
import LinkedDocs.Text.Quoted

/-!
# Scalars

Values without parts. A scalar can identify an entity or be the key of a map; two scalars are the
same key if they are equal as numbers, or as texts, or as dates.
-/

namespace LinkedDocs

/-- A value without parts. -/
inductive Scalar where
  | null
  | bool (b : Bool)
  | int (n : Int)
  | double (x : Double)
  | text (t : Text)
  | date (d : Date)
  | moment (m : Moment)
  | bytes (bs : List UInt8)
deriving DecidableEq, Repr

namespace Scalar

/-- What two scalars are compared by. A finite number is an odd integer times a power of two. -/
inductive Key where
  | null
  | number (odd : Int) (exponent : Int)
  | infinite (negative : Bool)
  | nan
  | text (t : Text)
  | date (d : Date)
  | moment (isLocal : Bool) (microseconds : Int)
  | bytes (bs : List UInt8)
deriving DecidableEq, Repr

/-- Moves factors of two from the mantissa to the exponent. -/
def halve : (fuel : Nat) → Nat → Int → Nat × Int
  | 0, m, e => (m, e)
  | fuel + 1, m, e => if m % 2 = 0 then halve fuel (m / 2) (e + 1) else (m, e)

/-- The key of the number `m * 2 ^ e`. -/
def numberKey (negative : Bool) (m : Nat) (e : Int) : Key :=
  if m = 0 then .number 0 0
  else
    let (odd, e) := halve m.log2 m e
    .number (if negative then -odd else odd) e

def key : Scalar → Key
  | .null => .null
  | .bool b => if b then .number 1 0 else .number 0 0
  | .int n => numberKey (n < 0) n.natAbs 0
  | .double .nan => .nan
  | .double (.infinite negative) => .infinite negative
  | .double (.finite negative m e) => numberKey negative m e
  | .text t => .text t
  | .date d => .date d
  | .moment m => .moment m.offset.isNone m.microseconds
  | .bytes bs => .bytes bs

/-- Whether two scalars are the same key. -/
def same (a b : Scalar) : Bool :=
  a.key = b.key

@[simp] theorem same_self (s : Scalar) : s.same s = true := by
  simp [same]

theorem same_comm (a b : Scalar) : a.same b = b.same a := by
  simp [same, eq_comm]

theorem same_trans {a b c : Scalar} (hab : a.same b = true) (hbc : b.same c = true) :
    a.same c = true := by
  simp only [same, decide_eq_true_eq] at *
  exact hab.trans hbc

/-- Whether the scalar counts as given: null, false, zero and everything empty do not. -/
def holds : Scalar → Bool
  | .null => false
  | .bool b => b
  | .int n => n ≠ 0
  | .double x => !x.isZero
  | .text t => !t.isEmpty
  | .date _ => true
  | .moment _ => true
  | .bytes bs => !bs.isEmpty

/-- The name of the scalar's type, as messages give it. -/
def typeName : Scalar → Text
  | .null => "NoneType".toList
  | .bool _ => "bool".toList
  | .int _ => "int".toList
  | .double _ => "float".toList
  | .text _ => "str".toList
  | .date _ => "datetime.date".toList
  | .moment _ => "datetime.datetime".toList
  | .bytes _ => "bytes".toList

/-- The most digits with which an integer is shown. -/
def maxShownDigits : Nat := 4300

/-- Whether the scalar can be shown: an integer must not have too many digits. -/
def isShowable : Scalar → Bool
  | .int n => n.natAbs < Nat.pow 10 maxShownDigits
  | _ => true

/-- Bytes as they are shown: those that are printable ASCII as characters, the others in base
sixteen. -/
def inspectBytes (bs : List UInt8) : Text :=
  let chars := bs.map fun b => Char.ofNat b.toNat
  let quote := Text.quoteFor chars
  let escape := fun c =>
    if c.toNat < 0x7f then Text.escapeChar quote c else "\\x".toList ++ Text.hex 2 c.toNat
  'b' :: quote :: chars.flatMap escape ++ [quote]

/-- The scalar as it is shown within a list or a map. -/
def inspect : Scalar → Text
  | .null => "None".toList
  | .bool b => (if b then "True" else "False").toList
  | .int n => Text.ofInt n
  | .double x => x.text
  | .text t => t.quoted
  | .date d =>
    "datetime.date(".toList ++ Text.ofNat d.year ++ ", ".toList ++ Text.ofNat d.month ++
      ", ".toList ++ Text.ofNat d.day ++ ")".toList
  | .moment m => m.inspect
  | .bytes bs => inspectBytes bs

/-- The scalar as text. -/
def toText : Scalar → Text
  | .text t => t
  | .date d => d.text
  | .moment m => m.text
  | other => other.inspect

end Scalar

end LinkedDocs
