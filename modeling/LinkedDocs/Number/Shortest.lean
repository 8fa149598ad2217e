import LinkedDocs.Number.Double
import LinkedDocs.Text.Basic

/-!
# The shortest decimal text of a number

A finite number is written with the fewest decimal digits that read back as the same number, the
nearest such digits if there are several. Texts with a leading digit between `10 ^ -4` and
`10 ^ 15` are positional, with at least one place after the point; others have an exponent of at
least two digits.
-/

namespace LinkedDocs.Double

/-- The size of the decimal `digits * 10 ^ exponent` as a quotient. -/
def decimalRatio (digits : Nat) (exponent : Int) : Nat × Nat :=
  (digits * Nat.pow 10 exponent.toNat, Nat.pow 10 (-exponent).toNat)

/-- Whether the decimal reads back as the number `m * 2 ^ e`. -/
def readsBack (m : Nat) (e : Int) (digits : Nat) (exponent : Int) : Bool :=
  let (num, den) := decimalRatio digits exponent
  ofRatio false num den == .finite false m e

/-- The exponent of the leading decimal digit of `num / den`, found upwards from below. -/
def leadingExponent (num den : Nat) : Int :=
  let low : Int := ((num.log2 : Int) - den.log2 - 1) * 3 / 10 - 2
  let candidates := (List.range 12).map fun (k : Nat) => low + k
  (candidates.filter fun x =>
    let (n, d) := decimalRatio 1 x
    n * den ≤ num * d).getLastD low

/-- The neighbour of `num / den` on the grid of `10 ^ exponent` that reads back, the nearer one if
both do, and of two equally near ones the even one. -/
def onGrid? (m : Nat) (e : Int) (num den : Nat) (exponent : Int) : Option Nat :=
  let (n, d) := (num * Nat.pow 10 (-exponent).toNat, den * Nat.pow 10 exponent.toNat)
  let below := n / d
  let above := below + 1
  let r := n % d
  match below != 0 && readsBack m e below exponent, readsBack m e above exponent with
  | true, true =>
    if 2 * r < d ∨ (2 * r = d ∧ below % 2 = 0) then some below else some above
  | true, false => some below
  | false, true => some above
  | false, false => none

/-- The digits of the shortest decimal that reads back, and the exponent of its last digit. -/
def shortest (m : Nat) (e : Int) : Nat × Int :=
  let (num, den) := ratio m e
  let lead := leadingExponent num den
  match (List.range 17).findSome? fun (k : Nat) =>
      let exponent := lead - k
      (onGrid? m e num den exponent).map (·, exponent) with
  | some found => found
  | none => (num / den, 0)

/-- Digits without trailing zeros, and the exponent of the last digit left. -/
def dropZeros : (fuel : Nat) → Nat → Int → Nat × Int
  | 0, digits, exponent => (digits, exponent)
  | fuel + 1, digits, exponent =>
    if digits % 10 = 0 ∧ digits ≠ 0 then dropZeros fuel (digits / 10) (exponent + 1)
    else (digits, exponent)

/-- The text of a decimal whose last digit has the given exponent. -/
def layout (digits : Text) (exponent : Int) : Text :=
  let lead : Int := exponent + digits.length - 1
  if -4 ≤ lead ∧ lead ≤ 15 then
    if lead < 0 then "0.".toList ++ List.replicate (-lead - 1).toNat '0' ++ digits
    else
      let whole := digits ++ List.replicate exponent.toNat '0'
      let (left, right) := whole.splitAt (lead.toNat + 1)
      left ++ '.' :: (if right = [] then ['0'] else right)
  else
    let mark := if lead < 0 then "e-".toList else "e+".toList
    let size := Text.ofNat lead.natAbs
    let padded := if size.length < 2 then '0' :: size else size
    let mantissa := match digits with
      | d :: more@(_ :: _) => d :: '.' :: more
      | single => single
    mantissa ++ mark ++ padded

/-- The shortest text of a number. -/
def text : Double → Text
  | .nan => "nan".toList
  | .infinite negative => (if negative then "-inf" else "inf").toList
  | .finite negative m e =>
    let size := if m = 0 then "0.0".toList else
      let (digits, exponent) := shortest m e
      let (digits, exponent) := dropZeros 20 digits exponent
      layout (Text.ofNat digits) exponent
    if negative then '-' :: size else size

end LinkedDocs.Double
