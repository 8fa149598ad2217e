/-!
# Double precision

Numbers of double precision as exact binary fractions. A quotient of natural numbers is rounded to
the nearest of them, a half to the even mantissa, in exact arithmetic.
-/

namespace LinkedDocs

/-- A number of double precision. A finite one is `mantissa * 2 ^ exponent`, up to its sign. -/
inductive Double where
  | nan
  | infinite (negative : Bool)
  | finite (negative : Bool) (mantissa : Nat) (exponent : Int)
deriving DecidableEq, Repr

namespace Double

/-- The least exponent, of the numbers next to zero. -/
def minExponent : Int := -1074

/-- The greatest exponent. -/
def maxExponent : Int := 971

def zero (negative : Bool) : Double :=
  .finite negative 0 minExponent

/-- `num / den` divided by `2 ^ exponent`, as a quotient. -/
def scale (num den : Nat) (exponent : Int) : Nat × Nat :=
  (num * Nat.pow 2 (-exponent).toNat, den * Nat.pow 2 exponent.toNat)

/-- The quotient rounded to an integer, a half to the even neighbour. -/
def roundHalfEven (num den : Nat) : Nat :=
  let q := num / den
  let r := num % den
  if den < 2 * r ∨ (2 * r = den ∧ q % 2 = 1) then q + 1 else q

/-- The exponent at which the quotient has 53 binary digits, or the least exponent. -/
def exponentFor (num den : Nat) : Int :=
  let guess : Int := (num.log2 : Int) - den.log2 - 52
  let (n, d) := scale num den guess
  max minExponent (if n < d * Nat.pow 2 52 then guess - 1 else guess)

/-- The number nearest to `num / den`. -/
def ofRatio (negative : Bool) (num den : Nat) : Double :=
  if num = 0 then zero negative
  else
    let e := exponentFor num den
    let (n, d) := scale num den e
    let m := roundHalfEven n d
    let (m, e) := if m = Nat.pow 2 53 then (Nat.pow 2 52, e + 1) else (m, e)
    if maxExponent < e then .infinite negative else .finite negative m e

/-- The number nearest to an integer. -/
def ofInt (n : Int) : Double :=
  ofRatio (n < 0) n.natAbs 1

/-- The size of a finite number as a quotient. -/
def ratio (mantissa : Nat) (exponent : Int) : Nat × Nat :=
  (mantissa * Nat.pow 2 exponent.toNat, Nat.pow 2 (-exponent).toNat)

/-- Whether the number is zero, of either sign. -/
def isZero : Double → Bool
  | .finite _ m _ => m = 0
  | _ => false

/-- Whether the number is at most zero. An undefined number is not. -/
def isAtMostZero : Double → Bool
  | .nan => false
  | .infinite negative => negative
  | .finite negative m _ => negative || m = 0

/-- The integer part of a finite number. -/
def truncate? : Double → Option Int
  | .finite negative m e =>
    let (num, den) := ratio m e
    some (if negative then -((num / den : Nat) : Int) else ((num / den : Nat) : Int))
  | _ => none

/-- The number with the other sign. -/
def neg : Double → Double
  | .nan => .nan
  | .infinite negative => .infinite !negative
  | .finite negative m e => .finite (!negative) m e

/-- Whether the number has a minus sign. -/
def isNegative : Double → Bool
  | .nan => false
  | .infinite negative => negative
  | .finite negative _ _ => negative

/-- The product, rounded. -/
def mul (a b : Double) : Double :=
  let negative := a.isNegative != b.isNegative
  match a, b with
  | .nan, _ => .nan
  | _, .nan => .nan
  | .finite _ m e, .finite _ m' e' =>
    let (num, den) := ratio m e
    let (num', den') := ratio m' e'
    ofRatio negative (num * num') (den * den')
  | a, b => if a.isZero || b.isZero then .nan else .infinite negative

/-- The sum, rounded. Two zeros of different signs add up to the positive one, and so do a number and
its opposite. -/
def add (a b : Double) : Double :=
  match a, b with
  | .nan, _ => .nan
  | _, .nan => .nan
  | .infinite s, .infinite s' => if s = s' then .infinite s else .nan
  | .infinite s, .finite .. => .infinite s
  | .finite .., .infinite s => .infinite s
  | .finite s m e, .finite s' m' e' =>
    let (num, den) := ratio m e
    let (num', den') := ratio m' e'
    if s = s' then ofRatio s (num * den' + num' * den) (den * den')
    else if num' * den < num * den' then ofRatio s (num * den' - num' * den) (den * den')
    else ofRatio (s' && num * den' < num' * den) (num' * den - num * den') (den * den')

end Double

end LinkedDocs
