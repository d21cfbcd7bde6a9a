import TriggerLatch.Decimal.Rounding

/-!
# Numbers of double precision

A `Binary64` is a natural number below `2^53` times a power of two from `2^-1074` to `2^971`.
`Binary64.ofRatio?` rounds a quotient to the nearest of them, halfway cases to the even mantissa;
what is too large for all of them has none.
-/

namespace TriggerLatch

/-- A number of double precision that is not negative: `mantissa · 2 ^ exponent`. -/
structure Binary64 where
  mantissa : Nat
  exponent : Int
  deriving DecidableEq, Repr

namespace Binary64

/-- The least exponent. -/
def minExponent : Int := -1074

/-- The greatest exponent. -/
def maxExponent : Int := 971

/-- Zero. -/
def zero : Binary64 := ⟨0, minExponent⟩

/-- The number as a quotient. -/
def toRatio (x : Binary64) : Nat × Nat :=
  if 0 ≤ x.exponent then (x.mantissa * Nat.pow 2 x.exponent.toNat, 1)
  else (x.mantissa, Nat.pow 2 (-x.exponent).toNat)

/-- The quotient `num / den / 2 ^ e`. -/
def scale (num den : Nat) (e : Int) : Nat × Nat :=
  if 0 ≤ e then (num, den * Nat.pow 2 e.toNat) else (num * Nat.pow 2 (-e).toNat, den)

/-- The exponent with which the mantissa of `num / den` has 53 bits, or the least exponent if it
is greater. -/
def exponentFor (num den : Nat) : Int :=
  let guess : Int := (num.log2 : Int) - den.log2
  let (n, d) := scale num den guess
  max minExponent (if d ≤ n then guess - 52 else guess - 53)

/-- The number nearest to `num / den`, unless that is too large. -/
def ofRatio? (num den : Nat) : Option Binary64 :=
  if num = 0 then some zero
  else
    let e := exponentFor num den
    let (n, d) := scale num den e
    let m := roundHalfEven n d
    let (m, e) := if m = Nat.pow 2 53 then (Nat.pow 2 52, e + 1) else (m, e)
    if maxExponent < e then none else some ⟨m, e⟩

/-- The sum of two numbers, rounded. -/
def add? (x y : Binary64) : Option Binary64 :=
  let (a, b) := x.toRatio
  let (c, d) := y.toRatio
  ofRatio? (a * d + c * b) (b * d)

end Binary64

end TriggerLatch
