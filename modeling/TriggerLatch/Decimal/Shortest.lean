import TriggerLatch.Decimal.Binary64
import TriggerLatch.Decimal.Natural

/-!
# The shortest decimal of a number

Of all decimals that are rounded to a given number of double precision, `Binary64.shortest` chooses
the one with the fewest digits, and of those the nearest.  For each number of digits it suffices to
look at the two neighbours of the number on that decimal grid.  `Binary64.display` writes the choice
without an exponent.
-/

namespace TriggerLatch

/-- A decimal: `digits · 10 ^ power`. -/
structure Decimal.Scaled where
  digits : Nat
  power : Int
  deriving DecidableEq, Repr

namespace Decimal.Scaled

/-- The decimal as a quotient. -/
def toRatio (x : Scaled) : Nat × Nat :=
  if 0 ≤ x.power then (x.digits * Nat.pow 10 x.power.toNat, 1)
  else (x.digits, Nat.pow 10 (-x.power).toNat)

/-- Written without an exponent; a point stands only where digits follow it. -/
def display (x : Scaled) : Text :=
  if 0 ≤ x.power then Decimal.digits (x.digits * Nat.pow 10 x.power.toNat)
  else
    let places := (-x.power).toNat
    let whole := x.digits / Nat.pow 10 places
    let rest := x.digits % Nat.pow 10 places
    Decimal.digits whole ++ '.' :: Decimal.padded places rest

end Decimal.Scaled

namespace Binary64

/-- The decimal is rounded to `x`: it lies between the midpoints to the neighbours of `x`, or on
one of them if the mantissa is even. -/
def absorbs (x : Binary64) (s : Decimal.Scaled) : Bool :=
  let (n, d) := s.toRatio
  let (low, e) : Nat × Int :=
    if x.mantissa = Nat.pow 2 52 ∧ minExponent < x.exponent then
      (4 * x.mantissa - 1, x.exponent - 2)
    else (4 * x.mantissa - 2, x.exponent - 2)
  let (a, b) := scale n d e
  let high := 4 * x.mantissa + 2
  if x.mantissa % 2 = 0 then low * b ≤ a && a ≤ high * b else low * b < a && a < high * b

/-- The two neighbours of `x` on the grid of the multiples of `10 ^ power`, nearest first, and of
two that are equally near the greater. -/
def neighbours (x : Binary64) (power : Int) : List Decimal.Scaled :=
  let (n, d) := x.toRatio
  let (n, d) := if 0 ≤ power then (n, d * Nat.pow 10 power.toNat)
    else (n * Nat.pow 10 (-power).toNat, d)
  let below := n / d
  if 2 * (n % d) < d then [⟨below, power⟩, ⟨below + 1, power⟩]
  else [⟨below + 1, power⟩, ⟨below, power⟩]

/-- The first decimal that is rounded to `x`, on grids from `10 ^ power` on, each ten times finer
than the one before; at most `fuel` grids are tried. -/
def shortestFrom (x : Binary64) : (fuel : Nat) → (power : Int) → Decimal.Scaled
  | 0, power => ⟨0, power⟩
  | fuel + 1, power =>
    match (x.neighbours power).find? fun s => s.digits != 0 && x.absorbs s with
    | some s => s
    | none => shortestFrom x fuel (power - 1)

/-- The least power of ten above the number, or a little more. -/
def powerAbove (x : Binary64) : Int :=
  let (n, d) := x.toRatio
  if d ≤ n then ((Decimal.digits (n / d)).length : Int)
  else 1 - ((Decimal.digits (d / n)).length : Int) + 1

/-- The shortest decimal that is rounded to `x`; seventeen digits always suffice. -/
def shortest (x : Binary64) : Decimal.Scaled :=
  if x.mantissa = 0 then ⟨0, 0⟩ else shortestFrom x 20 x.powerAbove

/-- The shortest decimal, written without an exponent. -/
def display (x : Binary64) : Text := x.shortest.display

/-- The number with two places behind the point, a half rounded to the even neighbour. -/
def displayTwoPlaces (x : Binary64) : Text :=
  let (n, d) := x.toRatio
  let hundredths := roundHalfEven (n * 100) d
  Decimal.digits (hundredths / 100) ++ '.' :: Decimal.padded 2 (hundredths % 100)

end Binary64

end TriggerLatch
