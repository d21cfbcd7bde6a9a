import TriggerLatch.Decimal.Binary64
import TriggerLatch.Decimal.Natural

/-!
# Numbers as they are typed

A typed number has an optional sign, digits with a point somewhere among them or none, and an
optional power of ten; or it is one of the words for infinity and for no number.
`Decimal.Literal.read` says what it denotes among the numbers of double precision.
-/

namespace TriggerLatch.Decimal

/-- The number `digits · 10 ^ power`, with a sign. -/
structure Literal where
  negative : Bool
  digits : Nat
  power : Int
  deriving DecidableEq, Repr

/-- What a typed number denotes. -/
inductive Literal.Value where
  | finite (negative : Bool) (magnitude : Binary64)
  | infinite (negative : Bool)
  | notANumber
  deriving DecidableEq, Repr

namespace Literal

/-- What can be wrong with a typed number. -/
inductive ReadError where
  | empty
  | malformed
  deriving DecidableEq, Repr

/-- The text that reports it. -/
def ReadError.message : ReadError → String
  | empty => "cannot parse float from empty string"
  | malformed => "invalid float literal"

/-- A sign in front, if there is one: whether it is a minus, and the rest. -/
def splitSign : Text → Bool × Text
  | '+' :: r => (false, r)
  | '-' :: r => (true, r)
  | s => (false, s)

/-- The digits in front, and the rest. -/
def splitDigits (s : Text) : Text × Text :=
  (s.takeWhile Decimal.isDigit, s.dropWhile Decimal.isDigit)

/-- The digits behind a point, and the rest. -/
def splitFraction : Text → Text × Text
  | '.' :: r => splitDigits r
  | s => ([], s)

/-- The character announces a power of ten. -/
def isExponentMark (c : Char) : Bool := c == 'e' || c == 'E'

/-- The power of ten that a text is; nothing stands for a power of zero. -/
def power? : Text → Option Int
  | [] => some 0
  | c :: r =>
    let (negative, s) := splitSign r
    if isExponentMark c && s != [] && s.all Decimal.isDigit then
      some (if negative then -(Decimal.value s : Int) else Decimal.value s)
    else none

/-- A typed number without its sign. -/
def unsigned? (negative : Bool) (s : Text) : Option Literal := do
  let (whole, r) := splitDigits s
  let (fraction, r) := splitFraction r
  if whole = [] ∧ fraction = [] then none
  else
    let power ← power? r
    some ⟨negative, Decimal.value (whole ++ fraction), power - fraction.length⟩

/-- The words for infinity. -/
def infinityWords : List Text := ["inf".toList, "infinity".toList]

/-- The word for no number. -/
def nanWord : Text := "nan".toList

/-- What a word denotes; capital letters count as small ones. -/
def word? (negative : Bool) (s : Text) : Option Value :=
  let s := s.map Char.toLower
  if s ∈ infinityWords then some (.infinite negative)
  else if s = nanWord then some .notANumber
  else none

/-- Numbers from this power of ten on are too large for double precision. -/
def overflowPower : Int := 310

/-- Numbers below this power of ten are rounded to zero. -/
def underflowPower : Int := -330

/-- The number of double precision nearest to a literal.  One far out of range is not written out
before it is rounded. -/
def toValue (x : Literal) : Value :=
  let top : Int := (Decimal.digits x.digits).length + x.power
  if x.digits = 0 ∨ top < underflowPower then .finite x.negative .zero
  else if overflowPower < top then .infinite x.negative
  else
    let (n, d) :=
      if 0 ≤ x.power then (x.digits * Nat.pow 10 x.power.toNat, 1)
      else (x.digits, Nat.pow 10 (-x.power).toNat)
    match Binary64.ofRatio? n d with
    | some b => .finite x.negative b
    | none => .infinite x.negative

/-- **What a typed number denotes.** -/
def read (s : Text) : Except ReadError Value :=
  if s = [] then .error .empty
  else
    let (negative, r) := splitSign s
    match unsigned? negative r with
    | some x => .ok x.toValue
    | none =>
      match word? negative r with
      | some v => .ok v
      | none => .error .malformed

end Literal

end TriggerLatch.Decimal
