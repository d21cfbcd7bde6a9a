import TriggerLatch.Text.Radix

/-!
# Hexadecimal numbers

Natural numbers are written in lower-case hexadecimal; reading takes digits of either case.
-/

namespace TriggerLatch

namespace Hex

/-- What a digit of either case is worth. -/
def digitValue? (c : Char) : Option Nat :=
  let n := c.toNat
  if 48 ≤ n ∧ n ≤ 57 then some (n - 48)
  else if 97 ≤ n ∧ n ≤ 102 then some (n - 87)
  else if 65 ≤ n ∧ n ≤ 70 then some (n - 55)
  else none

/-- The lower-case digit for a number below sixteen. -/
def lowerDigit (n : Nat) : Char := if n < 10 then Char.ofNat (48 + n) else Char.ofNat (87 + n)

theorem digitValue?_lowerDigit {n : Nat} (h : n < 16) : digitValue? (lowerDigit n) = some n := by
  have hall : ∀ n < 16, digitValue? (lowerDigit n) = some n := by decide
  exact hall n h

theorem isBlank_of_digitValue? {c : Char} (h : (digitValue? c).isSome = true) :
    isBlank c = false := by
  have hrange : 48 ≤ c.toNat ∧ c.toNat ≤ 102 := by
    simp only [digitValue?] at h
    split at h
    · omega
    · split at h
      · omega
      · split at h
        · omega
        · cases h
  simp [isBlank]
  omega

end Hex

/-- Base sixteen. -/
def Hex : Radix where
  base := 16
  digitChar := Hex.lowerDigit
  isDigit c := (Hex.digitValue? c).isSome
  digitValue c := (Hex.digitValue? c).getD 0
  one_lt_base := by decide
  isDigit_digitChar h := by rw [Hex.digitValue?_lowerDigit h]; rfl
  digitValue_digitChar h := by rw [Hex.digitValue?_lowerDigit h]; rfl
  isBlank_of_isDigit := Hex.isBlank_of_digitValue?

end TriggerLatch
