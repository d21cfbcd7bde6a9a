import TriggerLatch.Text.Blank

/-!
# Numbers in a base

A `Radix` is a base with its digits.  `Radix.digits` writes a natural number without leading zeros,
`Radix.value` is what a row of digits is worth, and the two fit (`Radix.value_digits`).
-/

namespace TriggerLatch

/-- A base and its digits.  There may be more than one digit for a number; `digitChar` is the one
that is written. -/
structure Radix where
  base : Nat
  digitChar : Nat → Char
  isDigit : Char → Bool
  /-- What a digit is worth. -/
  digitValue : Char → Nat
  one_lt_base : 1 < base
  isDigit_digitChar {n : Nat} (h : n < base) : isDigit (digitChar n) = true
  digitValue_digitChar {n : Nat} (h : n < base) : digitValue (digitChar n) = n
  isBlank_of_isDigit {c : Char} (h : isDigit c = true) : isBlank c = false

namespace Radix

variable (r : Radix)

/-- The number with the digits of the base, without leading zeros. -/
def digits (n : Nat) : Text :=
  if n < r.base then [r.digitChar n] else digits (n / r.base) ++ [r.digitChar (n % r.base)]
termination_by n
decreasing_by
  have hbase := r.one_lt_base
  exact Nat.div_lt_self (by omega) hbase

/-- Digits behind the number `acc`. -/
def valueFrom (acc : Nat) (s : Text) : Nat :=
  s.foldl (fun n c => r.base * n + r.digitValue c) acc

/-- What a row of digits is worth. -/
def value (s : Text) : Nat := r.valueFrom 0 s

@[simp] theorem valueFrom_nil (acc : Nat) : r.valueFrom acc [] = acc := rfl

@[simp] theorem valueFrom_cons (acc : Nat) (c : Char) (s : Text) :
    r.valueFrom acc (c :: s) = r.valueFrom (r.base * acc + r.digitValue c) s := rfl

theorem mod_lt_base (n : Nat) : n % r.base < r.base :=
  Nat.mod_lt n (Nat.lt_trans Nat.one_pos r.one_lt_base)

theorem isDigit_of_mem_digits (n : Nat) : ∀ c ∈ r.digits n, r.isDigit c = true := by
  fun_induction r.digits n with
  | case1 n h => simpa using r.isDigit_digitChar h
  | case2 n h ih =>
    intro c hc
    rcases List.mem_append.1 hc with hc | hc
    · exact ih c hc
    · rw [List.mem_singleton.1 hc]
      exact r.isDigit_digitChar (r.mod_lt_base n)

theorem isBlank_of_mem_digits (n : Nat) : ∀ c ∈ r.digits n, isBlank c = false :=
  fun c hc => r.isBlank_of_isDigit (r.isDigit_of_mem_digits n c hc)

theorem digits_ne_nil (n : Nat) : r.digits n ≠ [] := by
  rw [digits]
  split <;> simp

theorem length_digits_le {n k : Nat} (hk : 0 < k) (h : n < Nat.pow r.base k) :
    (r.digits n).length ≤ k := by
  induction k generalizing n with
  | zero => omega
  | succ k ih =>
    rw [digits]
    split
    · simp
    · next hn =>
      have hk' : 0 < k := by
        rcases Nat.eq_zero_or_pos k with rfl | hk'
        · exact absurd (Nat.pow_one r.base ▸ h) hn
        · exact hk'
      have hq : n / r.base < Nat.pow r.base k :=
        Nat.div_lt_of_lt_mul (by rw [Nat.mul_comm]; exact h)
      have hlength := ih hk' hq
      simp only [List.length_append, List.length_singleton]
      omega

theorem valueFrom_append (acc : Nat) (s t : Text) :
    r.valueFrom acc (s ++ t) = r.valueFrom (r.valueFrom acc s) t := List.foldl_append ..

/-- **The digits of a number are worth that number.** -/
theorem value_digits (n : Nat) : r.value (r.digits n) = n := by
  fun_induction r.digits n with
  | case1 n h => simp [value, r.digitValue_digitChar h]
  | case2 n h ih =>
    rw [value, valueFrom_append, ← value, ih, valueFrom_cons, valueFrom_nil,
      r.digitValue_digitChar (r.mod_lt_base n), Nat.div_add_mod]

theorem le_valueFrom (acc : Nat) (s : Text) : acc ≤ r.valueFrom acc s := by
  induction s generalizing acc with
  | nil => exact Nat.le_refl acc
  | cons c s ih =>
    calc acc
      _ ≤ r.base * acc := Nat.le_mul_of_pos_left acc (Nat.lt_trans Nat.one_pos r.one_lt_base)
      _ ≤ r.base * acc + r.digitValue c := Nat.le_add_right _ _
      _ ≤ r.valueFrom acc (c :: s) := ih _

end Radix

end TriggerLatch
