import TriggerLatch.Text.Radix

/-!
# Natural numbers in decimal

`Decimal` is base ten.  `Decimal.read` reads a number up to a limit from left to right and reports
the first thing that is wrong; it reads back every number within the limit that is written
(`read_digits`).
-/

namespace TriggerLatch

/-- Base ten; the digits are `0` to `9`. -/
def Decimal : Radix where
  base := 10
  digitChar n := Char.ofNat (48 + n)
  isDigit c := 48 ≤ c.toNat && c.toNat ≤ 57
  digitValue c := c.toNat - 48
  one_lt_base := by decide
  isDigit_digitChar {n} h := (by decide : ∀ n < 10, (48 ≤ (Char.ofNat (48 + n)).toNat &&
    (Char.ofNat (48 + n)).toNat ≤ 57) = true) n h
  digitValue_digitChar {n} h := (by decide : ∀ n < 10, (Char.ofNat (48 + n)).toNat - 48 = n) n h
  isBlank_of_isDigit {c} h := by
    simp only [Bool.and_eq_true, decide_eq_true_eq] at h
    simp [isBlank]
    omega

namespace Decimal

@[simp] theorem base_eq : Decimal.base = 10 := rfl

theorem isDigit_iff {c : Char} : Decimal.isDigit c = true ↔ 48 ≤ c.toNat ∧ c.toNat ≤ 57 := by
  simp [Decimal]

/-- The number in decimal, with zeros in front where it has fewer than `width` digits. -/
def padded (width n : Nat) : Text :=
  let s := Decimal.digits n
  List.replicate (width - s.length) '0' ++ s

/-! ### Reading with a limit -/

/-- What can be wrong with a number. -/
inductive ReadError where
  | empty
  | invalidDigit
  | tooLarge
  deriving DecidableEq, Repr

/-- The text that reports a number that cannot be read. -/
def ReadError.message : ReadError → String
  | empty => "cannot parse integer from empty string"
  | invalidDigit => "invalid digit found in string"
  | tooLarge => "number too large to fit in target type"

/-- The digits of `s` behind the number `acc`, as long as the result does not exceed `limit`. -/
def readFrom (limit acc : Nat) : Text → Except ReadError Nat
  | [] => .ok acc
  | c :: r =>
    if Decimal.isDigit c then
      if limit < 10 * acc + Decimal.digitValue c then .error .tooLarge
      else readFrom limit (10 * acc + Decimal.digitValue c) r
    else .error .invalidDigit

/-- A number of at least one digit, with an optional plus sign in front. -/
def read (limit : Nat) : Text → Except ReadError Nat
  | [] => .error .empty
  | ['+'] => .error .invalidDigit
  | '+' :: r => readFrom limit 0 r
  | s => readFrom limit 0 s

/-! ### Digits -/

/-- No number but zero is written with a zero in front. -/
theorem eq_zero_of_head?_digits {n : Nat} (h : (Decimal.digits n).head? = some '0') : n = 0 := by
  fun_induction Decimal.digits n with
  | case1 n hn =>
    have hzero : ∀ n < 10, Decimal.digitChar n = '0' → n = 0 := by decide
    exact hzero n hn (by simpa using h)
  | case2 n hn ih =>
    obtain ⟨c, r, hr⟩ := List.exists_cons_of_ne_nil (Decimal.digits_ne_nil (n / Decimal.base))
    rw [hr] at h ih
    have hzero := ih h
    rw [base_eq] at hn hzero
    omega

/-! ### What reading accepts -/

theorem readFrom_eq_ok_iff {limit acc n : Nat} {s : Text} (hacc : acc ≤ limit) :
    readFrom limit acc s = .ok n ↔
      (∀ c ∈ s, Decimal.isDigit c = true) ∧ Decimal.valueFrom acc s = n ∧ n ≤ limit := by
  induction s generalizing acc with
  | nil =>
    simp only [readFrom, Radix.valueFrom_nil, Except.ok.injEq]
    constructor
    · rintro rfl; exact ⟨by simp, rfl, hacc⟩
    · exact fun h => h.2.1
  | cons c r ih =>
    have hle : 10 * acc + Decimal.digitValue c ≤ Decimal.valueFrom acc (c :: r) :=
      Decimal.le_valueFrom _ r
    unfold readFrom
    by_cases hc : Decimal.isDigit c
    · by_cases hl : limit < 10 * acc + Decimal.digitValue c
      · simp only [hc, hl, if_true]
        constructor
        · intro h; cases h
        · rintro ⟨-, rfl, h⟩; omega
      · simp only [hc, hl, if_true, if_false, ih (Nat.le_of_not_lt hl)]
        simp [hc]
    · simp [hc]

theorem le_of_read {limit n : Nat} {s : Text} (h : read limit s = .ok n) : n ≤ limit := by
  unfold read at h
  split at h
  · cases h
  · cases h
  · exact ((readFrom_eq_ok_iff (Nat.zero_le _)).1 h).2.2
  · exact ((readFrom_eq_ok_iff (Nat.zero_le _)).1 h).2.2

theorem read_eq_ok_of_digits {limit : Nat} {s : Text} (hne : s ≠ [])
    (hd : ∀ c ∈ s, Decimal.isDigit c = true) (hl : Decimal.value s ≤ limit) :
    read limit s = .ok (Decimal.value s) := by
  have h : readFrom limit 0 s = .ok (Decimal.value s) :=
    (readFrom_eq_ok_iff (Nat.zero_le _)).2 ⟨hd, rfl, hl⟩
  unfold read
  split
  · exact absurd rfl hne
  · exact absurd (hd '+' (by simp)) (by decide)
  · exact absurd (hd '+' (by simp)) (by decide)
  · exact h

/-- **A written number within the limit reads back.** -/
theorem read_digits {limit n : Nat} (h : n ≤ limit) : read limit (Decimal.digits n) = .ok n := by
  have hr : read limit (Decimal.digits n) = .ok (Decimal.value (Decimal.digits n)) :=
    read_eq_ok_of_digits (Decimal.digits_ne_nil n) (Decimal.isDigit_of_mem_digits n)
      (by rwa [Decimal.value_digits])
  rwa [Decimal.value_digits] at hr

end Decimal

end TriggerLatch
