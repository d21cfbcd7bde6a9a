/-!
# Rounding to the nearest whole number

`roundHalfEven` rounds a quotient to the nearest natural number; a quotient halfway between two
goes to the even one.
-/

namespace TriggerLatch

/-- The natural number nearest to `num / den`, the even one of two that are equally near. -/
def roundHalfEven (num den : Nat) : Nat :=
  let q := num / den
  let r := num % den
  if 2 * r < den then q
  else if den < 2 * r then q + 1
  else if q % 2 = 0 then q else q + 1

theorem roundHalfEven_near (num den : Nat) (h : 0 < den) :
    2 * (roundHalfEven num den * den) ≤ 2 * num + den ∧
      2 * num ≤ 2 * (roundHalfEven num den * den) + den := by
  have hd : den * (num / den) + num % den = num := Nat.div_add_mod num den
  have hr : num % den < den := Nat.mod_lt num h
  have hq : (num / den) * den = den * (num / den) := Nat.mul_comm _ _
  have hq1 : (num / den + 1) * den = den * (num / den) + den := by
    rw [Nat.add_mul, Nat.one_mul, hq]
  simp only [roundHalfEven]
  split
  · omega
  · split
    · omega
    · split <;> omega

theorem roundHalfEven_even (num den : Nat) (h : 2 * (num % den) = den) :
    roundHalfEven num den % 2 = 0 := by
  simp only [roundHalfEven, h, Nat.lt_irrefl, if_false]
  split <;> omega

end TriggerLatch
