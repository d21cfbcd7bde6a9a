import TriggerLatch.Calendar.Timestamp.Reader

/-!
# Written points in time

`Timestamp.display` and `Timestamp.ofText?` are two grammars: the reader takes much that is never
written.  What is written reads back (`Timestamp.ofText?_display`), in every year, with any number
of nanoseconds and in a leap second.

Each part of the written form is read back by a lemma of its own, whatever follows it: a number
padded with zeros has a known length, so the reader takes its digits and no more
(`takeNumber_append`).
-/

namespace TriggerLatch

namespace Decimal

theorem value_replicate_zero_append (k : Nat) (s : Text) :
    Decimal.value (List.replicate k '0' ++ s) = Decimal.value s := by
  induction k with
  | zero => rfl
  | succ k ih => simpa [Radix.value, List.replicate_succ, Decimal] using ih

theorem value_padded (width n : Nat) : Decimal.value (padded width n) = n := by
  rw [padded, value_replicate_zero_append, Decimal.value_digits]

theorem isDigit_of_mem_padded {width n : Nat} : ∀ c ∈ padded width n, Decimal.isDigit c = true := by
  intro c hc
  rcases List.mem_append.1 hc with hc | hc
  · rw [List.eq_of_mem_replicate hc]; rfl
  · exact Decimal.isDigit_of_mem_digits n c hc

theorem length_padded {width n : Nat} (hw : 0 < width) (h : n < Nat.pow 10 width) :
    (padded width n).length = width := by
  have := Decimal.length_digits_le hw h
  simp [padded]; omega

theorem padded_ne_nil (width n : Nat) : padded width n ≠ [] := by
  simp [padded, Decimal.digits_ne_nil]

theorem exists_cons_padded (width n : Nat) :
    ∃ c s, padded width n = c :: s ∧ Decimal.isDigit c = true := by
  obtain ⟨c, s, h⟩ := List.exists_cons_of_ne_nil (padded_ne_nil width n)
  exact ⟨c, s, h, isDigit_of_mem_padded c (by rw [h]; simp)⟩

end Decimal

theorem Text.trimStart_cons {c : Char} (h : isBlank c = false) (r : Text) :
    Text.trimStart (c :: r) = c :: r := by
  simp [Text.trimStart, h]

namespace Timestamp

open Decimal

/-! ### The parts -/

/-- The digits in front of a text are taken whole where the width allows it, and nothing behind them
is taken: either the width is used up, or no further digit follows. -/
theorem takeNumber_append {width : Nat} {ds r : Text} (hd : ∀ c ∈ ds, Decimal.isDigit c = true)
    (hne : ds ≠ []) (hw : ds.length ≤ width)
    (hr : width = ds.length ∨ r.takeWhile Decimal.isDigit = []) :
    takeNumber width (ds ++ r) = some (Decimal.value ds, r) := by
  -- whichever way the reader stops, it has taken the digits and no more
  have ht : ((ds ++ r).takeWhile Decimal.isDigit).take width = ds := by
    rw [List.takeWhile_append_of_pos hd]
    rcases hr with rfl | hr
    · simp
    · rw [hr, List.append_nil, List.take_of_length_le hw]
  simp [takeNumber, ht, hne]

theorem trimStart_padded (width n : Nat) (r : Text) :
    Text.trimStart (padded width n ++ r) = padded width n ++ r := by
  obtain ⟨c, s, h, hc⟩ := exists_cons_padded width n
  rw [h]
  exact Text.trimStart_cons (Decimal.isBlank_of_isDigit hc) _

theorem takePart_padded {n : Nat} (h : n < 100) (r : Text) :
    takePart (padded 2 n ++ r) = some (n, r) := by
  have hl : (padded 2 n).length = 2 := length_padded (by omega) h
  rw [takePart, trimStart_padded,
    takeNumber_append isDigit_of_mem_padded (padded_ne_nil 2 n) (by omega) (.inl hl.symm),
    value_padded]

theorem takeMark_cons {c : Char} (h : isBlank c = false) (r : Text) :
    takeMark c (c :: r) = some r := by
  simp [takeMark, Text.trimStart_cons h]

theorem takeYear_of_digit {c : Char} (h : Decimal.isDigit c = true) (s : Text) :
    takeYear (c :: s) = (takeNumber 4 (c :: s)).map fun (n, r) => ((n : Int), r) := by
  rw [takeYear, Text.trimStart_cons (Decimal.isBlank_of_isDigit h)]
  split
  · rename_i e; cases e; exact absurd h (by decide)
  · rename_i e; cases e; exact absurd h (by decide)
  · rfl

theorem takeYear_displayYear (y : Int) (r : Text) :
    takeYear (displayYear y ++ '-' :: r) = some (y, '-' :: r) := by
  have hs : ('-' :: r).takeWhile Decimal.isDigit = [] := rfl
  have hd : ∀ c ∈ padded 4 y.natAbs, Decimal.isDigit c = true := isDigit_of_mem_padded
  have hne := padded_ne_nil 4 y.natAbs
  unfold displayYear
  split
  · rename_i hy
    have hlt : y.natAbs < 10000 := by omega
    -- without a sign the width stops the reader, with one the dash behind the year does
    have hl : (padded 4 y.natAbs).length = 4 := length_padded (by omega) hlt
    have ht := takeNumber_append (r := '-' :: r) hd hne (by omega) (.inl hl.symm)
    obtain ⟨c, s, hc, hcd⟩ := exists_cons_padded 4 y.natAbs
    rw [hc] at ht ⊢
    rw [List.cons_append] at ht ⊢
    rw [takeYear_of_digit hcd, ht, ← hc, value_padded]
    have habs : (y.natAbs : Int) = y := by omega
    exact congrArg (fun z => some (z, '-' :: r)) habs
  · have ht : takeNumber (padded 4 y.natAbs ++ '-' :: r).length (padded 4 y.natAbs ++ '-' :: r) =
        some (Decimal.value (padded 4 y.natAbs), '-' :: r) :=
      takeNumber_append hd hne (by simp) (.inr hs)
    split
    · have hb : isBlank '-' = false := by decide
      simp only [takeYear, List.cons_append, Text.trimStart_cons hb, ht, value_padded]
      have habs : -(y.natAbs : Int) = y := by omega
      exact congrArg (fun z => some (z, '-' :: r)) habs
    · have hb : isBlank '+' = false := by decide
      simp only [takeYear, List.cons_append, Text.trimStart_cons hb, ht, value_padded]
      have habs : (y.natAbs : Int) = y := by omega
      exact congrArg (fun z => some (z, '-' :: r)) habs

theorem takeFraction_padded {width n : Nat} (hw : 0 < width) (h9 : width ≤ 9)
    (h : n < Nat.pow 10 width) :
    takeFraction ('.' :: (padded width n ++ ['Z'])) =
      some (n * Nat.pow 10 (9 - width), ['Z']) := by
  have hl := length_padded hw h
  have ht : (padded width n ++ ['Z']).takeWhile Decimal.isDigit = padded width n := by
    rw [List.takeWhile_append_of_pos isDigit_of_mem_padded]
    exact List.append_nil _
  have hr : (padded width n ++ ['Z']).dropWhile Decimal.isDigit = ['Z'] := by
    rw [List.dropWhile_append_of_pos isDigit_of_mem_padded]
    rfl
  have h9' : (padded width n).take 9 = padded width n := List.take_of_length_le (by omega)
  simp only [takeFraction, ht, hr, h9', hl, value_padded]
  rw [if_neg (by rw [List.isEmpty_iff]; exact padded_ne_nil width n)]

theorem takeFraction_displayFraction {n : Nat} (h : n < 1000000000) :
    takeFraction (displayFraction n ++ ['Z']) = some (n, ['Z']) := by
  unfold displayFraction
  split
  · subst n; rfl
  · split
    · have hlt : n / 1000000 < 1000 := by omega
      have hn : n / 1000000 * 1000000 = n := by omega
      rw [List.cons_append, takeFraction_padded (by omega) (by omega) hlt]
      exact congrArg (fun m => some (m, ['Z'])) hn
    · split
      · have hlt : n / 1000 < 1000000 := by omega
        have hn : n / 1000 * 1000 = n := by omega
        rw [List.cons_append, takeFraction_padded (by omega) (by omega) hlt]
        exact congrArg (fun m => some (m, ['Z'])) hn
      · rw [List.cons_append, takeFraction_padded (by omega) (by omega) h]
        exact congrArg (fun m => some (m, ['Z'])) n.mul_one

theorem takeDateEnd_cons (r : Text) : takeDateEnd ('T' :: r) = some r := by
  simp [takeDateEnd]

theorem takeOffset_utc : takeOffset ['Z'] = some (0, []) := by decide

/-! ### The whole -/

theorem ofLocal?_self (t : Timestamp) :
    ofLocal? t.date t.hour t.minute t.second t.nanosecond 0 = some t := by
  have hh := t.hour_lt
  have hm := t.minute_lt
  have e : (((60 * t.hour + t.minute - 0 : Int)) % 1440).toNat = 60 * t.hour + t.minute := by omega
  -- no minutes are added, so the day is the same and the hour is found again
  have h1 : ¬ ((60 * t.hour + t.minute - 0 : Int) < 0) := by omega
  have h2 : ¬ (1440 ≤ (60 * t.hour + t.minute - 0 : Int)) := by omega
  have hq : (60 * t.hour + t.minute) / 60 = t.hour := by omega
  have hr : (60 * t.hour + t.minute) % 60 = t.minute := by omega
  unfold ofLocal?
  simp only [e, h1, h2, if_false, Option.bind_eq_bind, Option.bind_some, hq, hr]
  rw [dif_pos ⟨⟨hh, hm⟩, t.second_le, t.nanosecond_lt⟩]

/-- **A written point in time reads back.** -/
theorem ofText?_display (t : Timestamp) : ofText? t.display = some t := by
  have hmonth : t.date.month < 100 := by have := t.date.month_mem; omega
  have hday : t.date.day < 100 := by
    have := t.date.day_mem
    have : daysIn t.date.year t.date.month ≤ 31 := by
      unfold daysIn; split <;> (try split) <;> omega
    omega
  have hhour : t.hour < 100 := by have := t.hour_lt; omega
  have hminute : t.minute < 100 := by have := t.minute_lt; omega
  have hsecond : t.second < 100 := by have := t.second_le; omega
  have hdash : isBlank '-' = false := by decide
  have hcolon : isBlank ':' = false := by decide
  have htext : t.display = displayYear t.date.year ++ '-' :: (padded 2 t.date.month ++
      '-' :: (padded 2 t.date.day ++ 'T' :: (padded 2 t.hour ++ ':' :: (padded 2 t.minute ++
        ':' :: (padded 2 t.second ++ (displayFraction t.nanosecond ++ ['Z'])))))) := by
    simp only [display, List.append_assoc, List.cons_append]
  rw [htext, ofText?]
  -- one part of the text after the other
  refine Option.bind_eq_some_iff.2 ⟨_, takeYear_displayYear _ _, ?_⟩
  refine Option.bind_eq_some_iff.2 ⟨_, takeMark_cons hdash _, ?_⟩
  refine Option.bind_eq_some_iff.2 ⟨_, takePart_padded hmonth _, ?_⟩
  refine Option.bind_eq_some_iff.2 ⟨_, takeMark_cons hdash _, ?_⟩
  refine Option.bind_eq_some_iff.2 ⟨_, takePart_padded hday _, ?_⟩
  refine Option.bind_eq_some_iff.2 ⟨_, takeDateEnd_cons _, ?_⟩
  refine Option.bind_eq_some_iff.2 ⟨_, takePart_padded hhour _, ?_⟩
  refine Option.bind_eq_some_iff.2 ⟨_, takeMark_cons hcolon _, ?_⟩
  refine Option.bind_eq_some_iff.2 ⟨_, takePart_padded hminute _, ?_⟩
  refine Option.bind_eq_some_iff.2 ⟨_, takeMark_cons hcolon _, ?_⟩
  refine Option.bind_eq_some_iff.2 ⟨_, takePart_padded hsecond _, ?_⟩
  refine Option.bind_eq_some_iff.2 ⟨_, takeFraction_displayFraction t.nanosecond_lt, ?_⟩
  refine Option.bind_eq_some_iff.2 ⟨_, takeOffset_utc, ?_⟩
  refine Option.bind_eq_some_iff.2 ⟨_, Date.of?_self _, ?_⟩
  rw [if_pos ⟨rfl, t.hour_lt, t.minute_lt, by decide⟩]
  exact ofLocal?_self t

end Timestamp

end TriggerLatch
