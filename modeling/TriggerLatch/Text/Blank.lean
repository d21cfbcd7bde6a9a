/-!
# Blank characters and trimming

A character is blank when it has the Unicode property `White_Space`.  `trim` removes the blank
characters at both ends of a text and nothing else (`eq_trim_surrounded`), and trimming twice
is trimming once (`trim_trim`).
-/

namespace TriggerLatch

/-- Text is handled character by character. -/
abbrev Text := List Char

/-- The characters with the property `White_Space`. -/
def isBlank (c : Char) : Bool :=
  let n := c.toNat
  (9 ≤ n && n ≤ 13) || n == 0x20 || n == 0x85 || n == 0xA0 || n == 0x1680 ||
    (0x2000 ≤ n && n ≤ 0x200A) || n == 0x2028 || n == 0x2029 || n == 0x202F || n == 0x205F ||
    n == 0x3000

namespace Text

/-- Without its leading blanks. -/
def trimStart (s : Text) : Text := s.dropWhile isBlank

/-- Without its trailing blanks. -/
def trimEnd (s : Text) : Text := (s.reverse.dropWhile isBlank).reverse

/-- Without the blanks at either end. -/
def trim (s : Text) : Text := trimEnd (trimStart s)

/-! ### What trimming leaves -/

theorem dropWhile_idem {p : Char → Bool} (s : Text) :
    (s.dropWhile p).dropWhile p = s.dropWhile p := by
  induction s with
  | nil => rfl
  | cons c r ih =>
    by_cases h : p c
    · simpa [List.dropWhile_cons, h] using ih
    · simp [h]

theorem not_isBlank_head_trimStart {s r : Text} {c : Char} (h : trimStart s = c :: r) :
    isBlank c = false := by
  have h' : trimStart (c :: r) = c :: r := by rw [← h]; exact dropWhile_idem s
  by_cases hc : isBlank c
  · have hl := congrArg List.length h'
    have hle : (r.dropWhile isBlank).length ≤ r.length := (List.dropWhile_sublist _).length_le
    simp [trimStart, hc] at hl
    omega
  · simpa using hc

theorem exists_eq_trimEnd_append (s : Text) :
    ∃ r, s = trimEnd s ++ r ∧ ∀ c ∈ r, isBlank c = true := by
  refine ⟨(s.reverse.takeWhile isBlank).reverse, ?_, ?_⟩
  · rw [trimEnd, ← List.reverse_append, List.takeWhile_append_dropWhile, List.reverse_reverse]
  · intro c hc
    exact List.all_eq_true.1 List.all_takeWhile c (List.mem_reverse.1 hc)

/-- **Trimming removes blanks from the ends and nothing else.** -/
theorem eq_trim_surrounded (s : Text) :
    ∃ l r, s = l ++ trim s ++ r ∧ (∀ c ∈ l, isBlank c = true) ∧ ∀ c ∈ r, isBlank c = true := by
  obtain ⟨r, hr, hb⟩ := exists_eq_trimEnd_append (trimStart s)
  refine ⟨s.takeWhile isBlank, r, ?_, List.all_eq_true.1 List.all_takeWhile, hb⟩
  rw [List.append_assoc, trim, ← hr, trimStart, List.takeWhile_append_dropWhile]

theorem trimEnd_trimEnd (s : Text) : trimEnd (trimEnd s) = trimEnd s := by
  simp [trimEnd, dropWhile_idem]

theorem trimStart_trimEnd_of_head {s : Text} (h : ∀ c r, s = c :: r → isBlank c = false) :
    trimStart (trimEnd s) = trimEnd s := by
  cases ht : trimEnd s with
  | nil => rfl
  | cons c r =>
    obtain ⟨t, hs, -⟩ := exists_eq_trimEnd_append s
    rw [ht] at hs
    simp [trimStart, h c (r ++ t) (by simpa using hs)]

/-- **Trimming twice is trimming once.** -/
theorem trim_trim (s : Text) : trim (trim s) = trim s := by
  have h : trimStart (trim s) = trim s :=
    trimStart_trimEnd_of_head fun _ _ => not_isBlank_head_trimStart
  rw [trim, h]
  exact trimEnd_trimEnd _

theorem trim_of_not_isBlank {s : Text} (h : ∀ c ∈ s, isBlank c = false) : trim s = s := by
  have hkept : ∀ t : Text, (∀ c ∈ t, isBlank c = false) → t.dropWhile isBlank = t := by
    intro t ht
    cases t with
    | nil => rfl
    | cons c r =>
      have hc : ¬ isBlank c = true := Bool.eq_false_iff.1 (ht c List.mem_cons_self)
      exact List.dropWhile_cons_of_neg hc
  have hend : ∀ c ∈ s.reverse, isBlank c = false := fun c hc => h c (List.mem_reverse.1 hc)
  rw [trim, trimStart, hkept s h, trimEnd, hkept _ hend, List.reverse_reverse]

end Text

end TriggerLatch
