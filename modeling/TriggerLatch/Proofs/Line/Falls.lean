import TriggerLatch.Device.Basic

/-!
# Rows of samples

What a sampler does with a sample of a row, said by the row alone: the line falls where a low sample
follows a high one with nothing good in between (`Samples.Falls`), a failed sample is worth a
warning if the one before it was good (`Samples.Warns`), and a good one is worth a word if the one
before it failed (`Samples.Recovers`).  **The sampler goes by that** (`firesOn_samplerAt`,
`warnsOn_samplerAt`, `recoversOn_samplerAt`), **and failed samples do not matter to where the line
falls** (`GoodOf.falls_iff`).
-/

namespace TriggerLatch

theorem Sample.take_eq_ok_iff {files : Files.Tree} {path : Path} {l : Level} :
    Sample.take files path = .ok l ↔
      ∃ text, Files.readText files path = .ok text ∧ text.trim = [l.digit] := by
  unfold Sample.take
  cases Files.readText files path with
  | error e => simp
  | ok text => simp [Level.ofText_eq_ok_iff]

instance Sample.decidableEq : DecidableEq Sample
  | .ok l, .ok l' => decidable_of_iff (l = l') ⟨congrArg _, Except.ok.inj⟩
  | .error e, .error e' => decidable_of_iff (e = e') ⟨congrArg _, Except.error.inj⟩
  | .ok _, .error _ | .error _, .ok _ => .isFalse nofun

/-- The samples of a line, in order. -/
abbrev Samples := Nat → Sample

namespace Samples

/-- The last good sample before sample `n` is at this level. -/
def LastGood (x : Samples) (n : Nat) (l : Level) : Prop :=
  ∃ m < n, x m = .ok l ∧ ∀ i, m < i → i < n → (x i).isOk = false

/-- Sample `n` is low, and the last good one before it is high. -/
def Falls (x : Samples) (n : Nat) : Prop := x n = .ok .low ∧ x.LastGood n .high

/-- Sample `n` is the first failed one of a row of them. -/
def Warns (x : Samples) (n : Nat) (e : LineError) : Prop :=
  x n = .error e ∧ ∀ m, n = m + 1 → (x m).isOk = true

/-- Sample `n` is the first good one after failed ones. -/
def Recovers (x : Samples) (n : Nat) : Prop :=
  (x n).isOk = true ∧ ∃ m, n = m + 1 ∧ (x m).isOk = false

/-- What is said about sample `n`. -/
inductive Told (x : Samples) (n : Nat) : List Notice → Prop
  | warning (e : LineError) (warns : x.Warns n e) : Told x n [.sampleFailed e]
  | readable (recovers : x.Recovers n) : Told x n [.lineReadable]
  | nothing (still : ∀ e, ¬ x.Warns n e) (steady : ¬ x.Recovers n) : Told x n []

/-- So many of the samples before sample `n` are good. -/
def goodBefore (x : Samples) (n : Nat) : Nat := (List.range n).countP fun i => (x i).isOk

/-- The good samples of `x` before sample `n`, in order, are the samples of `y`. -/
def GoodOf (y x : Samples) (n : Nat) : Prop :=
  ∀ k < n, (x k).isOk = true → y (x.goodBefore k) = x k

instance (y x : Samples) (n : Nat) : Decidable (y.GoodOf x n) :=
  inferInstanceAs (Decidable (∀ k < n, (x k).isOk = true → y (x.goodBefore k) = x k))

/-- What is remembered before sample `n`. -/
def samplerAt (x : Samples) : Nat → Sampler
  | 0 => .start
  | n + 1 => (x.samplerAt n).step (x n)

variable {x y : Samples} {n k : Nat} {l : Level} {e : LineError}

/-! ### What is remembered -/

theorem not_lastGood_zero : ¬ x.LastGood 0 l := by
  rintro ⟨m, hm, -⟩
  exact Nat.not_lt_zero m hm

theorem lastGood_succ :
    x.LastGood (n + 1) l ↔ x n = .ok l ∨ ((x n).isOk = false ∧ x.LastGood n l) := by
  constructor
  · rintro ⟨m, hm, hl, hbad⟩
    rcases Nat.lt_succ_iff_lt_or_eq.1 hm with hlt | rfl
    · exact .inr ⟨hbad n hlt (Nat.lt_succ_self n), m, hlt, hl,
        fun i hmi hin => hbad i hmi (Nat.lt_succ_of_lt hin)⟩
    · exact .inl hl
  · rintro (hl | ⟨hn, m, hm, hl, hbad⟩)
    · exact ⟨n, Nat.lt_succ_self n, hl, fun i hni hin => by omega⟩
    · refine ⟨m, Nat.lt_succ_of_lt hm, hl, fun i hmi hin => ?_⟩
      rcases Nat.lt_succ_iff_lt_or_eq.1 hin with hlt | rfl
      · exact hbad i hmi hlt
      · exact hn

/-- **The detector keeps the last good level.** -/
theorem last_samplerAt : (x.samplerAt n).detector.last = some l ↔ x.LastGood n l := by
  induction n with
  | zero => exact iff_of_false nofun not_lastGood_zero
  | succ n ih =>
    rw [lastGood_succ, ← ih, samplerAt]
    cases hx : x n with
    | ok l' => simp [Sampler.step, FallingEdge.observe, Except.isOk, Except.toBool]
    | error e => simp [Sampler.step, Except.isOk, Except.toBool]

theorem failing_samplerAt :
    (x.samplerAt n).failing = true ↔ ∃ m, n = m + 1 ∧ (x m).isOk = false := by
  cases n with
  | zero => exact iff_of_false nofun (by rintro ⟨m, hm, -⟩; cases hm)
  | succ n =>
    rw [samplerAt]
    cases hx : x n with
    | ok l => simp [Sampler.step, hx, Except.isOk, Except.toBool]
    | error e => simp [Sampler.step, hx, Except.isOk, Except.toBool]

/-! ### What is done -/

/-- **The sampler fires where the line falls.** -/
theorem firesOn_samplerAt : (x.samplerAt n).firesOn (x n) = true ↔ x.Falls n := by
  rw [Falls, ← last_samplerAt]
  cases x n with
  | ok l => cases l <;> simp [Sampler.firesOn, FallingEdge.fallsAt]
  | error e => simp [Sampler.firesOn]

theorem warnsOn_samplerAt : (x.samplerAt n).warnsOn (x n) = some e ↔ x.Warns n e := by
  have hsteady : (x.samplerAt n).failing = false ↔ ∀ m, n = m + 1 → (x m).isOk = true := by
    rw [← Bool.not_eq_true, failing_samplerAt]
    simp only [not_exists, not_and, Bool.not_eq_false]
  rw [Warns, ← hsteady]
  cases x n with
  | ok l => simp [Sampler.warnsOn]
  | error e' => cases hf : (x.samplerAt n).failing <;> simp [Sampler.warnsOn, hf]

theorem recoversOn_samplerAt : (x.samplerAt n).recoversOn (x n) = true ↔ x.Recovers n := by
  rw [Recovers, ← failing_samplerAt, Sampler.recoversOn, Bool.and_eq_true, and_comm]

/-- **A failed sample is worth a warning if it is the first of a row**, and a good one a word if it
is the first after such a row. -/
theorem told_sampleNotices (x : Samples) (n : Nat) :
    x.Told n (Device.sampleNotices (x.samplerAt n) (x n)) := by
  unfold Device.sampleNotices
  cases hw : (x.samplerAt n).warnsOn (x n) with
  | some e =>
    have hwarns := warnsOn_samplerAt.1 hw
    have hrecovers : (x.samplerAt n).recoversOn (x n) = false := by
      rw [Sampler.recoversOn, hwarns.1, Except.isOk, Except.toBool, Bool.and_false]
    rw [hrecovers]
    exact .warning e hwarns
  | none =>
    have hstill : ∀ e, ¬ x.Warns n e := by
      intro e he
      cases hw.symm.trans (warnsOn_samplerAt.2 he)
    cases hr : (x.samplerAt n).recoversOn (x n) with
    | true => exact .readable (recoversOn_samplerAt.1 hr)
    | false =>
      refine .nothing hstill fun hrecovers => ?_
      cases hr.symm.trans (recoversOn_samplerAt.2 hrecovers)

theorem Warns.unique {e' : LineError} (h : x.Warns n e) (h' : x.Warns n e') : e = e' := by
  cases h.1.symm.trans h'.1
  rfl

theorem Warns.not_recovers (h : x.Warns n e) : ¬ x.Recovers n := by
  rintro ⟨hok, -⟩
  rw [h.1] at hok
  cases hok

theorem Told.unique {ns ms : List Notice} (h : x.Told n ns) (h' : x.Told n ms) : ns = ms := by
  cases h with
  | warning e hw =>
    cases h' with
    | warning e' hw' => rw [hw.unique hw']
    | readable hr => exact absurd hr hw.not_recovers
    | nothing still => exact absurd hw (still e)
  | readable hr =>
    cases h' with
    | warning e hw => exact absurd hr hw.not_recovers
    | readable => rfl
    | nothing _ steady => exact absurd hr steady
  | nothing still steady =>
    cases h' with
    | warning e hw => exact absurd hw (still e)
    | readable hr => exact absurd hr steady
    | nothing => rfl

/-! ### Without the failed samples -/

theorem goodBefore_succ (x : Samples) (n : Nat) :
    x.goodBefore (n + 1) = x.goodBefore n + if (x n).isOk then 1 else 0 := by
  simp [goodBefore, List.range_succ, List.countP_append, List.countP_singleton]

theorem GoodOf.lastGood_iff (h : y.GoodOf x n) (hk : k ≤ n) :
    y.LastGood (x.goodBefore k) l ↔ x.LastGood k l := by
  induction k with
  | zero => exact iff_of_false not_lastGood_zero not_lastGood_zero
  | succ k ih =>
    rw [goodBefore_succ, lastGood_succ]
    -- a good sample is the next one of `y`, and a failed one adds nothing on either side
    cases hok : (x k).isOk with
    | true =>
      rw [if_pos rfl, lastGood_succ, h k hk hok, hok]
      simp
    | false =>
      have hx : x k ≠ .ok l := by
        intro hl
        rw [hl] at hok
        cases hok
      simp [ih (Nat.le_of_succ_le hk), hx]

/-- **Where the line falls does not depend on failed samples.** -/
theorem GoodOf.falls_iff (h : y.GoodOf x n) (hk : k < n) (hok : (x k).isOk = true) :
    y.Falls (x.goodBefore k) ↔ x.Falls k := by
  rw [Falls, Falls, h k hk hok, h.lastGood_iff (Nat.le_of_lt hk)]

end Samples

end TriggerLatch
