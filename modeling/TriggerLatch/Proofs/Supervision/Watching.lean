import TriggerLatch.Proofs.Supervision.Attaching
import TriggerLatch.Supervision.Watch

/-!
# How watching a link ends

A watch that nothing ends makes its probes at ticks that depend on the probes alone (`watchAt`).
Its count of failures is that of a row of failures just behind it (`le_failures_watchAt`), and its
ticks come in order (`tickAt_mono`).  So **a watch closes with the first row of failures that is
long enough, or as soon as it sees a shutdown** (`watch_closes`), and it finds the link lost exactly
if enough probes in a row fail before it sees one (`watch_tells`).

When it sees the shutdown is said by `SeesStop`, for any choice between a shutdown and a tick that
are there together.
-/

namespace TriggerLatch.Supervision

variable {policy : Policy} {probes : Probes} {stop : Option Nat} {overtakes : Nat → Bool}
  {start : Nat}

/-- The watch after `n` probes, if nothing ends it before. -/
def watchAt (policy : Policy) (probes : Probes) (start : Nat) : Nat → Watch
  | 0 => .start policy start
  | n + 1 => (watchAt policy probes start n).probed policy (probes n)

/-- When the tick after `n` probes fires. -/
def tickAt (policy : Policy) (probes : Probes) (start n : Nat) : Nat :=
  (watchAt policy probes start n).fires

/-- The link is not lost by then. -/
def StillWatched (policy : Policy) (probes : Probes) (start n : Nat) : Prop :=
  ∀ m ≤ n, (watchAt policy probes start m).failures < policy.losses

/-- The watch sees the shutdown as it waits for the tick after `n` probes: the shutdown is there
before the tick, or with it and is not overtaken. -/
def SeesStop (policy : Policy) (probes : Probes) (stop : Option Nat) (overtakes : Nat → Bool)
    (start n : Nat) : Prop :=
  ∃ s ∈ stop,
    let seen := max (watchAt policy probes start n).now s
    seen < tickAt policy probes start n ∨
      seen = tickAt policy probes start n ∧ overtakes n = false

/-- As many probes in a row fail as mean that the link is lost, and all of them are made before the
watch sees a shutdown. -/
def LosesLinkUnstopped (policy : Policy) (probes : Probes) (stop : Option Nat)
    (overtakes : Nat → Bool) (start : Nat) : Prop :=
  ∃ n, (∀ i < policy.losses, (probes (n + i)).failure ≠ none) ∧
    ∀ m < n + policy.losses, ¬ SeesStop policy probes stop overtakes start m

/-- From probe `m` on, as many in a row fail as mean that the link is lost, and so many do from no
probe before. -/
structure FirstStreak (policy : Policy) (probes : Probes) (m : Nat) : Prop where
  fails : ∀ i < policy.losses, (probes (m + i)).failure ≠ none
  first : ∀ m' < m, ∃ i < policy.losses, (probes (m' + i)).failure = none

theorem probes_watchAt (n : Nat) : (watchAt policy probes start n).probes = n := by
  induction n with
  | zero => rfl
  | succ n ih => rw [watchAt, Watch.probed, ih]

theorem failures_watchAt_succ (policy : Policy) (probes : Probes) (start n : Nat) :
    (watchAt policy probes start (n + 1)).failures =
      if (probes n).failure.isNone then 0 else (watchAt policy probes start n).failures + 1 := rfl

/-- **The failures counted are those of a row just behind.** -/
theorem le_failures_watchAt {n q : Nat} :
    q ≤ (watchAt policy probes start n).failures ↔
      ∃ m, n = m + q ∧ ∀ i < q, (probes (m + i)).failure ≠ none := by
  induction n generalizing q with
  | zero =>
    constructor
    · intro hq
      obtain rfl := Nat.le_zero.1 hq
      exact ⟨0, rfl, fun i hi => absurd hi (Nat.not_lt_zero i)⟩
    · rintro ⟨m, hm, -⟩
      omega
  | succ n ih =>
    rw [failures_watchAt_succ]
    cases q with
    | zero =>
      exact iff_of_true (Nat.zero_le _) ⟨n + 1, rfl, fun i hi => absurd hi (Nat.not_lt_zero i)⟩
    | succ q =>
      cases hn : (probes n).failure with
      | none =>
        refine iff_of_false (Nat.not_succ_le_zero q) ?_
        rintro ⟨m, hm, hrow⟩
        have hmq : n = m + q := by omega
        exact hrow q (Nat.lt_succ_self q) (hmq ▸ hn)
      | some e =>
        rw [Option.isNone_some, if_neg Bool.false_ne_true, Nat.add_le_add_iff_right, ih]
        refine exists_congr fun m => ?_
        constructor
        · rintro ⟨rfl, hrow⟩
          exact ⟨rfl, failed_succ (probes.after m) hrow hn⟩
        · rintro ⟨hm, hrow⟩
          exact ⟨by omega, fun i hi => hrow i (Nat.lt_succ_of_lt hi)⟩

theorem le_tickAt (policy : Policy) (probes : Probes) (start n : Nat) :
    start + (n + 1) * policy.checkInterval ≤ tickAt policy probes start n := by
  have hdue : start + (n + 1) * policy.checkInterval ≤ (watchAt policy probes start n).due := by
    induction n with
    | zero => simp [watchAt, Watch.start]
    | succ n ih =>
      have hfires : (watchAt policy probes start n).due ≤ (watchAt policy probes start n).fires :=
        Nat.le_max_right _ _
      have hsucc : (watchAt policy probes start (n + 1)).due =
          (watchAt policy probes start n).nextDue policy := rfl
      rw [hsucc, Watch.nextDue, Nat.succ_mul (n + 1)]
      split <;> omega
  exact Nat.le_trans hdue (Nat.le_max_right _ _)

theorem Watch.stopsFirst_watchAt {n : Nat} :
    (watchAt policy probes start n).stopsFirst stop (overtakes n) = true ↔
      SeesStop policy probes stop overtakes start n := by
  cases stop <;> simp [Watch.stopsFirst, SeesStop, tickAt]

theorem StillWatched.succ {n : Nat} (h : StillWatched policy probes start n)
    (hn : (watchAt policy probes start (n + 1)).failures < policy.losses) :
    StillWatched policy probes start (n + 1) := by
  intro m hm
  rcases Nat.le_succ_iff.1 hm with hle | rfl
  · exact h m hle
  · exact hn

theorem StillWatched.firstStreak {n : Nat} (h : StillWatched policy probes start n)
    (hlost : policy.losses ≤ (watchAt policy probes start (n + 1)).failures) :
    ∃ m, n + 1 = m + policy.losses ∧ FirstStreak policy probes m := by
  obtain ⟨m, hm, hrow⟩ := le_failures_watchAt.1 hlost
  refine ⟨m, hm, hrow, ?_⟩
  intro m' hlt
  by_contra hall
  push Not at hall
  have hbefore : policy.losses ≤ (watchAt policy probes start (m' + policy.losses)).failures :=
    le_failures_watchAt.2 ⟨m', rfl, hall⟩
  exact absurd hbefore (Nat.not_le_of_lt (h _ (by omega)))

/-- How a watch closes that makes at most `bound` probes: with the first row of failures that is
long enough, with a shutdown that it sees before its next tick, or not at all. -/
inductive Watched.Closes (policy : Policy) (probes : Probes) (stop : Option Nat)
    (overtakes : Nat → Bool) (start bound : Nat) (w : Watched) : Prop
  | lost (m : Nat) (streak : FirstStreak policy probes m) (count : w.probes = m + policy.losses)
      (before : ∀ n < w.probes, ¬ SeesStop policy probes stop overtakes start n)
      (ending : w.ending = .lost policy.losses)
      (time : w.time = (watchAt policy probes start w.probes).now)
  | stopped (s : Nat) (stops : stop = some s) (still : StillWatched policy probes start w.probes)
      (before : ∀ n < w.probes, ¬ SeesStop policy probes stop overtakes start n)
      (sees : SeesStop policy probes stop overtakes start w.probes) (ending : w.ending = .stopped)
      (time : w.time = max (watchAt policy probes start w.probes).now s)
  | watching (still : StillWatched policy probes start w.probes) (count : w.probes = bound)
      (before : ∀ n < w.probes, ¬ SeesStop policy probes stop overtakes start n)
      (ending : w.ending = .watching)

theorem Watched.Closes.announce {bound : Nat} {w : Watched}
    (h : w.Closes policy probes stop overtakes start bound) (ns : List Notice) :
    (w.announce ns).Closes policy probes stop overtakes start bound := by
  cases h with
  | lost m streak count before ending time => exact .lost m streak count before ending time
  | stopped s stops still before sees ending time =>
    exact .stopped s stops still before sees ending time
  | watching still count before ending => exact .watching still count before ending

/-- **How a watch closes after `n` probes** that did not lose the link, if it has not seen a
shutdown. -/
theorem watchFrom_closes (fuel n : Nat) (w : Watch) (hw : w = watchAt policy probes start n)
    (hstill : StillWatched policy probes start n)
    (hbefore : ∀ m < n, ¬ SeesStop policy probes stop overtakes start m) :
    (watchFrom policy probes stop overtakes fuel w).Closes policy probes stop overtakes start
      (n + fuel) := by
  fun_induction watchFrom policy probes stop overtakes fuel w generalizing n with
  | case1 w =>
    subst hw
    have hcount : (watchAt policy probes start n).probes = n := probes_watchAt n
    exact .watching (by rwa [hcount]) hcount (by rwa [hcount]) rfl
  | case2 fuel w hstop =>
    subst hw
    rw [probes_watchAt, Watch.stopsFirst_watchAt] at hstop
    obtain ⟨s, rfl, hfirst⟩ := hstop
    simp only [probes_watchAt]
    exact .stopped s rfl hstill hbefore ⟨s, rfl, hfirst⟩ rfl rfl
  | case3 fuel w hstop probe w' rest ih =>
    subst hw
    rw [probes_watchAt, Watch.stopsFirst_watchAt] at hstop
    have hw' : w' = watchAt policy probes start (n + 1) := by
      simp only [w', probe, probes_watchAt, watchAt]
    have hbefore' : ∀ m < n + 1, ¬ SeesStop policy probes stop overtakes start m := by
      intro m hm
      rcases Nat.lt_succ_iff_lt_or_eq.1 hm with hlt | rfl
      · exact hbefore m hlt
      · exact hstop
    refine Watched.Closes.announce ?_ _
    by_cases hlost : policy.losses ≤ w'.failures
    · simp only [rest, if_pos hlost, hw', probes_watchAt]
      rw [hw'] at hlost
      obtain ⟨m, hm, hstreak⟩ := hstill.firstStreak hlost
      have hexact : (watchAt policy probes start (n + 1)).failures = policy.losses := by
        have hcount := hstill n (Nat.le_refl n)
        have hsucc := failures_watchAt_succ policy probes start n
        split at hsucc <;> omega
      exact .lost m hstreak hm hbefore' (congrArg _ hexact) rfl
    · simp only [rest, if_neg hlost]
      rw [hw', Nat.not_le] at hlost
      have hfuel : n + (fuel + 1) = n + 1 + fuel := by omega
      rw [hfuel]
      exact ih (n + 1) hw' (hstill.succ hlost) hbefore'

theorem stillWatched_zero : StillWatched policy probes start 0 := by
  intro m hm
  obtain rfl := Nat.le_zero.1 hm
  exact policy.losses_pos

/-- **How watching closes.** -/
theorem watch_closes (policy : Policy) (probes : Probes) (stop : Option Nat)
    (overtakes : Nat → Bool) (start fuel : Nat) :
    (watch policy probes stop fuel start overtakes).Closes policy probes stop overtakes start
      fuel := by
  have hcloses : (watchFrom policy probes stop overtakes fuel (.start policy start)).Closes policy
      probes stop overtakes start (0 + fuel) :=
    watchFrom_closes fuel 0 _ rfl stillWatched_zero fun m hm => absurd hm (Nat.not_lt_zero m)
  rwa [Nat.zero_add] at hcloses

theorem Watched.Closes.of_watching {bound : Nat} {w : Watched}
    (h : w.Closes policy probes stop overtakes start bound) (hw : w.ending = .watching) :
    w.probes = bound ∧ StillWatched policy probes start bound ∧
      ∀ n < bound, ¬ SeesStop policy probes stop overtakes start n := by
  cases h with
  | lost m streak count before ending time => cases hw.symm.trans ending
  | stopped s stops still before sees ending time => cases hw.symm.trans ending
  | watching still count before ending => exact ⟨count, count ▸ still, count ▸ before⟩

/-- What watching came to is what its probes and the shutdown say. -/
inductive Watched.Tells (policy : Policy) (probes : Probes) (stop : Option Nat)
    (overtakes : Nat → Bool) (start : Nat) (w : Watched) : Prop
  | lost (loses : LosesLinkUnstopped policy probes stop overtakes start)
      (ending : w.ending = .lost policy.losses)
  | stopped (s : Nat) (stops : stop = some s)
      (keeps : ¬ LosesLinkUnstopped policy probes stop overtakes start)
      (ending : w.ending = .stopped) (time : s ≤ w.time)
  | watching (ending : w.ending = .watching)

theorem SeesStop.not_losesLinkUnstopped {n : Nat}
    (h : SeesStop policy probes stop overtakes start n)
    (hstill : StillWatched policy probes start n) :
    ¬ LosesLinkUnstopped policy probes stop overtakes start := by
  rintro ⟨m, hrow, hunseen⟩
  -- the row is over by then, as none of its probes is made later
  have hle : m + policy.losses ≤ n := Nat.not_lt.1 fun hlt => hunseen n hlt h
  have hlost : policy.losses ≤ (watchAt policy probes start (m + policy.losses)).failures :=
    le_failures_watchAt.2 ⟨m, rfl, hrow⟩
  exact absurd hlost (Nat.not_le_of_lt (hstill _ hle))

/-- **What watching comes to.** -/
theorem watch_tells (policy : Policy) (probes : Probes) (stop : Option Nat)
    (overtakes : Nat → Bool) (start fuel : Nat) :
    (watch policy probes stop fuel start overtakes).Tells policy probes stop overtakes start := by
  cases watch_closes policy probes stop overtakes start fuel with
  | lost m streak count before ending time =>
    exact .lost ⟨m, streak.fails, count ▸ before⟩ ending
  | stopped s stops still before sees ending time =>
    exact .stopped s stops (sees.not_losesLinkUnstopped still) ending
      (time ▸ Nat.le_max_right _ _)
  | watching still count before ending => exact .watching ending

/-! ### Watches that end -/

@[simp] theorem Watched.announce_ending (ns : List Notice) (w : Watched) :
    (w.announce ns).ending = w.ending := rfl

theorem SeesStop.ends {n fuel : Nat} (h : SeesStop policy probes stop overtakes start n)
    (hfuel : n < fuel) : (watch policy probes stop fuel start overtakes).ending ≠ .watching := by
  intro hwatching
  obtain ⟨-, -, hunseen⟩ :=
    (watch_closes policy probes stop overtakes start fuel).of_watching hwatching
  exact hunseen n hfuel h

/-- **A shutdown is seen once it is not overtaken**, if there has been a probe for each millisecond
until then. -/
theorem seesStop_of_le {s n : Nat} (hinterval : 0 < policy.checkInterval) (hn : s ≤ n)
    (hnot : overtakes n = false) : SeesStop policy probes (some s) overtakes start n := by
  have htick := le_tickAt policy probes start n
  have hmul : n + 1 ≤ (n + 1) * policy.checkInterval := Nat.le_mul_of_pos_right _ hinterval
  have hnow : (watchAt policy probes start n).now ≤ tickAt policy probes start n :=
    Nat.le_max_left _ _
  have hseen : max (watchAt policy probes start n).now s ≤ tickAt policy probes start n :=
    Nat.max_le.2 ⟨hnow, by omega⟩
  refine ⟨s, rfl, ?_⟩
  rcases Nat.lt_or_eq_of_le hseen with hlt | heq
  · exact .inl hlt
  · exact .inr ⟨heq, hnot⟩

theorem watchFrom_of_ends {fuel fuel' : Nat} {w : Watch} (hle : fuel ≤ fuel')
    (h : (watchFrom policy probes stop overtakes fuel w).ending ≠ .watching) :
    watchFrom policy probes stop overtakes fuel' w =
      watchFrom policy probes stop overtakes fuel w := by
  induction fuel generalizing fuel' w with
  | zero => exact absurd rfl h
  | succ fuel ih =>
    obtain ⟨more, rfl⟩ := Nat.exists_eq_add_of_le' hle
    rw [← Nat.add_assoc]
    unfold watchFrom at h ⊢
    by_cases hstop : w.stopsFirst stop (overtakes w.probes) = true
    · simp only [if_pos hstop]
    · simp only [if_neg hstop] at h ⊢
      by_cases hlost : policy.losses ≤ (w.probed policy (probes w.probes)).failures
      · simp only [if_pos hlost]
      · simp only [if_neg hlost, Watched.announce_ending] at h ⊢
        rw [ih (Nat.le_add_left fuel more) h]

/-- Once a watch has ended, it does not matter how many more probes it could have made. -/
theorem watch_of_ends {fuel fuel' : Nat} (hle : fuel ≤ fuel')
    (h : (watch policy probes stop fuel start overtakes).ending ≠ .watching) :
    watch policy probes stop fuel' start overtakes =
      watch policy probes stop fuel start overtakes :=
  watchFrom_of_ends hle h

end TriggerLatch.Supervision
