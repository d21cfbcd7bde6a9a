import Mathlib.Order.Monotone.Basic
import TriggerLatch.Supervision.Attach

/-!
# How attaching a link ends

Probe `n` of a link that is being attached follows `n` others, with a pause after each of them, so
it has a time of its own in every row of probes.  **Attaching ends as the first probe that succeeds,
or the last one there is, ends before any shutdown, and else with the shutdown**
(`attach_tells`).
-/

namespace TriggerLatch.Supervision

variable {policy : Policy} {probes : Probes} {stop : Option Nat}

/-- No shutdown has come at this time. -/
def Unstopped (stop : Option Nat) (time : Nat) : Prop := ∀ s ∈ stop, time < s

/-- When probe `n` begins. -/
def attemptBegins (policy : Policy) (probes : Probes) : Nat → Nat
  | 0 => 0
  | n + 1 => attemptBegins policy probes n + (probes n).took + policy.attachRetry

/-- When probe `n` ends. -/
def attemptEnds (policy : Policy) (probes : Probes) (n : Nat) : Nat :=
  attemptBegins policy probes n + (probes n).took

/-- Probe `n` is made, unless a shutdown comes first. -/
structure ReachesAttempt (policy : Policy) (probes : Probes) (n : Nat) : Prop where
  allowed : n < policy.attempts
  failed : ∀ i < n, (probes i).failure ≠ none

/-- The attempts are spent before any shutdown. -/
structure FailsToAttach (policy : Policy) (probes : Probes) (stop : Option Nat) : Prop where
  failed : ∀ i < policy.attempts, (probes i).failure ≠ none
  unstopped : Unstopped stop (attemptEnds policy probes (policy.attempts - 1))

/-- Probe `k` is the first to succeed, before any shutdown. -/
structure AttachesWith (policy : Policy) (probes : Probes) (stop : Option Nat) (k : Nat) :
    Prop where
  reached : ReachesAttempt policy probes k
  succeeds : (probes k).failure = none
  unstopped : Unstopped stop (attemptEnds policy probes k)

theorem AttachesWith.not_failsToAttach {k : Nat} (h : AttachesWith policy probes stop k) :
    ¬ FailsToAttach policy probes stop :=
  fun hfails => hfails.failed k h.reached.allowed h.succeeds

theorem AttachesWith.unique {k k' : Nat} (h : AttachesWith policy probes stop k)
    (h' : AttachesWith policy probes stop k') : k = k' := by
  rcases Nat.lt_trichotomy k k' with hlt | heq | hgt
  · exact absurd h.succeeds (h'.reached.failed k hlt)
  · exact heq
  · exact absurd h'.succeeds (h.reached.failed k' hgt)

theorem failed_succ (probes : Probes) {n : Nat} {e : LinkError}
    (hfailed : ∀ i < n, (probes i).failure ≠ none) (hfails : (probes n).failure = some e) :
    ∀ i < n + 1, (probes i).failure ≠ none := by
  intro i hi
  rcases Nat.lt_succ_iff_lt_or_eq.1 hi with hlt | rfl
  · exact hfailed i hlt
  · rw [hfails]
    exact Option.some_ne_none e

theorem attemptEnds_mono (policy : Policy) (probes : Probes) :
    Monotone (attemptEnds policy probes) := by
  apply monotone_nat_of_le_succ
  intro n
  simp only [attemptEnds, attemptBegins]
  omega

theorem ReachesAttempt.interrupted {n s : Nat} (h : ReachesAttempt policy probes n)
    (hs : s ∈ stop) (hlt : s < attemptEnds policy probes n) :
    (∀ k, ¬ AttachesWith policy probes stop k) ∧ ¬ FailsToAttach policy probes stop := by
  constructor
  · intro k hk
    rcases Nat.lt_or_ge k n with hkn | hnk
    · exact h.failed k hkn hk.succeeds
    · have hle := attemptEnds_mono policy probes hnk
      have hafter := hk.unstopped s hs
      omega
  · intro hfails
    have hlast : n ≤ policy.attempts - 1 := Nat.le_sub_one_of_lt h.allowed
    have hle := attemptEnds_mono policy probes hlast
    have hafter := hfails.unstopped s hs
    omega

theorem stopsBefore_eq_true {time : Nat} :
    stopsBefore stop time = true ↔ ∃ s, stop = some s ∧ s < time := by
  cases stop <;> simp [stopsBefore]

theorem ReachesAttempt.unstopped {n : Nat} (h : ReachesAttempt policy probes n)
    (happart : ∀ s ∈ stop, ∀ n, ReachesAttempt policy probes n → s ≠ attemptEnds policy probes n)
    (hstop : ¬ stopsBefore stop (attemptEnds policy probes n) = true) :
    Unstopped stop (attemptEnds policy probes n) := by
  intro s hs
  have hle : ¬ s < attemptEnds policy probes n := by
    intro hlt
    exact hstop (stopsBefore_eq_true.2 ⟨s, hs, hlt⟩)
  have hne := happart s hs n h
  omega

/-- What attaching came to is what its probes and the shutdown say. -/
inductive Attached.Tells (policy : Policy) (probes : Probes) (stop : Option Nat) (a : Attached) :
    Prop
  | attached (k : Nat) (attaches : AttachesWith policy probes stop k)
      (ending : a.ending = .attached) (time : a.time = attemptEnds policy probes k)
      (count : a.probes = k + 1)
  | failed (e : LinkError) (fails : FailsToAttach policy probes stop)
      (last : (probes (policy.attempts - 1)).failure = some e) (ending : a.ending = .failed e)
      (time : a.time = attemptEnds policy probes (policy.attempts - 1))
      (count : a.probes = policy.attempts)
  | interrupted (unattached : ∀ k, ¬ AttachesWith policy probes stop k)
      (unfailed : ¬ FailsToAttach policy probes stop) (ending : a.ending = .interrupted)
      (time : stop = some a.time)

theorem Attached.Tells.announce {a : Attached} (h : a.Tells policy probes stop) (n : Notice) :
    (a.announce n).Tells policy probes stop := by
  cases h with
  | attached k attaches ending time count => exact .attached k attaches ending time count
  | failed e fails last ending time count => exact .failed e fails last ending time count
  | interrupted unattached unfailed ending time =>
    exact .interrupted unattached unfailed ending time

/-- **What attaching comes to from probe `n` on**, if the probes before it have failed. -/
theorem attachFrom_tells
    (happart : ∀ s ∈ stop, ∀ n, ReachesAttempt policy probes n → s ≠ attemptEnds policy probes n)
    (left n now : Nat) (hleft : n + left + 1 = policy.attempts)
    (hfailed : ∀ i < n, (probes i).failure ≠ none) (hnow : now = attemptBegins policy probes n) :
    (attachFrom policy probes stop left n now).Tells policy probes stop := by
  fun_induction attachFrom policy probes stop left n now with
  | case1 left n now probe attempt done hstop =>
    -- the shutdown comes during the probe
    have hreach : ReachesAttempt policy probes n := ⟨by omega, hfailed⟩
    obtain ⟨s, rfl, hlt⟩ := stopsBefore_eq_true.1 hstop
    have hends : done = attemptEnds policy probes n := by rw [attemptEnds, ← hnow]
    obtain ⟨hunattached, hunfailed⟩ := hreach.interrupted (Option.mem_some_self s) (hends ▸ hlt)
    exact .interrupted hunattached hunfailed rfl rfl
  | case2 left n now probe attempt done hstop hsucceeds =>
    have hreach : ReachesAttempt policy probes n := ⟨by omega, hfailed⟩
    have hends : done = attemptEnds policy probes n := by rw [attemptEnds, ← hnow]
    exact .attached n ⟨hreach, hsucceeds, hreach.unstopped happart (hends ▸ hstop)⟩ rfl hends rfl
  | case3 n now probe attempt done hstop e hfails =>
    have hreach : ReachesAttempt policy probes n := ⟨by omega, hfailed⟩
    have hends : done = attemptEnds policy probes n := by rw [attemptEnds, ← hnow]
    have hlast : policy.attempts - 1 = n := by omega
    have hall := failed_succ probes hfailed hfails
    refine .failed e ⟨?_, ?_⟩ ?_ rfl ?_ (by omega)
    · intro i hi
      exact hall i (by omega)
    · rw [hlast]
      exact hreach.unstopped happart (hends ▸ hstop)
    · rw [hlast]
      exact hfails
    · rw [hlast]
      exact hends
  | case4 n now probe attempt done hstop e left hfails next rest ih =>
    have hfailed' := failed_succ probes hfailed hfails
    have hnext : next = attemptBegins policy probes (n + 1) := by rw [attemptBegins, ← hnow]
    refine Attached.Tells.announce ?_ _
    by_cases hpause : stopsBefore stop next = true
    · -- the shutdown comes during the pause
      have hreach : ReachesAttempt policy probes (n + 1) := ⟨by omega, hfailed'⟩
      obtain ⟨s, rfl, hlt⟩ := stopsBefore_eq_true.1 hpause
      have hends : s < attemptEnds policy probes (n + 1) :=
        Nat.lt_of_lt_of_le (hnext ▸ hlt) (Nat.le_add_right _ _)
      obtain ⟨hunattached, hunfailed⟩ := hreach.interrupted (Option.mem_some_self s) hends
      simp only [rest, if_pos hpause]
      exact .interrupted hunattached hunfailed rfl rfl
    · simp only [rest, if_neg hpause]
      exact ih (by omega) hfailed' hnext

/-- **What attaching comes to.** -/
theorem attach_tells
    (happart : ∀ s ∈ stop, ∀ n, ReachesAttempt policy probes n → s ≠ attemptEnds policy probes n) :
    (attach policy probes stop 0).Tells policy probes stop := by
  have hpos := policy.attempts_pos
  exact attachFrom_tells happart (policy.attempts - 1) 0 0 (by omega) (fun i hi => by omega) rfl

end TriggerLatch.Supervision
