import Mathlib.Tactic.IntervalCases
import TriggerLatch.Proofs.Supervision.Watching
import TriggerLatch.Service

/-!
# A service reports what happened to its link

A service ends in one of five ways, and which one is decided by the results of the probes, the time
of the shutdown, whether the address can be bound, and which ticks overtake a shutdown that is seen
with them (`run_tells`).  **The failure it reports, the phases it went through, whether the address
was bound and whether the rest of the process was asked to stop all follow from that, and the
failure tells it back** (`run_reports`).

This is said of a service that returns.  Every service with a proper interval does that if it is
asked to stop and the shutdown is not overtaken for ever (`returns_of_stop`), and how many more
probes it could have made does not matter (`run_of_returns`).
-/

namespace TriggerLatch.Service

open Supervision

variable {policy : Policy} {probes : Probes} {stop : Option Nat} {overtakes : Nat → Bool}
  {fuel : Nat} {canBind : Endpoint → Bool} {address : Endpoint}

/-- If the service comes to watch its link, the watch has an interval, without which there are no
ticks, and ends within the probes looked at. -/
def Returns (policy : Policy) (probes : Probes) (stop : Option Nat) (fuel : Nat)
    (canBind : Endpoint → Bool) (address : Endpoint) (overtakes : Nat → Bool) : Prop :=
  let attached := attach policy probes stop 0
  attached.ending = .attached → canBind address = true →
    0 < policy.checkInterval ∧
      (watch policy (probes.after attached.probes) stop fuel attached.time overtakes).ending ≠
        .watching

/-- The link attached with probe `k` is lost before its watch sees a shutdown. -/
def LosesLinkAfter (policy : Policy) (probes : Probes) (stop : Option Nat)
    (overtakes : Nat → Bool) (k : Nat) : Prop :=
  LosesLinkUnstopped policy (probes.after (k + 1)) stop overtakes (attemptEnds policy probes k)

/-- What a service came to is what its probes, the shutdown and the address say. -/
inductive Outcome.Tells (policy : Policy) (probes : Probes) (stop : Option Nat)
    (overtakes : Nat → Bool) (binds : Bool) (address : Endpoint) (o : Outcome) : Prop
  | unattached (e : LinkError) (fails : FailsToAttach policy probes stop)
      (last : (probes (policy.attempts - 1)).failure = some e)
      (failure : o.failure = some (.supervision (.attachFailed policy.attempts e)))
      (phases : o.phases = [.attaching, .lost]) (bound : o.bound = false)
      (stopped : o.stopped = false)
  | refused (k : Nat) (attaches : AttachesWith policy probes stop k) (refuses : binds = false)
      (failure : o.failure = some (.bind address)) (phases : o.phases = [.attaching, .ready])
      (bound : o.bound = false) (stopped : o.stopped = false) (count : o.probes = k + 1)
  | lost (k : Nat) (attaches : AttachesWith policy probes stop k) (accepts : binds = true)
      (loses : LosesLinkAfter policy probes stop overtakes k)
      (failure : o.failure = some (.supervision (.linkLost policy.losses)))
      (phases : o.phases = [.attaching, .ready, .lost]) (bound : o.bound = true)
      (stopped : o.stopped = true)
  | stoppedAttaching (unattached : ∀ k, ¬ AttachesWith policy probes stop k)
      (unfailed : ¬ FailsToAttach policy probes stop) (stops : stop = some o.time)
      (failure : o.failure = none) (phases : o.phases = [.attaching]) (bound : o.bound = false)
      (stopped : o.stopped = true)
  | stoppedServing (s k : Nat) (attaches : AttachesWith policy probes stop k)
      (accepts : binds = true) (keeps : ¬ LosesLinkAfter policy probes stop overtakes k)
      (stops : stop = some s) (time : s ≤ o.time) (failure : o.failure = none)
      (phases : o.phases = [.attaching, .ready]) (bound : o.bound = true)
      (stopped : o.stopped = true)

/-- What the outcome says of the link, and what it leaves behind, by the failure it reports. -/
def Outcome.Accounts (policy : Policy) (probes : Probes) (stop : Option Nat) (address : Endpoint)
    (o : Outcome) : Prop :=
  match o.failure with
  | some (.supervision (.attachFailed attempts last)) =>
    attempts = policy.attempts ∧ (probes (policy.attempts - 1)).failure = some last ∧
      o.phase = .lost ∧ o.bound = false ∧ o.stopped = false
  | some (.bind a) =>
    a = address ∧ o.phase = .ready ∧ o.bound = false ∧ o.stopped = false ∧
      ∃ k, AttachesWith policy probes stop k ∧ o.probes = k + 1
  | some (.supervision (.linkLost failures)) =>
    failures = policy.losses ∧ o.phase = .lost ∧ o.bound = true ∧ o.stopped = true
  | none =>
    o.stopped = true ∧ (∃ s, stop = some s ∧ s ≤ o.time) ∧
      ((∃ k, AttachesWith policy probes stop k) → o.phase = .ready ∧ o.bound = true) ∧
      ((∀ k, ¬ AttachesWith policy probes stop k) → o.phase = .attaching ∧ o.bound = false)

theorem Outcome.Tells.accounts {binds : Bool} {o : Outcome}
    (h : o.Tells policy probes stop overtakes binds address) :
    o.Accounts policy probes stop address := by
  cases h with
  | unattached e fails last failure phases bound stopped =>
    rw [Outcome.Accounts, failure, Outcome.phase, phases]
    exact ⟨rfl, last, rfl, bound, stopped⟩
  | refused k attaches refuses failure phases bound stopped count =>
    rw [Outcome.Accounts, failure, Outcome.phase, phases]
    exact ⟨rfl, rfl, bound, stopped, k, attaches, count⟩
  | lost k attaches accepts loses failure phases bound stopped =>
    rw [Outcome.Accounts, failure, Outcome.phase, phases]
    exact ⟨rfl, rfl, bound, stopped⟩
  | stoppedAttaching unattached unfailed stops failure phases bound stopped =>
    rw [Outcome.Accounts, failure, Outcome.phase, phases]
    exact ⟨stopped, ⟨o.time, stops, Nat.le_refl _⟩, fun ⟨k, hk⟩ => absurd hk (unattached k),
      fun _ => ⟨rfl, bound⟩⟩
  | stoppedServing s k attaches accepts keeps stops time failure phases bound stopped =>
    rw [Outcome.Accounts, failure, Outcome.phase, phases]
    exact ⟨stopped, ⟨s, stops, time⟩, fun _ => ⟨rfl, bound⟩, fun h => absurd attaches (h k)⟩

theorem stoppedBy_eq_false {time : Nat} (h : Unstopped stop time) :
    stoppedBy stop time = false := by
  cases stop with
  | none => rfl
  | some s =>
    have hlt := h s rfl
    simpa [stoppedBy] using hlt

/-- **A service ends in one of five ways.** -/
theorem run_tells
    (happart : ∀ s ∈ stop, ∀ n, ReachesAttempt policy probes n → s ≠ attemptEnds policy probes n)
    (hreturns : Returns policy probes stop fuel canBind address overtakes) :
    (run policy probes stop fuel canBind address overtakes).Tells policy probes stop overtakes
      (canBind address) address := by
  have htells := attach_tells happart
  unfold Returns at hreturns
  unfold run
  generalize attach policy probes stop 0 = a at htells hreturns ⊢
  cases htells with
  | interrupted unattached unfailed ending time =>
    simp only [ending]
    exact .stoppedAttaching unattached unfailed time rfl (by rw [Attached.phases, ending]) rfl rfl
  | failed e fails last ending time count =>
    have hstopped : stoppedBy stop a.time = false := time ▸ stoppedBy_eq_false fails.unstopped
    simp only [ending]
    exact .unattached e fails last rfl (by rw [Attached.phases, ending]) rfl hstopped
  | attached k attaches ending time count =>
    have hphases : a.phases = [.attaching, .ready] := by rw [Attached.phases, ending]
    simp only [ending]
    by_cases hbind : canBind address = true
    · rw [if_pos hbind]
      have hwatched := watch_tells policy (probes.after (k + 1)) stop overtakes
        (attemptEnds policy probes k) fuel
      have hends := (hreturns ending hbind).2
      unfold serve
      rw [time, count] at hends ⊢
      generalize watch policy _ stop fuel _ overtakes = w at hwatched hends ⊢
      cases hwatched with
      | lost loses wending =>
        simp only [wending, Watched.phases, hphases]
        exact .lost k attaches hbind loses rfl rfl rfl rfl
      | stopped s stops keeps wending wtime =>
        simp only [wending, Watched.phases, hphases]
        exact .stoppedServing s k attaches hbind keeps stops wtime rfl rfl rfl rfl
      | watching wending => exact absurd wending hends
    · rw [if_neg hbind]
      have hstopped : stoppedBy stop a.time = false := time ▸ stoppedBy_eq_false attaches.unstopped
      exact .refused k attaches (Bool.eq_false_iff.2 hbind) rfl hphases rfl hstopped count

/-- **A service reports exactly what happened to its link**, whenever it returns and the shutdown
does not come just as a probe ends that may attach the link, and whichever ticks overtake a shutdown
that is seen with them.  It fails to attach exactly if the attempts are spent before any shutdown,
it fails to bind exactly if a probe succeeds before that and the address is refused, and it reports
its link as lost exactly if the address is bound and enough probes in a row fail before the watch
sees a shutdown.  Otherwise it was asked to stop. -/
theorem run_reports
    (happart : ∀ s ∈ stop, ∀ n, ReachesAttempt policy probes n → s ≠ attemptEnds policy probes n)
    (hreturns : Returns policy probes stop fuel canBind address overtakes) :
    let o := run policy probes stop fuel canBind address overtakes
    ((∃ n e, o.failure = some (.supervision (.attachFailed n e))) ↔
        FailsToAttach policy probes stop) ∧
      ((∃ a, o.failure = some (.bind a)) ↔
        canBind address = false ∧ ∃ k, AttachesWith policy probes stop k) ∧
      ((∃ n, o.failure = some (.supervision (.linkLost n))) ↔
        canBind address = true ∧
          ∃ k, AttachesWith policy probes stop k ∧ LosesLinkAfter policy probes stop overtakes k) ∧
      o.Accounts policy probes stop address ∧
      o.phases ∈ [[.attaching], [.attaching, .ready], [.attaching, .lost],
        [.attaching, .ready, .lost]] := by
  intro o
  have htells : o.Tells policy probes stop overtakes (canBind address) address :=
    run_tells happart hreturns
  have haccounts := htells.accounts
  generalize o = o at htells haccounts
  cases htells with
  | unattached e fails last failure phases bound stopped =>
    have hnone : ∀ k, ¬ AttachesWith policy probes stop k := fun k hk => hk.not_failsToAttach fails
    simp [failure, phases, fails, hnone, haccounts]
  | refused k attaches refuses failure phases bound stopped count =>
    have hsome : ∃ k, AttachesWith policy probes stop k := ⟨k, attaches⟩
    simp [failure, phases, refuses, hsome, attaches.not_failsToAttach, haccounts]
  | lost k attaches accepts loses failure phases bound stopped =>
    have hsome : ∃ k, AttachesWith policy probes stop k ∧
        LosesLinkAfter policy probes stop overtakes k := ⟨k, attaches, loses⟩
    simp [failure, phases, accepts, hsome, attaches.not_failsToAttach, haccounts]
  | stoppedAttaching unattached unfailed stops failure phases bound stopped =>
    simp [failure, phases, unattached, unfailed, haccounts]
  | stoppedServing s k attaches accepts keeps stops time failure phases bound stopped =>
    have hkept : ∀ k', AttachesWith policy probes stop k' →
        ¬ LosesLinkAfter policy probes stop overtakes k' := by
      intro k' hk'
      obtain rfl := attaches.unique hk'
      exact keeps
    simpa [failure, phases, accepts, attaches.not_failsToAttach, haccounts] using hkept

/-- The shutdown comes during a probe that fails and outlasts the next tick.  If that tick overtakes
it, the probe made then fails as well, and the link is lost; if not, the service was asked to
stop. -/
theorem run_reports_overtaken_shutdown :
    let e : LinkError := .down "eth0".toList "down".toList
    let policy : Policy := ⟨1, 10, 10, 2⟩
    let probes := Probes.ofList [⟨3, none⟩, ⟨30, some e⟩] ⟨0, some e⟩
    let address : Endpoint := .v4 ⟨127, 0, 0, 1⟩ 80
    let overtakes := fun n => n == 1
    let o := run policy probes (some 25) 9 (fun _ => true) address overtakes
    let o' := run policy probes (some 25) 9 (fun _ => true) address
    (∀ s ∈ some 25, ∀ n, ReachesAttempt policy probes n → s ≠ attemptEnds policy probes n) ∧
      Returns policy probes (some 25) 9 (fun _ => true) address overtakes ∧
      (o.failure = some (.supervision (.linkLost 2)) ∧ o.time = 43) ∧
      (∃ k, AttachesWith policy probes (some 25) k ∧
        LosesLinkAfter policy probes (some 25) overtakes k) ∧
      o.Accounts policy probes (some 25) address ∧
      (o'.failure = none ∧ o'.phase = .ready ∧ o'.time = 43) := by
  intro e policy probes address overtakes o o'
  have happart : ∀ s ∈ some 25, ∀ n, ReachesAttempt policy probes n →
      s ≠ attemptEnds policy probes n := by
    intro s hs n hreached
    obtain rfl := Option.mem_some.1 hs
    have hn : n < 1 := hreached.allowed
    interval_cases n
    decide
  have hreturns : Returns policy probes (some 25) 9 (fun _ => true) address overtakes :=
    fun _ _ => ⟨by decide, by decide +kernel⟩
  have hfailure : o.failure = some (.supervision (.linkLost 2)) := by decide +kernel
  obtain ⟨-, -, hlost, haccounts, -⟩ := run_reports happart hreturns
  exact ⟨happart, hreturns, ⟨hfailure, by decide +kernel⟩, (hlost.1 ⟨2, hfailure⟩).2, haccounts,
    by decide +kernel⟩

/-- **A service with a proper interval that is asked to stop returns**, if there is a tick that does
not overtake the shutdown after a probe for each millisecond until then. -/
theorem returns_of_stop {s n : Nat} (hinterval : 0 < policy.checkInterval) (hn : s ≤ n)
    (hnot : overtakes n = false) (hfuel : n < fuel) :
    Returns policy probes (some s) fuel canBind address overtakes :=
  fun _ _ => ⟨hinterval, (seesStop_of_le hinterval hn hnot).ends hfuel⟩

/-- Once a service has returned, it does not matter how many more probes it could have made. -/
theorem run_of_returns {fuel' : Nat} (hle : fuel ≤ fuel')
    (h : Returns policy probes stop fuel canBind address overtakes) :
    run policy probes stop fuel' canBind address overtakes =
      run policy probes stop fuel canBind address overtakes := by
  unfold Returns at h
  unfold run
  generalize attach policy probes stop 0 = a at h ⊢
  cases hending : a.ending with
  | interrupted | failed e => simp only [hending]
  | attached =>
    simp only [hending]
    by_cases hbind : canBind address = true
    · rw [if_pos hbind, if_pos hbind, serve, serve, watch_of_ends hle (h hending hbind).2]
    · rw [if_neg hbind, if_neg hbind]

end TriggerLatch.Service
