import Mathlib.Algebra.BigOperators.Group.Finset.Basic
import TriggerLatch.Proofs.Supervision.Attaching

/-!
# What attaching a link takes

An attempt to attach a link that no shutdown cuts short makes as many probes as it needs, up to what
the policy allows, and pauses between them.  **It returns with the first probe that succeeds or the
last one there is, and takes the time of its probes and one pause less than it makes probes**
(`attach_spends_budget`).  What it says on the way is known notice by notice.

Probes are counted from zero: probe `k` has `k` others before it and is attempt `k + 1`.
-/

namespace TriggerLatch.Supervision

variable {policy : Policy} {probes : Probes} {now : Nat}

/-- Probe `k` is the first that succeeds. -/
structure FirstSuccess (probes : Probes) (k : Nat) : Prop where
  succeeds : (probes k).failure = none
  failed : ∀ i < k, (probes i).failure ≠ none

/-- The time that probe `k` and those before it take, with the pauses between them. -/
def spent (policy : Policy) (probes : Probes) (k : Nat) : Nat :=
  ∑ i ∈ Finset.range (k + 1), (probes i).took + k * policy.attachRetry

/-- What is said about the failures among the first `k` probes, if others follow. -/
def retriesTold (policy : Policy) (probes : Probes) (k : Nat) : List Notice :=
  (List.range k).filterMap fun i =>
    (probes i).failure.map fun e => .linkNotReady (i + 1) policy.attempts e

namespace Attached

/-- The link is attached with probe `k`. -/
structure SucceedsWith (policy : Policy) (probes : Probes) (now k : Nat) (a : Attached) :
    Prop where
  result : a.result? policy = some (.ok ())
  count : a.probes = k + 1
  phases : a.phases = [.attaching, .ready]
  time : a.time = now + spent policy probes k
  notices : a.notices = retriesTold policy probes k ++ [.linkAttached (k + 1)]

/-- The attempts are spent, and `e` is how the last of them failed. -/
structure GivesUpWith (policy : Policy) (probes : Probes) (now : Nat) (e : LinkError)
    (a : Attached) : Prop where
  result : a.result? policy = some (.error (.attachFailed policy.attempts e))
  last : (probes (policy.attempts - 1)).failure = some e
  count : a.probes = policy.attempts
  phases : a.phases = [.attaching, .lost]
  time : a.time = now + spent policy probes (policy.attempts - 1)
  notices : a.notices =
    retriesTold policy probes (policy.attempts - 1) ++ [.attachFailed policy.attempts e]

/-- Neither the probes made nor a number of an attempt that is told go beyond `limit`. -/
structure CountsWithin (limit : Nat) (a : Attached) : Prop where
  made : a.probes ≤ limit
  retried : ∀ attempt most e, .linkNotReady attempt most e ∈ a.notices → attempt ≤ limit
  attached : ∀ attempt, .linkAttached attempt ∈ a.notices → attempt ≤ limit

end Attached

/-! ### One probe -/

variable {left n : Nat} {e : LinkError}

theorem attachFrom_of_success (h : (probes n).failure = none) :
    attachFrom policy probes none left n now =
      ⟨.attached, now + (probes n).took, n + 1, [.linkAttached (n + 1)]⟩ := by
  unfold attachFrom
  simp only [stopsBefore, Option.any_none, Bool.false_eq_true, if_false, h]

theorem attachFrom_zero_of_failure (h : (probes n).failure = some e) :
    attachFrom policy probes none 0 n now =
      ⟨.failed e, now + (probes n).took, n + 1, [.attachFailed policy.attempts e]⟩ := by
  unfold attachFrom
  simp only [stopsBefore, Option.any_none, Bool.false_eq_true, if_false, h]

theorem attachFrom_succ_of_failure (h : (probes n).failure = some e) :
    attachFrom policy probes none (left + 1) n now =
      (attachFrom policy probes none left (n + 1)
        (now + (probes n).took + policy.attachRetry)).announce
          (.linkNotReady (n + 1) policy.attempts e) := by
  conv_lhs => unfold attachFrom
  simp only [stopsBefore, Option.any_none, Bool.false_eq_true, if_false, h]

/-! ### Time -/

theorem attemptBegins_eq_sum (policy : Policy) (probes : Probes) (n : Nat) :
    attemptBegins policy probes n =
      ∑ i ∈ Finset.range n, (probes i).took + n * policy.attachRetry := by
  induction n with
  | zero => simp [attemptBegins]
  | succ n ih =>
    rw [attemptBegins, ih, Finset.sum_range_succ, Nat.succ_mul]
    omega

theorem attemptEnds_eq_spent (policy : Policy) (probes : Probes) (k : Nat) :
    attemptEnds policy probes k = spent policy probes k := by
  rw [attemptEnds, attemptBegins_eq_sum, spent, Finset.sum_range_succ]
  omega

/-- The same, begun later. -/
def Attached.later (delay : Nat) (a : Attached) : Attached := { a with time := delay + a.time }

/-- **It does not matter when a link is attached**, if there is no shutdown. -/
theorem attachFrom_later (policy : Policy) (probes : Probes) (delay left n now : Nat) :
    attachFrom policy probes none left n (delay + now) =
      (attachFrom policy probes none left n now).later delay := by
  induction left generalizing n now with
  | zero =>
    cases h : (probes n).failure with
    | none =>
      rw [attachFrom_of_success h, attachFrom_of_success h, Nat.add_assoc]
      rfl
    | some e =>
      rw [attachFrom_zero_of_failure h, attachFrom_zero_of_failure h, Nat.add_assoc]
      rfl
  | succ left ih =>
    cases h : (probes n).failure with
    | none =>
      rw [attachFrom_of_success h, attachFrom_of_success h, Nat.add_assoc]
      rfl
    | some e =>
      rw [attachFrom_succ_of_failure h, attachFrom_succ_of_failure h, Nat.add_assoc,
        Nat.add_assoc, ih, Nat.add_assoc]
      rfl

/-! ### Notices -/

theorem retriesTold_succ (h : (probes n).failure = some e) :
    retriesTold policy probes (n + 1) =
      retriesTold policy probes n ++ [.linkNotReady (n + 1) policy.attempts e] := by
  simp [retriesTold, List.range_succ, h]

theorem attempt_le_of_mem_retriesTold {k attempt most : Nat}
    (h : .linkNotReady attempt most e ∈ retriesTold policy probes k) : attempt ≤ k := by
  obtain ⟨i, hi, hn⟩ := List.mem_filterMap.1 h
  obtain ⟨e', -, he⟩ := Option.map_eq_some_iff.1 hn
  obtain ⟨rfl, -, -⟩ := Notice.linkNotReady.inj he
  exact List.mem_range.1 hi

theorem not_linkAttached_mem_retriesTold {k attempt : Nat} :
    .linkAttached attempt ∉ retriesTold policy probes k := by
  intro h
  obtain ⟨i, -, hn⟩ := List.mem_filterMap.1 h
  obtain ⟨e, -, he⟩ := Option.map_eq_some_iff.1 hn
  cases he

/-- What is said last. -/
def Attached.closing (policy : Policy) (a : Attached) : List Notice :=
  match a.ending with
  | .attached => [.linkAttached a.probes]
  | .failed e => [.attachFailed policy.attempts e]
  | .interrupted => []

/-- What is said from probe `n` on completes what was said before. -/
theorem retriesTold_append_notices (policy : Policy) (probes : Probes) (left n now : Nat) :
    retriesTold policy probes n ++ (attachFrom policy probes none left n now).notices =
      retriesTold policy probes ((attachFrom policy probes none left n now).probes - 1) ++
        (attachFrom policy probes none left n now).closing policy := by
  induction left generalizing n now with
  | zero =>
    cases h : (probes n).failure with
    | none =>
      rw [attachFrom_of_success h]
      rfl
    | some e =>
      rw [attachFrom_zero_of_failure h]
      rfl
  | succ left ih =>
    cases h : (probes n).failure with
    | none =>
      rw [attachFrom_of_success h]
      rfl
    | some e =>
      -- this failure is told before the rest is
      have hrest := ih (n + 1) (now + (probes n).took + policy.attachRetry)
      rw [retriesTold_succ h, List.append_assoc] at hrest
      rw [attachFrom_succ_of_failure h]
      exact hrest

/-! ### The budget -/

theorem not_exists_firstSuccess_iff {n : Nat} :
    (¬ ∃ k < n, FirstSuccess probes k) ↔ ∀ i < n, (probes i).failure ≠ none := by
  constructor
  · intro h i
    induction i using Nat.strongRecOn with
    | ind i ih => exact fun hi hsucceeds => h ⟨i, hi, hsucceeds, fun j hj => ih j hj (by omega)⟩
  · rintro h ⟨k, hk, hfirst⟩
    exact h k hk hfirst.succeeds

theorem attach_later (policy : Policy) (probes : Probes) (now : Nat) :
    attach policy probes none now = (attach policy probes none 0).later now :=
  attachFrom_later policy probes now _ 0 0

theorem attach_notices (policy : Policy) (probes : Probes) (now : Nat) :
    (attach policy probes none now).notices =
      retriesTold policy probes ((attach policy probes none now).probes - 1) ++
        (attach policy probes none now).closing policy :=
  retriesTold_append_notices policy probes _ 0 now

theorem attach_tells_unstopped (policy : Policy) (probes : Probes) :
    (attach policy probes none 0).Tells policy probes none :=
  attach_tells nofun

theorem FirstSuccess.succeedsWith {k : Nat} (h : FirstSuccess probes k)
    (hk : k < policy.attempts) (now : Nat) :
    (attach policy probes none now).SucceedsWith policy probes now k := by
  have hattaches : AttachesWith policy probes none k := ⟨⟨hk, h.failed⟩, h.succeeds, nofun⟩
  have hnotices := attach_notices policy probes now
  rw [attach_later] at hnotices ⊢
  cases attach_tells_unstopped policy probes with
  | attached k' attaches ending time count =>
    obtain rfl := hattaches.unique attaches
    rw [attemptEnds_eq_spent] at time
    refine ⟨?_, count, ?_, congrArg (now + ·) time, ?_⟩
    · simp only [Attached.result?, Attached.later, ending]
    · simp only [Attached.phases, Attached.later, ending]
    · simpa [Attached.closing, Attached.later, ending, count] using hnotices
  | failed e fails last ending time count => exact absurd fails hattaches.not_failsToAttach
  | interrupted unattached unfailed ending time => exact absurd hattaches (unattached k)

theorem givesUpWith_of_failed (h : ∀ i < policy.attempts, (probes i).failure ≠ none) (now : Nat) :
    ∃ e, (attach policy probes none now).GivesUpWith policy probes now e := by
  have hfails : FailsToAttach policy probes none := ⟨h, nofun⟩
  have hnotices := attach_notices policy probes now
  rw [attach_later] at hnotices ⊢
  cases attach_tells_unstopped policy probes with
  | attached k attaches ending time count => exact absurd hfails attaches.not_failsToAttach
  | failed e fails last ending time count =>
    rw [attemptEnds_eq_spent] at time
    refine ⟨e, ?_, last, count, ?_, congrArg (now + ·) time, ?_⟩
    · simp only [Attached.result?, Attached.later, ending]
    · simp only [Attached.phases, Attached.later, ending]
    · simpa [Attached.closing, Attached.later, ending, count] using hnotices
  | interrupted unattached unfailed ending time => exact absurd hfails unfailed

theorem Attached.SucceedsWith.countsWithin {k : Nat} {a : Attached}
    (h : a.SucceedsWith policy probes now k) (hk : k < policy.attempts) :
    a.CountsWithin policy.attempts := by
  refine ⟨by rw [h.count]; exact hk, fun attempt most e hmem => ?_, fun attempt hmem => ?_⟩ <;>
    rw [h.notices, List.mem_append] at hmem
  · rcases hmem with hmem | hmem
    · exact Nat.le_trans (attempt_le_of_mem_retriesTold hmem) (Nat.le_of_lt hk)
    · simp at hmem
  · rcases hmem with hmem | hmem
    · exact absurd hmem not_linkAttached_mem_retriesTold
    · obtain rfl : attempt = k + 1 := by simpa using hmem
      exact hk

theorem Attached.GivesUpWith.countsWithin {e : LinkError} {a : Attached}
    (h : a.GivesUpWith policy probes now e) : a.CountsWithin policy.attempts := by
  refine ⟨Nat.le_of_eq h.count, fun attempt most e' hmem => ?_, fun attempt hmem => ?_⟩ <;>
    rw [h.notices, List.mem_append] at hmem
  · rcases hmem with hmem | hmem
    · exact Nat.le_trans (attempt_le_of_mem_retriesTold hmem) (Nat.sub_le _ _)
    · simp at hmem
  · rcases hmem with hmem | hmem
    · exact absurd hmem not_linkAttached_mem_retriesTold
    · simp at hmem

/-- **Attaching spends exactly its budget.**  If one of the probes that the policy allows succeeds,
the first of them attaches the link, and no probe is made after it; otherwise all of them are made,
and what is reported is how the last one failed.  Either way there is a pause between two probes and
none after the last, and no count of attempts goes beyond what is allowed. -/
theorem attach_spends_budget (policy : Policy) (probes : Probes) (now : Nat) :
    (∀ k < policy.attempts, FirstSuccess probes k →
        (attach policy probes none now).SucceedsWith policy probes now k) ∧
      ((¬ ∃ k < policy.attempts, FirstSuccess probes k) →
        ∃ e, (attach policy probes none now).GivesUpWith policy probes now e) ∧
      (attach policy probes none now).CountsWithin policy.attempts ∧
      (policy.attachAttempts < UInt32.size → policy.attempts < UInt32.size) := by
  refine ⟨fun k hk hfirst => hfirst.succeedsWith hk now,
    fun hnone => givesUpWith_of_failed (not_exists_firstSuccess_iff.1 hnone) now, ?_,
    fun hu32 => Nat.max_lt.2 ⟨hu32, by decide⟩⟩
  by_cases hsuccess : ∃ k < policy.attempts, FirstSuccess probes k
  · obtain ⟨k, hk, hfirst⟩ := hsuccess
    exact (hfirst.succeedsWith hk now).countsWithin hk
  · obtain ⟨e, he⟩ := givesUpWith_of_failed (not_exists_firstSuccess_iff.1 hsuccess) now
    exact he.countsWithin

/-- A link that comes up with the third of its probes is attached if three are allowed.  With a
budget of zero one probe is made, and its failure is final. -/
theorem attach_spends_budget_third_probe :
    let down : LinkError := .down "eth0".toList "down".toList
    let probes := Probes.ofList [⟨4, some down⟩, ⟨0, some down⟩] ⟨7, none⟩
    let a := attach ⟨3, 100, 20, 2⟩ probes none 1000
    let b := attach ⟨0, 100, 20, 2⟩ probes none 1000
    (FirstSuccess probes 2 ∧ a.SucceedsWith ⟨3, 100, 20, 2⟩ probes 1000 2 ∧ a.time = 1211) ∧
      (∃ e, b.GivesUpWith ⟨0, 100, 20, 2⟩ probes 1000 e) ∧ b.time = 1004 := by
  intro down probes a b
  have hfirst : FirstSuccess probes 2 := ⟨rfl, by decide⟩
  have hnone : ¬ ∃ k < Policy.attempts ⟨0, 100, 20, 2⟩, FirstSuccess probes k := by
    rintro ⟨k, hk, hsuccess⟩
    obtain rfl : k = 0 := Nat.lt_one_iff.1 hk
    cases hsuccess.succeeds
  refine ⟨⟨hfirst, ?_, by decide +kernel⟩, ?_, by decide +kernel⟩
  · exact (attach_spends_budget ⟨3, 100, 20, 2⟩ probes 1000).1 2 (by decide) hfirst
  · exact (attach_spends_budget ⟨0, 100, 20, 2⟩ probes 1000).2.1 hnone

end TriggerLatch.Supervision
