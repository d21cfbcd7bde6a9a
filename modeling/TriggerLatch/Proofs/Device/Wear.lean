import TriggerLatch.Proofs.Device.Tasks
import TriggerLatch.Proofs.Latch.Wear

/-!
# Writes of a device are bounded by real changes

What happens to a device is a row of events: commands, what a task does when it looks, and the
passing of time.  An `Account` goes along with such a row.  It counts the changes, which are the
edges that latch the trigger and the resets that find the latch anything but idle and clean, and it
counts the saves that the store accepts.

**The accepted saves, and one more if the latch is dirty, are never more than the changes**
(`Account.accepted_le_changes`), whatever reaches the latch during the saves, however they end, and
however often the device is restarted.  So a line that keeps falling on a latched trigger, and
resets of an idle latch, write nothing.
-/

namespace TriggerLatch

/-- The task has something to do at this time. -/
def Task.isDue (now : Nat) : Task → Bool
  | .due time => time ≤ now
  | _ => false

theorem Task.isDue_iff {now : Nat} {task : Task} :
    task.isDue now = true ↔ ∃ time, task = .due time ∧ time ≤ now := by
  cases task <;> simp [isDue]

namespace Device

/-- One thing that happens to a device. -/
inductive Event where
  | command (c : Command)
  /-- The flusher looks whether it is due. -/
  | flusher
  /-- The poller of the line looks whether it is due. -/
  | line
  | indicator
  /-- A millisecond passes. -/
  | clock

namespace Event

/-- The event takes no time, except for a millisecond of the clock, and reaches the store through
the latch alone. -/
def isStep : Event → Bool
  | command .reboot => true
  | command c => c.isPrompt
  | flusher | line | indicator | clock => true

/-- The events of a millisecond that passes while the device waits. -/
def ofTick : List Event := [flusher, line, indicator, clock]

end Event

/-- What is left of a device by an event. -/
def happen (d : Device) : Event → Device
  | .command c => (d.perform c).2
  | .flusher => d.settleFlusher
  | .line => d.settleLine
  | .indicator => d.settleIndicator
  | .clock => d.advance

/-- What is left of it by a row of events. -/
def happenAll (d : Device) (es : List Event) : Device := es.foldl happen d

/-- The flusher is due. -/
def flushesNow (d : Device) : Bool :=
  d.flusher.any fun f => (f.task.started f.period d.now).isDue d.now

/-- The line is due to be sampled, and falls. -/
def fallsNow (d : Device) : Bool :=
  d.line.any fun l =>
    (l.task.started l.period d.now).isDue d.now && l.sampler.firesOn (.take d.files l.path)

/-- The call of the latch that an event is, if it is one. -/
def callOf (d : Device) : Event → Option Call
  | .command .edge | .command .fire => some .edge
  | .command .reset => some .reset
  | .command .flush | .command .flushOnce => some .flush
  | .command (.request r) => if r.asksForReset then some .reset else none
  | .flusher => if d.flushesNow then some .flush else none
  | .line => if d.fallsNow then some .edge else none
  | _ => none

variable {d : Device} {e : Event} {c : Call}

theorem happenAll_waitUntil (d : Device) (time : Nat) :
    d.happenAll (List.replicate (time - d.now) Event.ofTick).flatten =
      (d.perform (.waitUntil time)).2 := by
  have hwait : ∀ n, d.happenAll (List.replicate n Event.ofTick).flatten = d.wait n := by
    intro n
    induction n with
    | zero => rfl
    | succ n ih =>
      rw [List.replicate_succ', List.flatten_append, happenAll, List.foldl_append]
      rw [happenAll] at ih
      rw [ih]
      rfl
  exact hwait _

/-! ### Events as calls -/

/-- **The flusher flushes the latch exactly if it is due.** -/
theorem settleFlusher_latch (d : Device) :
    d.settleFlusher.panel.latch =
      if d.flushesNow then d.panel.latch.flush.2 else d.panel.latch := by
  cases hf : d.flusher with
  | none =>
    have hnow : d.flushesNow = false := by rw [flushesNow, hf]; rfl
    simp only [settleFlusher, hf, hnow, Bool.false_eq_true, if_false]
  | some f =>
    have hnow : d.flushesNow = (f.task.started f.period d.now).isDue d.now := by
      rw [flushesNow, hf]
      rfl
    by_cases hdue : (f.task.started f.period d.now).isDue d.now = true
    · obtain ⟨time, ht, hle⟩ := Task.isDue_iff.1 hdue
      obtain ⟨ns, h⟩ := settleFlusher_of_due hf ht hle
      rw [hnow, if_pos hdue, h]
      exact (d.panel.say ns).flushOnce_latch
    · obtain ⟨ns, h⟩ := settleFlusher_of_not_due hf fun time ht =>
        Nat.lt_of_not_le fun hle => hdue (Task.isDue_iff.2 ⟨time, ht, hle⟩)
      rw [hnow, if_neg hdue, h]
      rfl

/-- **The line is an edge exactly if it is due and falls.** -/
theorem settleLine_latch (d : Device) :
    d.settleLine.panel.latch =
      if d.fallsNow then d.panel.latch.recordEdge.2 else d.panel.latch := by
  cases hl : d.line with
  | none =>
    have hnow : d.fallsNow = false := by rw [fallsNow, hl]; rfl
    simp only [settleLine, hl, hnow, Bool.false_eq_true, if_false]
  | some l =>
    have hnow : d.fallsNow = ((l.task.started l.period d.now).isDue d.now &&
        l.sampler.firesOn (.take d.files l.path)) := by
      rw [fallsNow, hl]
      rfl
    by_cases hdue : (l.task.started l.period d.now).isDue d.now = true
    · obtain ⟨time, ht, hle⟩ := Task.isDue_iff.1 hdue
      rw [hnow, hdue, Bool.true_and, settleLine_of_due hl ht hle]
      exact Panel.fireIf_latch _ _
    · rw [hnow, Bool.eq_false_iff.2 hdue, Bool.false_and, settleLine_of_not_due hl fun time ht =>
        Nat.lt_of_not_le fun hle => hdue (Task.isDue_iff.2 ⟨time, ht, hle⟩)]
      rfl

/-- **An event that is a call of the latch is nothing else to it.** -/
theorem latch_happen_of_call (h : d.callOf e = some c) :
    (d.happen e).panel.latch = d.panel.latch.call c := by
  cases e with
  | flusher =>
    simp only [callOf, Option.ite_none_right_eq_some, Option.some.injEq] at h
    obtain ⟨hdue, rfl⟩ := h
    rw [happen, settleFlusher_latch, if_pos hdue]
    rfl
  | line =>
    simp only [callOf, Option.ite_none_right_eq_some, Option.some.injEq] at h
    obtain ⟨hdue, rfl⟩ := h
    rw [happen, settleLine_latch, if_pos hdue]
    rfl
  | indicator | clock => cases h
  | command k =>
    cases k with
    | edge | reset | flush =>
      cases h
      rfl
    | fire =>
      cases h
      exact d.panel.fire_spec.2
    | flushOnce =>
      cases h
      exact d.panel.flushOnce_latch
    | request r =>
      simp only [callOf, Option.ite_none_right_eq_some, Option.some.injEq] at h
      obtain ⟨hasks, rfl⟩ := h
      show (Surface.handle r d.panel).2.latch = d.panel.latch.reset.2
      rw [Surface.handle_latch, if_pos hasks]
    | _ => cases h

theorem leftAlone_happen (he : e.isStep = true) (h : d.callOf e = none) :
    e = .command .reboot ∨ d.panel.latch.LeftAlone (d.happen e).panel.latch := by
  cases e with
  | flusher =>
    have hdue : d.flushesNow = false := by simpa [callOf] using h
    refine .inr ?_
    rw [happen, settleFlusher_latch, hdue]
    exact .refl _
  | line =>
    have hdue : d.fallsNow = false := by simpa [callOf] using h
    refine .inr ?_
    rw [happen, settleLine_latch, hdue]
    exact .refl _
  | indicator =>
    obtain ⟨⟨files, hfiles⟩, -⟩ := d.settleIndicator_rest
    refine .inr ?_
    rw [happen, hfiles]
    exact ⟨rfl, rfl, rfl⟩
  | clock => exact .inr d.leftAlone_advance
  | command k =>
    cases k with
    | edge | fire | reset | flush | flushOnce => cases h
    | save | waitUntil => cases he
    | reboot => exact .inl rfl
    | request r =>
      have hasks : ¬ r.asksForReset := by simpa [callOf] using h
      refine .inr ?_
      show d.panel.latch.LeftAlone (Surface.handle r d.panel).2.latch
      rw [Surface.handle_latch, if_neg hasks]
      exact .refl _
    | _ => exact .inr (d.leftAlone_perform rfl)

/-- **Every attempt to save is made by a call that finds the latch dirty.** -/
theorem saves_happen (he : e.isStep = true) :
    ∃ xs, (d.happen e).panel.latch.backing.saves = d.panel.latch.backing.saves ++ xs ∧
      (xs ≠ [] → ∃ c, d.callOf e = some c ∧ (d.panel.latch.cell.foundBy c).dirty = true) := by
  cases hc : d.callOf e with
  | some c =>
    obtain ⟨xs, hxs, hfound⟩ := d.panel.latch.saves_call c
    rw [latch_happen_of_call hc]
    exact ⟨xs, hxs, fun hne => ⟨c, rfl, hfound hne⟩⟩
  | none =>
    refine ⟨[], ?_, fun hne => absurd rfl hne⟩
    rw [List.append_nil]
    rcases leftAlone_happen he hc with rfl | halone
    · rfl
    · exact halone.saves

end Device

/-! ### Accounts -/

/-- A device, and what has been counted of it. -/
structure Account where
  device : Device
  /-- Edges that latched the trigger, and resets that found the latch not idle and clean. -/
  changes : Nat
  /-- Saves that the store has accepted. -/
  accepted : Nat

namespace Account

/-- Nothing has been counted yet. -/
def start (d : Device) : Account := ⟨d, 0, 0⟩

/-- The latch. -/
def latch (x : Account) : Latch := x.device.panel.latch

/-- One event more; what counts is the call of the latch that it is. -/
def step (x : Account) (e : Device.Event) : Account :=
  match x.device.callOf e with
  | none => { x with device := x.device.happen e }
  | some c =>
    ⟨x.device.happen e, x.changes + x.latch.changesBy c, x.accepted + x.latch.acceptedBy c⟩

/-- A row of events. -/
def run (x : Account) (es : List Device.Event) : Account := es.foldl step x

variable {x y z : Account}

theorem device_run (x : Account) (es : List Device.Event) :
    (x.run es).device = x.device.happenAll es := by
  induction es generalizing x with
  | nil => rfl
  | cons e es ih =>
    have hstep : (x.step e).device = x.device.happen e := by
      unfold step
      split <;> rfl
    exact (ih _).trans (congrArg (Device.happenAll · es) hstep)

/-- From `x` to `y`, each accepted save is paid for by a change, or by the dirt that was there; and
a clean latch that nothing changes stays clean and attempts no save. -/
structure Pays (x y : Account) : Prop where
  accepted_le : y.accepted + y.latch.cell.dirty.toNat + x.changes ≤
    x.accepted + x.latch.cell.dirty.toNat + y.changes
  changes_le : x.changes ≤ y.changes
  unchanged : x.latch.cell.dirty = false → y.changes = x.changes →
    y.latch.cell.dirty = false ∧ y.latch.backing.saves = x.latch.backing.saves

theorem Pays.refl (x : Account) : x.Pays x := ⟨Nat.le_refl _, Nat.le_refl _, fun h _ => ⟨h, rfl⟩⟩

theorem Pays.trans (h : x.Pays y) (h' : y.Pays z) : x.Pays z where
  accepted_le := by
    have hxy := h.accepted_le
    have hyz := h'.accepted_le
    omega
  changes_le := Nat.le_trans h.changes_le h'.changes_le
  unchanged hclean hsame := by
    have hxy := h.changes_le
    have hyz := h'.changes_le
    obtain ⟨hy, hsaves⟩ := h.unchanged hclean (by omega)
    obtain ⟨hz, hsaves'⟩ := h'.unchanged hy (by omega)
    exact ⟨hz, hsaves'.trans hsaves⟩

/-- **Every event pays for itself.** -/
theorem pays_step (x : Account) {e : Device.Event} (he : e.isStep = true) : x.Pays (x.step e) := by
  unfold step
  cases hc : x.device.callOf e with
  | some c =>
    have hlatch : (x.device.happen e).panel.latch = x.latch.call c :=
      Device.latch_happen_of_call hc
    have hcall := x.latch.accepted_call c
    refine ⟨?_, Nat.le_add_right .., ?_⟩
    · simp only [latch] at hlatch hcall ⊢
      rw [hlatch]
      omega
    · intro hclean hsame
      have hnone : x.latch.changesBy c = 0 := Nat.add_eq_left.1 hsame
      have hzero : (x.latch.call c).cell.dirty.toNat = 0 := by
        rw [hclean, hnone] at hcall
        simp only [Bool.toNat_false] at hcall
        omega
      simp only [latch] at hlatch ⊢
      rw [hlatch]
      exact ⟨Bool.toNat_eq_zero.1 hzero, Latch.saves_call_of_unchanged hclean hnone⟩
  | none =>
    rcases Device.leftAlone_happen he hc with rfl | halone
    · -- a restarted latch is clean
      refine ⟨?_, Nat.le_refl _, fun _ _ => ⟨rfl, rfl⟩⟩
      have hclean : (x.device.happen (.command .reboot)).panel.latch.cell.dirty = false := rfl
      simp only [latch, hclean, Bool.toNat_false]
      omega
    · have hcell : (x.device.happen e).panel.latch.cell = x.latch.cell := halone.cell
      refine ⟨?_, Nat.le_refl _, fun hclean _ => ⟨hcell ▸ hclean, halone.saves⟩⟩
      simp only [latch] at hcell ⊢
      exact Nat.le_of_eq (by rw [hcell])

theorem pays_run (x : Account) {es : List Device.Event} (hes : ∀ e ∈ es, e.isStep = true) :
    x.Pays (x.run es) := by
  induction es generalizing x with
  | nil => exact .refl x
  | cons e es ih =>
    have hstep := x.pays_step (hes e List.mem_cons_self)
    exact hstep.trans (ih _ fun e' he' => hes e' (List.mem_cons_of_mem _ he'))

/-- **Writes are bounded by real changes.**  After any events, the saves accepted so far, and one
more if the latch is dirty, are at most the changes so far; every attempt to save, in whatever
happens next, is made by a call that finds the latch dirty; and as long as nothing changes a clean
latch, no save is attempted at all. -/
theorem accepted_le_changes (b : Backing) (flusher : Option Flusher) (line : Option LinePoller)
    (indicator : Option Indicator) {es : List Device.Event} (hes : ∀ e ∈ es, e.isStep = true) :
    let d := Device.seed b flusher line indicator
    let x := (start d).run es
    x.device = d.happenAll es ∧
      x.accepted + x.latch.cell.dirty.toNat ≤ x.changes ∧
      (∀ e, e.isStep = true →
        ∃ xs, (x.step e).latch.backing.saves = x.latch.backing.saves ++ xs ∧
          (xs ≠ [] → ∃ c, x.device.callOf e = some c ∧
            (x.latch.cell.foundBy c).dirty = true)) ∧
      ∀ fs, (∀ e ∈ fs, e.isStep = true) → x.latch.cell.dirty = false →
        (x.run fs).changes = x.changes →
          (x.run fs).latch.backing.saves = x.latch.backing.saves := by
  intro d x
  refine ⟨device_run _ es, ?_, ?_, ?_⟩
  · have hpaid := ((start d).pays_run hes).accepted_le
    have hclean : (start d).latch.cell.dirty = false := rfl
    rw [hclean] at hpaid
    simp only [start, Bool.toNat_false, Nat.add_zero, Nat.zero_add] at hpaid
    exact hpaid
  · intro e he
    have hstep : (x.step e).device = x.device.happen e := device_run x [e]
    rw [latch, hstep]
    exact Device.saves_happen he
  · intro fs hfs hclean hsame
    exact ((x.pays_run hfs).unchanged hclean hsame).2

/-- The first save is superseded by a reset, and the second one panics while an edge comes; the next
flush writes that, and after it a line that goes on firing writes nothing. -/
theorem accepted_le_changes_superseded_and_panicking :
    let es : List Device.Event := [.command .fire, .flusher, .command .fire,
      .command (.request ⟨"POST".toList, "/reset".toList, []⟩), .command .flush]
    let fs : List Device.Event := [.command .fire, .clock, .flusher, .command .edge]
    let b := Backing.inMemory none none [⟨[.reset], .commit⟩, ⟨[.edge], .panic⟩]
    let x := (start (Device.seed b (some ⟨1, .unstarted⟩) none none)).run es
    (∀ e ∈ es, e.isStep = true) ∧ (∀ e ∈ fs, e.isStep = true) ∧
      (x.accepted = 2 ∧ x.latch.cell.dirty = false ∧ x.changes = 5) ∧
      x.accepted + x.latch.cell.dirty.toNat ≤ x.changes ∧
      (x.run fs).latch.backing.saves = x.latch.backing.saves := by
  intro es fs b x
  have hes : ∀ e ∈ es, e.isStep = true := List.all_eq_true.1 (by decide)
  have hfs : ∀ e ∈ fs, e.isStep = true := List.all_eq_true.1 (by decide)
  have hvalues : x.accepted = 2 ∧ x.latch.cell.dirty = false ∧ x.changes = 5 := by decide +kernel
  have hsame : (x.run fs).changes = x.changes := by decide +kernel
  obtain ⟨-, hpaid, -, hquiet⟩ := accepted_le_changes b (some ⟨1, .unstarted⟩) none none hes
  refine ⟨hes, hfs, hvalues, hpaid, ?_⟩
  rw [hquiet fs hfs hvalues.2.1 hsame]

end Account

end TriggerLatch
