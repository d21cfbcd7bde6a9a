import TriggerLatch.Proofs.Device.Tasks

/-!
# The history of a device

A `Chronicle` writes down beside a device what has occurred to its latch since it was last seeded:
the edges and resets among the commands, with what the edges answered, and those that the log of
saves reports.  **The latch always reads what the last of them says, and what it was seeded with if
there are none**; an edge answers that it latched the trigger exactly if the latch was idle right
before it (`Chronicle.read_run`).  Everything else that happens — flushes, failed and panicking
saves, resets that find the gate busy — enters the history only by the edges and resets in it, so it
changes nothing else.

The device has no sampled line here: a line answers nobody, so its edges would leave no trace.
-/

namespace TriggerLatch

open Occurrence

namespace Device

/-- What occurs to the latch when the device performs a command: what the command itself is, and
then what the saves report that it makes. -/
def occurrencesOf (d : Device) (c : Command) : List Occurrence :=
  c.occurrences (d.perform c).1 ++ (d.perform c).2.panel.latch.newsSince d.panel.latch

/-! ### Devices without a line -/

theorem settleIndicator_spec (d : Device) :
    d.panel.latch.LeftAlone d.settleIndicator.panel.latch ∧ d.settleIndicator.line = d.line := by
  obtain ⟨⟨files, hfiles⟩, -, hline⟩ := d.settleIndicator_rest
  rw [hfiles]
  exact ⟨⟨rfl, rfl, rfl⟩, hline⟩

theorem follows_tick {d : Device} (h : d.line = none) :
    d.panel.latch.Follows [] d.tick.panel.latch ∧ d.tick.line = none := by
  have hflush : d.panel.latch.Follows [] d.settleFlusher.panel.latch ∧
      d.settleFlusher.line = none := by
    obtain ⟨p, f, he, hc⟩ := d.settleFlusher_spec
    rw [he]
    exact ⟨hc.follows, h⟩
  obtain ⟨hflush, hline⟩ := hflush
  have hsame : d.settleFlusher.settleLine = d.settleFlusher := by rw [settleLine, hline]
  obtain ⟨halone, hshown⟩ := d.settleFlusher.settleIndicator_spec
  have htick : d.tick = d.settleFlusher.settleIndicator.advance := by
    rw [tick, settle, hsame]
  rw [htick]
  exact ⟨(hflush.trans halone.follows).trans (leftAlone_advance _).follows, hshown.trans hline⟩

theorem follows_wait {d : Device} (h : d.line = none) (n : Nat) :
    d.panel.latch.Follows [] (d.wait n).panel.latch ∧ (d.wait n).line = none := by
  induction n with
  | zero => exact ⟨(Latch.LeftAlone.refl _).follows, h⟩
  | succ n ih =>
    obtain ⟨hf, hline⟩ := ih
    obtain ⟨ht, hline⟩ := follows_tick hline
    exact ⟨hf.trans ht, hline⟩

/-- **What a command changes about what the latch reads, it changes by what occurs.** -/
theorem follows_perform {d : Device} {c : Command} (hd : d.line = none) (hs : ∀ v, c ≠ .save v)
    (hr : c ≠ .reboot) :
    d.panel.latch.Follows (c.occurrences (d.perform c).1) (d.perform c).2.panel.latch ∧
      (d.perform c).2.line = none := by
  cases c with
  | save v => exact absurd rfl (hs v)
  | reboot => exact absurd rfl hr
  | waitUntil time => exact follows_wait hd _
  | edge | fire | reset | flush | flushOnce | request =>
    exact ⟨(d.called_perform rfl).follows, hd⟩
  | _ => exact ⟨(d.leftAlone_perform rfl).follows, hd⟩

end Device

/-- A device, what its latch was seeded with last, and what has occurred to it since. -/
structure Chronicle where
  device : Device
  seeded : Bool
  since : List Occurrence

namespace Chronicle

/-- A device without a line, just started. -/
def start (b : Backing) (flusher : Option Flusher) (indicator : Option Indicator) : Chronicle :=
  ⟨.seed b flusher none indicator, Latch.seedValue b, []⟩

/-- One command more; a restart begins a new history. -/
def step (x : Chronicle) (c : Command) : Chronicle :=
  let d := (x.device.perform c).2
  match c with
  | .reboot => ⟨d, Latch.seedValue x.device.panel.latch.backing, []⟩
  | _ => ⟨d, x.seeded, x.since ++ x.device.occurrencesOf c⟩

/-- A row of commands. -/
def run (x : Chronicle) (cs : List Command) : Chronicle := cs.foldl step x

/-- The history accounts for what the latch reads and for what its edges have answered. -/
structure Faithful (x : Chronicle) : Prop where
  line : x.device.line = none
  read : x.device.panel.latch.read = readAfter x.seeded x.since
  truthful : Truthful x.seeded x.since

theorem faithful_start (b : Backing) (flusher : Option Flusher) (indicator : Option Indicator) :
    (start b flusher indicator).Faithful :=
  ⟨rfl, rfl, trivial⟩

theorem step_of_ne_reboot (x : Chronicle) {c : Command} (hr : c ≠ .reboot) :
    x.step c = ⟨(x.device.perform c).2, x.seeded, x.since ++ x.device.occurrencesOf c⟩ := by
  cases c with
  | reboot => exact absurd rfl hr
  | _ => rfl

theorem Faithful.step {x : Chronicle} (h : x.Faithful) {c : Command} (hs : ∀ v, c ≠ .save v) :
    (x.step c).Faithful := by
  by_cases hr : c = .reboot
  · subst hr
    refine ⟨?_, rfl, trivial⟩
    exact congrArg (Option.map _) h.line
  · obtain ⟨hf, hline⟩ := Device.follows_perform h.line hs hr
    -- what the command adds is accounted for from where the history has led so far
    rw [x.step_of_ne_reboot hr]
    refine ⟨hline, ?_, ?_⟩
    · rw [readAfter_append, ← h.read]
      exact hf.read
    · refine truthful_append.2 ⟨h.truthful, ?_⟩
      rw [← h.read]
      exact hf.truthful

theorem Faithful.run {x : Chronicle} (h : x.Faithful) {cs : List Command}
    (hs : ∀ v, .save v ∉ cs) : (x.run cs).Faithful := by
  induction cs generalizing x with
  | nil => exact h
  | cons c cs ih =>
    refine ih (h.step ?_) fun v hv => hs v (List.mem_cons_of_mem _ hv)
    rintro v rfl
    exact hs v List.mem_cons_self

theorem device_run (x : Chronicle) (cs : List Command) :
    (x.run cs).device = x.device.performAll cs := by
  induction cs generalizing x with
  | nil => rfl
  | cons c cs ih =>
    have hstep : (x.step c).device = (x.device.perform c).2 := by cases c <;> rfl
    exact (ih _).trans (congrArg (Device.performAll · cs) hstep)

/-- **What the latch reads is decided by the last edge or reset alone**, after any commands but
saves past the latch; each edge answers truthfully whether it latched; and any further command
changes what the latch reads only by the edges and resets that occur in it. -/
theorem read_run (b : Backing) (flusher : Option Flusher) (indicator : Option Indicator)
    {cs : List Command} (hs : ∀ v, .save v ∉ cs) :
    let x := (start b flusher indicator).run cs
    x.device = (Device.seed b flusher none indicator).performAll cs ∧
      x.device.panel.latch.read = readAfter x.seeded x.since ∧
      (∀ os latched ps, x.since = os ++ .edge latched :: ps →
        latched = !readAfter x.seeded os) ∧
      ∀ c, (∀ v, c ≠ .save v) → c ≠ .reboot →
        (x.device.perform c).2.panel.latch.read =
          readAfter x.device.panel.latch.read (x.device.occurrencesOf c) := by
  intro x
  have hx : x.Faithful := (faithful_start b flusher indicator).run hs
  refine ⟨device_run _ cs, hx.read, ?_, ?_⟩
  · intro os latched ps he
    have ht := hx.truthful
    rw [he] at ht
    exact ht.edge
  · intro c hc hr
    exact (Device.follows_perform hx.line hc hr).1.read

/-- The save of a reset is disturbed and panics; the last reset in it is followed by an edge. -/
theorem read_run_panicking_reset :
    let cs : List Command := [.fire, .reset, .edge]
    let b := Backing.inMemory (some true) none [⟨[.edge, .reset], .panic⟩]
    let x := (start b none none).run cs
    (∀ v, Command.save v ∉ cs) ∧
      x.since = [.edge false, .reset, .edge true, .reset, .edge true] ∧
      x.device.panel.latch.read = readAfter x.seeded x.since :=
  ⟨by simp, rfl, (read_run _ none none (by simp)).2.1⟩

end Chronicle

end TriggerLatch
