import TriggerLatch.Proofs.Device.Tasks

/-!
# What the stop of a device loses

A device that is asked to stop flushes its latch once more, and nothing is written after that.  The
flush saves what the latch reads when it begins, so an edge or a reset that comes while it saves is
written only if it leaves the latch reading that.  **Otherwise it is lost, though the store has
accepted every save** (`Device.written_shutDown_iff`), as an edge is in
`Device.shutDown_loses_edge`.

The first part follows a device through any commands at all: its gate is free between them, and its
store stays the one it was started with.
-/

namespace TriggerLatch

namespace Latch

variable {l : Latch}

/-! ### Between two commands -/

theorem Ready.recordEdge (h : l.Ready) : l.recordEdge.2.Ready := l.logs_recordEdge.ready h

theorem Ready.reset (h : l.Ready) : l.reset.2.Ready := by
  obtain ⟨es, hes⟩ := l.logs_reset
  exact hes.ready h

theorem Ready.disturbFree (h : l.Ready) (ds : List Disturbance) : (l.disturbFree ds).2.Ready := by
  induction ds generalizing l with
  | nil => exact h
  | cons d ds ih =>
    cases d with
    | edge => exact ih h.recordEdge
    | reset =>
      have hreset := h.reset
      unfold Latch.disturbFree
      generalize l.reset = r at hreset ⊢
      obtain ⟨ending, l'⟩ := r
      cases ending with
      | returned => exact ih hreset
      | panicked | blocked => exact hreset

theorem Ready.saveDirectly (h : l.Ready) (value : Bool) : (l.saveDirectly value).2.Ready := by
  have hfree := Ready.disturbFree (l := { l with backing := l.backing.consumed }) ⟨h.gate, h.made⟩
    l.backing.next.during
  unfold Latch.saveDirectly
  simp only
  generalize Latch.disturbFree _ _ = r at hfree ⊢
  obtain ⟨ending, l'⟩ := r
  cases ending with
  | returned =>
    refine ⟨hfree.gate, ?_⟩
    rw [Backing.finish_store]
    exact hfree.made
  | panicked | blocked => exact hfree

end Latch

namespace Device

variable {d : Device}

theorem ready_tick (h : d.panel.latch.Ready) : d.tick.panel.latch.Ready := by
  obtain ⟨p, f, hp, hc⟩ := d.settleFlusher_spec
  obtain ⟨p', l, os, hp', hc'⟩ := d.settleFlusher.settleLine_spec
  obtain ⟨es, hes⟩ := hc.logs
  obtain ⟨es', hes'⟩ := hc'.logs
  obtain ⟨⟨files, hfiles⟩, -⟩ := d.settleFlusher.settleLine.settleIndicator_rest
  have hflusher : d.settleFlusher.panel.latch.Ready := hp ▸ hes.ready h
  have hline : d.settleFlusher.settleLine.panel.latch.Ready := hp' ▸ hes'.ready hflusher
  have hsettle : d.settle.panel.latch.Ready :=
    hfiles ▸ (Latch.logs_withFiles _ files).ready hline
  exact ⟨hsettle.gate, hsettle.made⟩

theorem ready_perform (h : d.panel.latch.Ready) (c : Command) :
    (d.perform c).2.panel.latch.Ready := by
  by_cases hc : c.isPrompt = true
  · obtain ⟨es, hes⟩ := d.logs_perform hc
    exact hes.ready h
  · cases c with
    | save value => exact h.saveDirectly value
    | waitUntil time =>
      have hwait : ∀ n, (d.wait n).panel.latch.Ready := by
        intro n
        induction n with
        | zero => exact h
        | succ n ih => exact ready_tick ih
      exact hwait _
    | reboot => exact Latch.ready_seed h.made
    | _ => exact absurd rfl hc

theorem ready_performAll (h : d.panel.latch.Ready) (cs : List Command) :
    (d.performAll cs).panel.latch.Ready := by
  induction cs generalizing d with
  | nil => exact h
  | cons c cs ih => exact ih (ready_perform h c)

/-! ### The stop -/

/-- **What a stop leaves to write.**  After any commands, a device whose flusher is running is asked
to stop, and the save that it then makes, if the latch is dirty, is accepted.  No other save is
attempted.  Nothing is left to write if and only if the last edge or reset that comes while that
save is made, if there is one, leaves the latch reading what is saved; and, where the latch was
clean, if nothing was left to write before. -/
theorem written_shutDown_iff {b : Backing} (hs : b.store.Made) (flusher : Option Flusher)
    (line : Option LinePoller) (indicator : Option Indicator) (cs : List Command)
    (hd : d = (seed b flusher line indicator).performAll cs) (hf : d.FlusherRuns)
    (ha : d.panel.latch.cell.dirty = true → d.panel.latch.attempt.1 = .returned (.ok ())) :
    d.shutDown.panel.latch.backing.saves =
        d.panel.latch.backing.saves ++ d.panel.latch.attempts ∧
      (d.shutDown.panel.latch.Written ↔
        (d.panel.latch.cell.dirty = true →
          ∀ x, d.panel.latch.backing.next.during.getLast? = some x → x.value = d.panel.latch.read) ∧
        (d.panel.latch.cell.dirty = false → d.panel.latch.Written)) := by
  have hready : d.panel.latch.Ready := hd ▸ ready_performAll (Latch.ready_seed hs) cs
  rw [shutDown_latch hready.gate fun _ => hf]
  refine ⟨(Latch.logs_flush hready.gate).saves, ?_⟩
  rcases d.panel.latch.flush_spec with ⟨hheld, -⟩ | ⟨-, h⟩
  · cases hready.gate.symm.trans hheld
  · exact h.written_iff hready.made fun hdirty => ⟨_, Prod.ext (ha hdirty) rfl⟩

/-- The trigger is reset while it is saved for the last time, and occurs again. -/
theorem written_shutDown_reset_and_edge :
    let d := (seed (.inMemory none none [⟨[.reset, .edge], .commit⟩]) (some ⟨1000, .unstarted⟩)
      none none).performAll [.waitUntil 5, .fire]
    d.FlusherRuns ∧ d.panel.latch.cell.dirty = true ∧ d.shutDown.panel.latch.Written := by
  intro d
  have hf : d.FlusherRuns := ⟨_, 1000, rfl, rfl⟩
  obtain ⟨-, hiff⟩ := written_shutDown_iff .memory (some ⟨1000, .unstarted⟩) none none
    [.waitUntil 5, .fire] rfl hf fun _ => rfl
  refine ⟨hf, rfl, hiff.2 ⟨fun _ x hx => ?_, nofun⟩⟩
  cases hx
  rfl

/-- **An edge that a stop loses.**  A reset could not be written, and while the stop writes it, an
edge comes.  Every save from the stop on is accepted, but the latch is left dirty, and reads other
than what the store holds. -/
theorem shutDown_loses_edge :
    let d := (seed (.inMemory (some true) none
      [⟨[], .refuse (.unavailable "busy".toList)⟩, ⟨[.edge], .commit⟩]) (some ⟨1000, .unstarted⟩)
      none none).performAll [.waitUntil 5, .reset]
    let l := d.shutDown.panel.latch
    d.FlusherRuns ∧ d.panel.latch.attempt.1 = .returned (.ok ()) ∧
      l.backing.saves.map (fun x => (x.value, x.admitted)) = [(false, false), (false, true)] ∧
      l.cell = ⟨true, true⟩ ∧ ¬ l.backing.Keeps l.read := by
  refine ⟨⟨_, 1000, rfl, rfl⟩, rfl, rfl, rfl, ?_⟩
  rintro ⟨v, hv, hval⟩
  cases hv
  cases hval

end Device

end TriggerLatch
