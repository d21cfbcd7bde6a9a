import TriggerLatch.Proofs.Device.Lockstep
import TriggerLatch.Proofs.Latch.Attempts

/-!
# Saves that panic

A save that panics marks the gate and tears its caller down.  **It is no worse than a save that
fails** (`Device.panics_as_errors`): a device whose saves panic goes through the same states as one
whose saves fail in the same places, with the same saves and the same store; what tells them apart
are the answers of those calls and their lines in the log.  And the mark on the gate holds nobody
up: a flush writes whenever there is something to write, and so does a reset
(`Latch.unhindered_of_free`).
-/

namespace TriggerLatch

/-- The second save is the first, or it fails where the first one panics. -/
def SaveItem.Milder (i j : SaveItem) : Prop :=
  j = i ∨ i.verdict = .panic ∧ ∃ e, j = { i with verdict := .refuse e }

/-- Scripts with errors in place of some panics, on one and the same store. -/
def Pairing.softening : Pairing where
  item := SaveItem.Milder
  home s m s' m' := s' = s ∧ m' = m
  item_plain := .inl rfl
  item_during := by
    rintro i j (rfl | ⟨-, e, rfl⟩) <;> rfl
  item_verdict := by
    rintro i j (rfl | ⟨hi, e, rfl⟩)
    · exact .inl rfl
    · exact .inr ⟨hi, e, rfl⟩
  home_load := by
    rintro s s' m m' ⟨rfl, rfl⟩
    rfl
  home_save := by
    rintro s s' m m' ⟨rfl, rfl⟩ now value
    exact ⟨rfl, rfl, rfl⟩

theorem Pairing.softening_sharesFiles : softening.SharesFiles := by
  rintro s s' m m' ⟨rfl, rfl⟩
  exact ⟨rfl, fun _ => ⟨rfl, rfl⟩⟩

namespace Latch

variable {l : Latch}

/-- Neither a flush nor a reset is held up, and both write if there is something to write. -/
structure Unhindered (l : Latch) : Prop where
  flush_returns : l.flush.1 ≠ .blocked
  reset_returns : l.reset.1 ≠ .blocked
  reset_not_busy : l.reset.1 ≠ .returned (.error .busy)
  flush_writes : l.cell.dirty = true → ∃ x, l.flush.2.backing.saves = l.backing.saves ++ [x]
  reset_writes : l.cell ≠ Cell.idle → ∃ x, l.reset.2.backing.saves = l.backing.saves ++ [x]

theorem Writes.returns {r : Ending (Except PersistError FlushOutcome)} {l' : Latch}
    (h : Writes l r l') :
    r ≠ .blocked ∧ forgetOutcome r ≠ .blocked ∧ forgetOutcome r ≠ .returned (.error .busy) := by
  cases h <;> exact ⟨nofun, nofun, nofun⟩

theorem Writes.saves_of_dirty {r : Ending (Except PersistError FlushOutcome)} {l' : Latch}
    (h : Writes l r l') (hd : l.cell.dirty = true) :
    ∃ x, l'.backing.saves = l.backing.saves ++ [x] :=
  ⟨_, attempts_of_dirty hd ▸ h.logs.saves⟩

/-- **Behind a free gate nothing is held up**, whether or not it is marked. -/
theorem unhindered_of_free (hg : l.gate.held = false) : l.Unhindered := by
  have hflush : Writes l l.flush.1 l.flush.2 := by
    rcases l.flush_spec with ⟨hheld, -⟩ | ⟨-, h⟩
    · cases hg.symm.trans hheld
    · exact h
  have hreset : l.reset.1 ≠ .blocked ∧ l.reset.1 ≠ .returned (.error .busy) ∧
      (l.cell ≠ Cell.idle → ∃ x, l.reset.2.backing.saves = l.backing.saves ++ [x]) := by
    rcases l.reset_spec with ⟨hidle, h⟩ | ⟨-, hheld, -⟩ | ⟨hcell, -, r, hr, h⟩
    · rw [h]
      exact ⟨nofun, nofun, fun hne => absurd hidle hne⟩
    · cases hg.symm.trans hheld
    · have hdirty : l.cleared.cell.dirty = true := by rw [cleared, Cell.clear_of_ne_idle hcell]
      rw [hr]
      exact ⟨h.returns.2.1, h.returns.2.2, fun _ => h.saves_of_dirty hdirty⟩
  exact ⟨hflush.returns.1, hreset.1, hreset.2.1, hflush.saves_of_dirty, hreset.2.2⟩

end Latch

namespace Device

/-- The two devices are in the same state: their latches and feeds, their tasks, what their stores
hold and what has been saved.  The log and the saves to come may differ. -/
structure SameState (d d' : Device) : Prop where
  cell : d'.panel.latch.cell = d.panel.latch.cell
  feed : d'.panel.feed = d.panel.feed
  receiver : d'.receiver = d.receiver
  flusher : d'.flusher = d.flusher
  line : d'.line = d.line
  indicator : d'.indicator = d.indicator
  store : d'.panel.latch.backing.store = d.panel.latch.backing.store
  medium : d'.panel.latch.backing.medium = d.panel.latch.backing.medium
  saves : d'.panel.latch.backing.saves = d.panel.latch.backing.saves
  clock : d'.panel.latch.backing.clock = d.panel.latch.backing.clock

end Device

theorem Pairing.Devices.sameState {d d' : Device} (h : softening.Devices d d') :
    d.SameState d' where
  cell := h.panel.latch.cell
  feed := h.panel.feed
  receiver := h.receiver
  flusher := h.flusher
  line := h.line
  indicator := h.indicator
  store := h.panel.latch.backing.home.1
  medium := h.panel.latch.backing.home.2
  saves := h.panel.latch.backing.saves
  clock := h.panel.latch.backing.clock

namespace Device

/-- **Panics in place of errors change nothing** but the answers of the calls whose saves panic, and
their lines in the log.  The saves to come may be softened at the start and wherever the script is
replaced; the device stays in the same state throughout, and nothing is held up. -/
theorem panics_as_errors {b : Backing} {script : List SaveItem}
    (hs : List.Forall₂ SaveItem.Milder b.script script) (flusher : Option Flusher)
    (line : Option LinePoller) (indicator : Option Indicator) {cs cs' : List Command}
    (hc : List.Forall₂ Pairing.softening.Commands cs cs') :
    let start := Device.seed b flusher line indicator
    let start' := Device.seed { b with script } flusher line indicator
    let d := start.performAll cs
    let d' := start'.performAll cs'
    List.Forall₂ Pairing.softening.Replies (start.replies cs) (start'.replies cs') ∧
      List.Forall₂ Pairing.softening.Notices d.panel.notices d'.panel.notices ∧
      d.SameState d' ∧ d.panel.latch.Unhindered := by
  intro start start' d d'
  have hb : Pairing.softening.Backings b { b with script } := ⟨⟨rfl, rfl⟩, rfl, hs, rfl, rfl⟩
  have hstart : Pairing.softening.Devices start start' :=
    .seed hb flusher (.inl Pairing.softening_sharesFiles)
  obtain ⟨hreplies, hrun⟩ := hstart.run hc
  exact ⟨hreplies, hrun.panel.notices, hrun.sameState,
    Latch.unhindered_of_free hrun.panel.latch.free⟩

/-- A flush panics and so does a reset, over the network; the first panic is replaced by an error,
and the second one is not. -/
theorem panics_as_errors_flush_and_reset :
    let busy := StoreError.unavailable "busy".toList
    let b := Backing.inMemory none none [⟨[.reset, .edge], .panic⟩, ⟨[], .panic⟩]
    let softened := [⟨[.reset, .edge], .refuse busy⟩, ⟨[], .panic⟩]
    let cs := [.edge, .flush, .request ⟨"POST".toList, "/reset".toList, []⟩, .flush, .waitUntil 7]
    let start := Device.seed b (some ⟨5, .unstarted⟩) none none
    let start' := Device.seed { b with script := softened } (some ⟨5, .unstarted⟩) none none
    (start.replies cs)[1]? = some (.flush (.panicked "injected panic")) ∧
      (start'.replies cs)[1]? = some (.flush (.returned (.error (.store busy)))) ∧
      (start.replies cs)[3]? = some (.flush (.returned (.ok (.persisted false)))) ∧
      (start.performAll cs).SameState (start'.performAll cs) ∧
      (start.performAll cs).panel.latch.Unhindered := by
  intro busy b softened cs
  have hs : List.Forall₂ SaveItem.Milder b.script softened :=
    .cons (.inr ⟨rfl, busy, rfl⟩) (.cons (.inl rfl) .nil)
  have hc : List.Forall₂ Pairing.softening.Commands cs cs := by
    refine List.forall₂_same.2 fun c hc => .same ?_
    have hall : cs.all Command.isIndirect = true := rfl
    exact List.all_eq_true.1 hall c hc
  obtain ⟨-, -, hsame, hfree⟩ := panics_as_errors hs (some ⟨5, .unstarted⟩) none none hc
  exact ⟨rfl, rfl, rfl, hsame, hfree⟩

end Device

end TriggerLatch
