import TriggerLatch.Proofs.Device.Calls

/-!
# A clean device is durable

`Device.Reaches` lets a device take any steps while its store is left to its latch: commands, what
its tasks do, the passing of time, and restarts that find the store readable.  The script of the
saves is arbitrary and may be replaced on the way, so a save may be disturbed by any edges and
resets, and end in success, in an error or in a panic.  **In every state that is reached, a clean
latch reads what the store keeps** (`Device.keeps_of_clean`).

The tasks take their steps one at a time here; `Device.Reaches.waitUntil` puts them together again
to what they do while a device waits.
-/

namespace TriggerLatch

namespace Device

/-- The device gets from `d` to another state, and nobody but its latch writes its store. -/
inductive Reaches (d : Device) : Device → Prop
  | start : Reaches d d
  | call {e : Device} (h : Reaches d e) {c : Command} (hc : c.isCall = true) :
      Reaches d (e.perform c).2
  /-- What happens to the files does not concern the store. -/
  | aside {e : Device} (h : Reaches d e) {c : Command} (hc : c.isAside = true)
      (hk : (e.perform c).2.panel.latch.backing.kept = e.panel.latch.backing.kept) :
      Reaches d (e.perform c).2
  /-- The store can be read. -/
  | reboot {e : Device} (h : Reaches d e) {v : Option Bool}
      (hv : e.panel.latch.backing.load = .ok v) : Reaches d (e.perform .reboot).2
  | flusher {e : Device} (h : Reaches d e) : Reaches d e.settleFlusher
  | line {e : Device} (h : Reaches d e) : Reaches d e.settleLine
  /-- The file that the indicator drives is not the one of the store. -/
  | indicator {e : Device} (h : Reaches d e)
      (hk : e.showNews.panel.latch.backing.kept = e.panel.latch.backing.kept) :
      Reaches d e.showNews
  | clock {e : Device} (h : Reaches d e) : Reaches d e.advance

/-- **No step makes the latch of a device unsound.** -/
theorem Reaches.sound {d e : Device} (h : d.Reaches e) (hd : d.panel.latch.Sound) :
    e.panel.latch.Sound := by
  induction h with
  | start => exact hd
  | call _ hc ih => exact (called_perform _ hc).sound ih
  | aside _ hc hk ih => exact (leftAlone_perform _ hc).sound ih hk
  | reboot _ hv ih => exact Latch.sound_seed ih.made hv
  | @flusher e _ ih =>
    obtain ⟨p, f, he, hc⟩ := e.settleFlusher_spec
    rw [he]
    exact hc.sound ih
  | @line e _ ih =>
    obtain ⟨p, l, os, he, hc⟩ := e.settleLine_spec
    rw [he]
    exact hc.sound ih
  | @indicator e _ hk ih =>
    obtain ⟨p, i, he, hc, -⟩ := e.showNews_spec
    rw [he] at hk ⊢
    exact hc.sound ih hk
  | clock _ ih => exact (leftAlone_advance _).sound ih rfl

/-- **While the latch of a device is clean, the store keeps what the latch reads.** -/
theorem keeps_of_clean {b : Backing} (hs : b.store.Made) {v : Option Bool} (hv : b.load = .ok v)
    {flusher : Option Flusher} {line : Option LinePoller} {indicator : Option Indicator}
    {d : Device} (h : (seed b flusher line indicator).Reaches d)
    (hd : d.panel.latch.cell.dirty = false) :
    d.panel.latch.backing.Keeps d.panel.latch.read :=
  (h.sound (Latch.sound_seed hs hv)).durable hd

/-- A save during which the trigger is reset and occurs again: the cell holds the snapshot once
more, and is confirmed. -/
theorem keeps_of_clean_reset_and_edge :
    let d := (seed (.inMemory none none [⟨[.reset, .edge], .commit⟩]) none none none).performAll
      [.edge, .flush]
    d.panel.latch.cell.dirty = false ∧ d.panel.latch.backing.Keeps d.panel.latch.read :=
  ⟨rfl, keeps_of_clean (v := none) .memory rfl (.call (.call .start rfl) rfl) rfl⟩

/-! ### Waiting -/

/-- The indicator does not drive a file. -/
def DrivesNoFile (d : Device) : Prop := ∀ path, d.indicator.map (·.output) ≠ some (.file path)

theorem DrivesNoFile.settleFlusher {d : Device} (h : d.DrivesNoFile) :
    d.settleFlusher.DrivesNoFile := by
  obtain ⟨p, f, he, -⟩ := d.settleFlusher_spec
  rw [he]
  exact h

theorem DrivesNoFile.settleLine {d : Device} (h : d.DrivesNoFile) : d.settleLine.DrivesNoFile := by
  obtain ⟨p, l, os, he, -⟩ := d.settleLine_spec
  rw [he]
  exact h

theorem DrivesNoFile.showNews {d : Device} (h : d.DrivesNoFile) : d.showNews.DrivesNoFile := by
  obtain ⟨p, i, he, -, ho⟩ := d.showNews_spec
  rw [he]
  exact fun path hpath => h path (ho ▸ hpath)

theorem DrivesNoFile.kept_showNews {d : Device} (h : d.DrivesNoFile) :
    d.showNews.panel.latch.backing.kept = d.panel.latch.backing.kept := by
  unfold Device.showNews
  cases hi : d.indicator with
  | none => rfl
  | some i =>
    simp only
    split
    · rfl
    · split
      · rfl
      · next path ho => exact absurd (by rw [hi, Option.map_some, ho]) (h path)
      · rfl

theorem Reaches.settleIndicator {d e : Device} (h : d.Reaches e) (hi : e.DrivesNoFile) :
    d.Reaches e.settleIndicator ∧ e.settleIndicator.DrivesNoFile := by
  refine e.settleIndicator_induct (P := fun f => d.Reaches f ∧ f.DrivesNoFile) ⟨h, hi⟩ ?_
  rintro f ⟨hr, hn⟩
  exact ⟨hr.indicator hn.kept_showNews, hn.showNews⟩

/-- **What a device does while it waits are steps of it.** -/
theorem Reaches.waitUntil {d e : Device} (h : d.Reaches e) (hi : e.DrivesNoFile) (time : Nat) :
    d.Reaches (e.perform (.waitUntil time)).2 := by
  refine (e.wait_induct (P := fun f => d.Reaches f ∧ f.DrivesNoFile) ⟨h, hi⟩ ?_ _).1
  rintro f ⟨hr, hn⟩
  -- a tick: the flusher, the line and the indicator settle, and a millisecond passes
  obtain ⟨hs, hd⟩ := hr.flusher.line.settleIndicator hn.settleFlusher.settleLine
  exact ⟨hs.clock, hd⟩

end Device

end TriggerLatch
