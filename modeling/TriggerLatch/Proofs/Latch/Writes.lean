import TriggerLatch.Latch.Basic
import TriggerLatch.Proofs.Store.Kept

/-!
# Writes of a latch

All that a write of a latch can come to, said once.  A write takes a snapshot, lets disturbances
happen, and ends as the script says; `Latch.Writes` lists the four ways this can go, with the result
and the latch that each leaves.  A flush is such a write behind a free gate (`Latch.flush_spec`), a
reset is one behind a cleared cell (`Latch.reset_spec`), and nothing else here opens their
definitions.

`Backing.kept` is what the store itself holds, whether or not loads fail at the moment.
-/

namespace TriggerLatch

namespace Cell

@[simp] theorem recordEdge_dirty_of_dirty {c : Cell} (h : c.dirty = true) :
    c.recordEdge.dirty = true := by
  unfold recordEdge
  split
  · exact h
  · rfl

@[simp] theorem clear_of_ne_idle {c : Cell} (h : c ≠ idle) : c.clear = ⟨false, true⟩ := by
  rw [clear, if_neg h]

theorem ne_idle_of_dirty {c : Cell} (h : c.dirty = true) : c ≠ idle := by
  rintro rfl
  cases h

theorem disturb_dirty {c : Cell} (h : c.dirty = true) (d : Disturbance) :
    (c.disturb d).dirty = true := by
  cases d with
  | edge => exact recordEdge_dirty_of_dirty h
  | reset => rw [disturb, clear_of_ne_idle (ne_idle_of_dirty h)]

/-- **Nothing that reaches a dirty cell makes it clean.** -/
theorem disturbAll_dirty {c : Cell} (h : c.dirty = true) (ds : List Disturbance) :
    (c.disturbAll ds).dirty = true := by
  induction ds generalizing c with
  | nil => exact h
  | cons d ds ih => exact ih (disturb_dirty h d)

end Cell

namespace Backing

/-- The beginning of the year 1970. -/
def epoch : Timestamp :=
  ⟨⟨1970, 1, 1, by decide, by decide, by decide⟩, 0, 0, 0, 0, by decide, by decide, by decide,
    by decide⟩

/-- A backing in memory, at the beginning of the year 1970. -/
def inMemory (value : Option Bool) (loadError : Option StoreError) (script : List SaveItem) :
    Backing where
  store := .memory
  medium := ⟨value, .empty⟩
  loadError := loadError
  script := script
  saves := []
  clock := ⟨0, epoch⟩

/-- What the store itself holds. -/
def kept (b : Backing) : Except StoreError (Option Bool) := b.store.load b.medium

theorem load_eq_ok_iff {b : Backing} {v : Option Bool} :
    b.load = .ok v ↔ b.loadError = none ∧ b.kept = .ok v := by
  unfold load
  cases b.loadError with
  | none => simp [kept]
  | some e => simp

variable (b : Backing) (value : Bool) (verdict : Verdict)

@[simp] theorem finish_store : (b.finish value verdict).2.store = b.store := by
  cases verdict <;> rfl

@[simp] theorem finish_saves : (b.finish value verdict).2.saves = b.saves := by
  cases verdict <;> rfl

variable {b value verdict}

theorem finish_cases (b : Backing) (value : Bool) (verdict : Verdict) :
    (∃ b', b.finish value verdict = (.returned (.ok ()), b')) ∨
      (∃ e b', b.finish value verdict = (.returned (.error e), b')) ∨
      ∃ b', b.finish value verdict = (.panicked panicReason, b') := by
  cases verdict with
  | commit =>
    cases h : b.store.save b.clock.utc value b.medium with
    | mk r m =>
      cases r with
      | ok u => exact .inl ⟨{ b with medium := m }, by rw [finish, h]⟩
      | error e => exact .inr (.inl ⟨e, { b with medium := m }, by rw [finish, h]⟩)
  | refuse e => exact .inr (.inl ⟨e, b, rfl⟩)
  | panic => exact .inr (.inr ⟨b, rfl⟩)

/-- **A save that is accepted is kept.** -/
theorem kept_of_finish (hs : b.store.Made) {b' : Backing}
    (h : b.finish value verdict = (.returned (.ok ()), b')) : b'.kept = .ok (some value) := by
  cases verdict with
  | commit =>
    rw [finish] at h
    obtain ⟨hr, rfl⟩ := Prod.mk.inj h
    exact Store.load_of_save hs (Prod.ext (Ending.returned.inj hr) rfl)
  | refuse e => cases h
  | panic => cases h

end Backing

namespace Latch

/-- The cell when a write is over, before it is confirmed. -/
def disturbed (l : Latch) : Cell := l.cell.disturbAll l.backing.next.during

/-- The save that a write makes: how it ends, and what it leaves. -/
def attempt (l : Latch) : Ending (Except StoreError Unit) × Backing :=
  (l.backing.consumed.noted l.cell.triggered l.backing.next.verdict
    (l.cell.reactionsTo l.backing.next.during)).finish l.cell.triggered l.backing.next.verdict

theorem disturbed_dirty {l : Latch} (h : l.cell.dirty = true) : l.disturbed.dirty = true :=
  Cell.disturbAll_dirty h _

theorem attempt_store (l : Latch) : l.attempt.2.store = l.backing.store := Backing.finish_store ..

theorem kept_of_attempt {l : Latch} (hs : l.backing.store.Made) {b : Backing}
    (h : l.attempt = (.returned (.ok ()), b)) : b.kept = .ok (some l.cell.triggered) :=
  Backing.kept_of_finish (b := l.backing.consumed.noted _ _ _) hs h

/-- **What a write comes to**: its result and the latch afterwards. -/
inductive Writes (l : Latch) : Ending (Except PersistError FlushOutcome) → Latch → Prop
  | clean (h : l.cell.dirty = false) :
      Writes l (.returned (.ok .clean)) ⟨l.cell, l.gate.release false, l.backing⟩
  | accepted {b : Backing} (h : l.cell.dirty = true)
      (hs : l.attempt = (.returned (.ok ()), b)) :
      Writes l (.returned (.ok (outcome l.cell l.disturbed)))
        ⟨l.disturbed.confirm l.cell, l.gate.release false, b⟩
  | refused {e : StoreError} {b : Backing} (h : l.cell.dirty = true)
      (hs : l.attempt = (.returned (.error e), b)) :
      Writes l (.returned (.error (.store e))) ⟨l.disturbed, l.gate.release false, b⟩
  | panicked {b : Backing} (h : l.cell.dirty = true)
      (hs : l.attempt = (.panicked panicReason, b)) :
      Writes l (.panicked panicReason) ⟨l.disturbed, l.gate.release true, b⟩

theorem writes_persistGated (l : Latch) : Writes l l.persistGated.1 l.persistGated.2 := by
  obtain ⟨cell, gate, backing⟩ := l
  cases hd : cell.dirty with
  | false =>
    simp only [persistGated, persist, hd, Bool.false_eq_true, if_false]
    exact Writes.clean (l := ⟨cell, gate, backing⟩) hd
  | true =>
    -- how the save ends decides which of the other three cases it is
    rcases (backing.consumed.noted cell.triggered backing.next.verdict
      (cell.reactionsTo backing.next.during)).finish_cases cell.triggered backing.next.verdict with
      ⟨b, hs⟩ | ⟨e, b, hs⟩ | ⟨b, hs⟩ <;>
    simp only [persistGated, persist, hd, if_true, hs]
    · exact Writes.accepted (l := ⟨cell, gate, backing⟩) hd hs
    · exact Writes.refused (l := ⟨cell, gate, backing⟩) hd hs
    · exact Writes.panicked (l := ⟨cell, gate, backing⟩) hd hs

/-- **A flush waits for the gate or writes.** -/
theorem flush_spec (l : Latch) :
    (l.gate.held = true ∧ l.flush = (.blocked, l)) ∨
      (l.gate.held = false ∧ Writes l l.flush.1 l.flush.2) := by
  unfold flush
  cases hg : l.gate.held with
  | true => exact .inl ⟨rfl, rfl⟩
  | false => exact .inr ⟨rfl, l.writes_persistGated⟩

theorem recordEdge_of_read {l : Latch} (h : l.read = true) : l.recordEdge = (false, l) := by
  have hcell : l.cell.recordEdge = l.cell := Cell.recordEdge_of_triggered h
  have hlatches : l.cell.latchesOnEdge = false := congrArg not h
  rw [recordEdge, hcell, hlatches]

/-- The latch once a reset has cleared it. -/
def cleared (l : Latch) : Latch := { l with cell := l.cell.clear }

theorem cleared_of_idle {l : Latch} (h : l.cell = Cell.idle) : l.cleared = l := by
  obtain ⟨cell, gate, backing⟩ := l
  obtain rfl : cell = Cell.idle := h
  rfl

/-- **A reset clears the cell and then writes**, unless there is nothing to write or the gate is
held. -/
theorem reset_spec (l : Latch) :
    (l.cell = Cell.idle ∧ l.reset = (.returned (.ok ()), l)) ∨
      (l.cell ≠ Cell.idle ∧ l.gate.held = true ∧
        l.reset = (.returned (.error .busy), l.cleared)) ∨
      (l.cell ≠ Cell.idle ∧ l.gate.held = false ∧
        ∃ r, l.reset.1 = forgetOutcome r ∧ Writes l.cleared r l.reset.2) := by
  by_cases hc : l.cell = Cell.idle
  · refine .inl ⟨hc, ?_⟩
    rw [reset, if_pos hc]
    exact congrArg (Prod.mk _) (cleared_of_idle hc)
  · cases hg : l.gate.held with
    | true => exact .inr (.inl ⟨hc, rfl, by rw [reset, if_neg hc, if_pos hg]; rfl⟩)
    | false =>
      refine .inr (.inr ⟨hc, rfl, l.cleared.persistGated.1, ?_, ?_⟩) <;>
        rw [reset, if_neg hc, hg]
      · rfl
      · exact l.cleared.writes_persistGated

end Latch

end TriggerLatch
