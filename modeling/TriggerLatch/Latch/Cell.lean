/-!
# The latch cell

A cell holds two flags: whether the trigger has occurred since the last reset, and whether that
value still has to be written to the store.  Three operations change it, each in one step:

* `Cell.recordEdge` latches the trigger, and does nothing to a cell that is latched already;
* `Cell.clear` takes the trigger back, and does nothing to a cell that is idle and clean;
* `Cell.confirm` marks a written snapshot as durable, unless the cell has moved on since.
-/

namespace TriggerLatch

/-- The flags of a latch, observed together. -/
structure Cell where
  /-- An edge has occurred since the last reset. -/
  triggered : Bool
  /-- The value is not known to be durable. -/
  dirty : Bool
  deriving DecidableEq, Repr

namespace Cell

/-- Not triggered and nothing to write. -/
def idle : Cell := ⟨false, false⟩

/-- A clean cell that holds a value which is durable already. -/
def seeded (value : Bool) : Cell := ⟨value, false⟩

/-- After an edge. -/
def recordEdge (c : Cell) : Cell := if c.triggered then c else ⟨true, true⟩

/-- An edge counts when it is the one that latches the cell. -/
def latchesOnEdge (c : Cell) : Bool := !c.triggered

/-- After a reset: not triggered, and dirty unless it was idle and clean before. -/
def clear (c : Cell) : Cell := if c = idle then idle else ⟨false, true⟩

/-- The cell still holds exactly the snapshot. -/
def holds (c snapshot : Cell) : Bool := c == snapshot

/-- After the value of `snapshot` has been written: clean if the cell still holds the snapshot,
and unchanged otherwise. -/
def confirm (c snapshot : Cell) : Cell :=
  if c = snapshot then { snapshot with dirty := false } else c

@[simp] theorem recordEdge_triggered (c : Cell) : c.recordEdge.triggered = true := by
  unfold recordEdge; split <;> simp_all

@[simp] theorem clear_triggered (c : Cell) : c.clear.triggered = false := by
  unfold clear idle; split <;> rfl

theorem recordEdge_of_triggered {c : Cell} (h : c.triggered = true) : c.recordEdge = c := by
  simp [recordEdge, h]

/-- Confirming never changes what the latch reads. -/
@[simp] theorem confirm_triggered (c snapshot : Cell) :
    (c.confirm snapshot).triggered = c.triggered := by
  unfold confirm; split <;> simp_all

theorem confirm_dirty_eq_false_iff {c snapshot : Cell} :
    (c.confirm snapshot).dirty = false ↔ c = snapshot ∨ c.dirty = false := by
  unfold confirm; split <;> simp_all

end Cell

end TriggerLatch
