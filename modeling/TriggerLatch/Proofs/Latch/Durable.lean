import TriggerLatch.Proofs.Latch.Writes

/-!
# A clean latch is durable

`Latch.Sound` is the invariant of a latch whose store nobody else writes: **while the latch is
clean, the store keeps what the latch reads.**  It holds of a latch that could read its store when
it was started, and edges, resets and flushes preserve it, however their saves end and whatever
reaches the latch meanwhile: a dirty cell stays dirty until a snapshot is confirmed, and confirming
cleans the cell only if it still holds that snapshot, which the store has just accepted.
-/

namespace TriggerLatch

namespace Cell

theorem eq_of_confirm_clean {c snapshot : Cell} (hc : c.dirty = true)
    (h : (c.confirm snapshot).dirty = false) : c = snapshot := by
  rcases confirm_dirty_eq_false_iff.1 h with h | h
  · exact h
  · rw [hc] at h
    cases h

theorem eq_of_recordEdge_clean {c : Cell} (h : c.recordEdge.dirty = false) : c.recordEdge = c := by
  unfold recordEdge at h ⊢
  split at h
  · next ht => rw [if_pos ht]
  · cases h

theorem eq_of_clear_clean {c : Cell} (h : c.clear.dirty = false) : c = idle := by
  unfold clear at h
  split at h
  · next hc => exact hc
  · cases h

end Cell

namespace Backing

/-- The store keeps the value; one that holds nothing keeps `false`. -/
def Keeps (b : Backing) (value : Bool) : Prop := ∃ v, b.kept = .ok v ∧ v.getD false = value

theorem keeps_of_kept {b : Backing} {value : Bool} (h : b.kept = .ok (some value)) :
    b.Keeps value :=
  ⟨some value, h, rfl⟩

theorem Keeps.congr {b b' : Backing} {value : Bool} (h : b.Keeps value) (hk : b'.kept = b.kept) :
    b'.Keeps value := by
  obtain ⟨v, hv, hval⟩ := h
  exact ⟨v, hk.trans hv, hval⟩

end Backing

namespace Latch

/-- The latch works on a store that is made, which keeps what the latch reads while it is clean. -/
structure Sound (l : Latch) : Prop where
  made : l.backing.store.Made
  durable : l.cell.dirty = false → l.backing.Keeps l.read

variable {l l' : Latch}

theorem seedValue_of_load {b : Backing} {v : Option Bool} (h : b.load = .ok v) :
    seedValue b = v.getD false := by
  unfold seedValue
  rw [h]
  cases v <;> rfl

theorem sound_seed {b : Backing} {v : Option Bool} (hs : b.store.Made) (h : b.load = .ok v) :
    (seed b).Sound :=
  ⟨hs, fun _ => ⟨v, (Backing.load_eq_ok_iff.1 h).2, (seedValue_of_load h).symm⟩⟩

theorem Sound.congr (hl : l.Sound) (hc : l'.cell = l.cell)
    (hs : l'.backing.store = l.backing.store) (hk : l'.backing.kept = l.backing.kept) :
    l'.Sound where
  made := hs ▸ hl.made
  durable h := by
    rw [hc] at h
    rw [read, hc]
    exact (hl.durable h).congr hk

/-- An edge that leaves a latch clean has found it latched. -/
theorem Sound.recordEdge (hl : l.Sound) : l.recordEdge.2.Sound where
  made := hl.made
  durable h := by
    have he : l.cell.recordEdge = l.cell := Cell.eq_of_recordEdge_clean h
    have hd : l.cell.dirty = false := he ▸ h
    rw [read, Latch.recordEdge, he]
    exact hl.durable hd

theorem Sound.cleared (hl : l.Sound) : l.cleared.Sound where
  made := hl.made
  durable h := by
    have hi : l.cell = Cell.idle := Cell.eq_of_clear_clean h
    rw [cleared_of_idle hi] at h ⊢
    exact hl.durable h

/-- **A write leaves a sound latch sound**, whatever reached the cell meanwhile. -/
theorem Writes.sound {r : Ending (Except PersistError FlushOutcome)} (h : Writes l r l')
    (hl : l.Sound) : l'.Sound := by
  have hstore : ∀ {r b}, l.attempt = (r, b) → b.store.Made := by
    intro r b hs
    have hb : b.store = l.backing.store := by rw [← l.attempt_store, hs]
    exact hb ▸ hl.made
  cases h with
  | clean h => exact hl.congr rfl rfl rfl
  | @accepted b h hs =>
    refine ⟨hstore hs, fun hclean => ?_⟩
    -- the cell was dirty until now, so only holding the snapshot can have made it clean
    have hsame : l.disturbed = l.cell := Cell.eq_of_confirm_clean (disturbed_dirty h) hclean
    rw [read, Cell.confirm_triggered, hsame]
    exact Backing.keeps_of_kept (kept_of_attempt hl.made hs)
  | refused h hs | panicked h hs =>
    -- nothing is confirmed here, so the latch is as dirty as before
    refine ⟨hstore hs, fun hclean => ?_⟩
    cases (disturbed_dirty h).symm.trans hclean

theorem Sound.flush (hl : l.Sound) : l.flush.2.Sound := by
  rcases l.flush_spec with ⟨-, h⟩ | ⟨-, h⟩
  · rw [h]
    exact hl
  · exact h.sound hl

theorem Sound.reset (hl : l.Sound) : l.reset.2.Sound := by
  rcases l.reset_spec with ⟨-, h⟩ | ⟨-, -, h⟩ | ⟨-, -, r, -, h⟩
  · rw [h]
    exact hl
  · rw [h]
    exact hl.cleared
  · exact h.sound hl.cleared

end Latch

end TriggerLatch
