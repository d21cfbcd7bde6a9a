import TriggerLatch.Proofs.Latch.Convergence
import TriggerLatch.Proofs.Latch.History

/-!
# Attempts to save

What a call adds to the log of saves.  A write attempts one save, with what the latch reads, if the
latch is dirty, and none if it is clean (`Latch.attempts`).  A flush behind a free gate is such a
write, a reset is one at most, and an edge is none; `Latch.Logs` collects what all of them have in
common: they take no time, they leave the gate free, and **they leave a dirty latch dirty unless a
save was admitted to the store**.

A latch is `Latch.Written` if nothing is left to write.  **A write whose save is accepted brings a
latch there if and only if the last edge or reset that came meanwhile, if there was one, has left it
reading what was saved** (`Latch.Writes.written_iff`).
-/

namespace TriggerLatch

namespace Cell

theorem eq_of_dirty {c c' : Cell} (hc : c.dirty = true) (hc' : c'.dirty = true)
    (h : c.triggered = c'.triggered) : c = c' := by
  obtain ⟨triggered, dirty⟩ := c
  obtain ⟨triggered', dirty'⟩ := c'
  obtain rfl : triggered = triggered' := h
  obtain rfl : dirty = true := hc
  obtain rfl : dirty' = true := hc'
  rfl

theorem disturb_value (c : Cell) (d : Disturbance) : (c.disturb d).triggered = d.value := by
  cases d with
  | edge => exact c.recordEdge_triggered
  | reset => exact c.clear_triggered

theorem disturbAll_triggered_eq_iff {c : Cell} {ds : List Disturbance} :
    (c.disturbAll ds).triggered = c.triggered ↔
      ∀ d, ds.getLast? = some d → d.value = c.triggered := by
  rcases List.eq_nil_or_concat ds with rfl | ⟨init, last, rfl⟩
  · simp [disturbAll]
  · have hlast : (c.disturbAll (init ++ [last])).triggered = last.value := by
      rw [disturbAll, List.foldl_append]
      exact disturb_value _ last
    rw [List.concat_eq_append, hlast]
    simp

end Cell

namespace Backing

@[simp] theorem finish_clock (b : Backing) (value : Bool) (verdict : Verdict) :
    (b.finish value verdict).2.clock = b.clock := by
  cases verdict <;> rfl

theorem verdict_of_finish {b b' : Backing} {value : Bool} {verdict : Verdict}
    (h : b.finish value verdict = (.returned (.ok ()), b')) : verdict = .commit := by
  cases verdict with
  | commit => rfl
  | refuse e => cases h
  | panic => cases h

end Backing

namespace Latch

variable {l l' l'' : Latch}

/-! ### The log of saves -/

/-- The attempts to save that a write makes: none if the latch is clean, and otherwise exactly one,
now, with what the latch reads. -/
def attempts (l : Latch) : List SaveEntry :=
  if l.cell.dirty then
    [⟨l.backing.clock.millis, l.read, l.backing.next.verdict == .commit,
      l.cell.reactionsTo l.backing.next.during⟩]
  else []

theorem attempts_of_dirty (h : l.cell.dirty = true) :
    l.attempts = [⟨l.backing.clock.millis, l.read, l.backing.next.verdict == .commit,
      l.cell.reactionsTo l.backing.next.during⟩] := by
  rw [attempts, if_pos h]

theorem attempts_of_clean (h : l.cell.dirty = false) : l.attempts = [] := by
  rw [attempts, h]
  rfl

theorem time_of_mem_attempts {x : SaveEntry} (h : x ∈ l.attempts) :
    x.time = l.backing.clock.millis := by
  unfold attempts at h
  split at h
  · rw [List.mem_singleton] at h
    rw [h]
  · cases h

/-- At one point in time the latch `l` becomes `l'`, and these attempts to save come to the log. -/
structure Logs (l : Latch) (es : List SaveEntry) (l' : Latch) : Prop where
  saves : l'.backing.saves = l.backing.saves ++ es
  clock : l'.backing.clock = l.backing.clock
  store : l'.backing.store = l.backing.store
  gate : l.gate.held = false → l'.gate.held = false
  time : ∀ x ∈ es, x.time = l.backing.clock.millis
  /-- Nothing but a save that is admitted to the store makes a dirty latch clean. -/
  dirty : l.cell.dirty = true → (∀ x ∈ es, x.admitted = false) → l'.cell.dirty = true

theorem logs_of_same (hc : l'.cell = l.cell) (hg : l'.gate = l.gate)
    (hs : l'.backing.saves = l.backing.saves) (ht : l'.backing.clock = l.backing.clock)
    (hst : l'.backing.store = l.backing.store) : l.Logs [] l' where
  saves := hs.trans (List.append_nil _).symm
  clock := ht
  store := hst
  gate h := hg ▸ h
  time _ h := absurd h List.not_mem_nil
  dirty h _ := hc ▸ h

theorem Logs.refl (l : Latch) : l.Logs [] l := logs_of_same rfl rfl rfl rfl rfl

theorem Logs.trans {es es' : List SaveEntry} (h : l.Logs es l') (h' : l'.Logs es' l'') :
    l.Logs (es ++ es') l'' where
  saves := by rw [h'.saves, h.saves, List.append_assoc]
  clock := h'.clock.trans h.clock
  store := h'.store.trans h.store
  gate hg := h'.gate (h.gate hg)
  time x hx := by
    rcases List.mem_append.1 hx with hx | hx
    · exact h.time x hx
    · rw [h'.time x hx, h.clock]
  dirty hd hx := by
    have hd' := h.dirty hd fun x hxe => hx x (List.mem_append_left _ hxe)
    exact h'.dirty hd' fun x hxe => hx x (List.mem_append_right _ hxe)

/-- The gate is free, and the store is made. -/
structure Ready (l : Latch) : Prop where
  gate : l.gate.held = false
  made : l.backing.store.Made

theorem Logs.ready {es : List SaveEntry} (h : l.Logs es l') (hl : l.Ready) : l'.Ready :=
  ⟨h.gate hl.gate, h.store ▸ hl.made⟩

theorem ready_seed {b : Backing} (hs : b.store.Made) : (seed b).Ready := ⟨rfl, hs⟩

theorem logs_recordEdge (l : Latch) : l.Logs [] l.recordEdge.2 :=
  { Logs.refl l with dirty := fun hd _ => Cell.recordEdge_dirty_of_dirty hd }

theorem logs_cleared (l : Latch) : l.Logs [] l.cleared :=
  { Logs.refl l with dirty := fun hd _ => Cell.disturb_dirty hd .reset }

theorem attempt_clock (l : Latch) : l.attempt.2.clock = l.backing.clock := Backing.finish_clock ..

/-- **A write adds to the log what it attempts**, and nothing else. -/
theorem Writes.logs {r : Ending (Except PersistError FlushOutcome)} (h : Writes l r l') :
    l.Logs l.attempts l' := by
  have hlog {r : Ending (Except StoreError Unit)} {b : Backing} (hd : l.cell.dirty = true)
      (hs : l.attempt = (r, b)) : b.saves = l.backing.saves ++ l.attempts ∧
        b.clock = l.backing.clock ∧ b.store = l.backing.store := by
    have hsaves := l.attempt_saves
    have hclock := l.attempt_clock
    have hstore := l.attempt_store
    rw [hs] at hsaves hclock hstore
    rw [attempts_of_dirty hd]
    exact ⟨hsaves, hclock, hstore⟩
  have htime : ∀ x ∈ l.attempts, x.time = l.backing.clock.millis := fun _ => time_of_mem_attempts
  cases h with
  | clean hd =>
    rw [attempts_of_clean hd]
    exact { Logs.refl l with gate := fun _ => rfl }
  | accepted hd hs =>
    obtain ⟨hsaves, hclock, hstore⟩ := hlog hd hs
    refine ⟨hsaves, hclock, hstore, fun _ => rfl, htime, fun _ hx => ?_⟩
    -- the store has accepted the save, so it was admitted
    have hadmitted := hx _ (attempts_of_dirty hd ▸ List.mem_singleton_self _)
    rw [Backing.verdict_of_finish hs] at hadmitted
    cases hadmitted
  | refused hd hs | panicked hd hs =>
    obtain ⟨hsaves, hclock, hstore⟩ := hlog hd hs
    exact ⟨hsaves, hclock, hstore, fun _ => rfl, htime, fun _ _ => disturbed_dirty hd⟩

theorem flush_of_clean (hg : l.gate.held = false) (hd : l.cell.dirty = false) : l.flush.2 = l := by
  rcases l.flush_spec with ⟨hheld, -⟩ | ⟨-, h⟩
  · cases hg.symm.trans hheld
  · have hgate : l.gate.release false = l.gate := by
      rw [Gate.release, Bool.or_false, ← hg]
    generalize l.flush = r at h
    obtain ⟨r, l'⟩ := r
    cases h with
    | clean => rw [hgate]
    | accepted hdirty | refused hdirty | panicked hdirty => cases hd.symm.trans hdirty

theorem logs_flush (hg : l.gate.held = false) : l.Logs l.attempts l.flush.2 := by
  rcases l.flush_spec with ⟨hheld, -⟩ | ⟨-, h⟩
  · cases hg.symm.trans hheld
  · exact h.logs

theorem logs_reset (l : Latch) : ∃ es, l.Logs es l.reset.2 := by
  rcases l.reset_spec with ⟨-, h⟩ | ⟨-, -, h⟩ | ⟨-, -, r, -, h⟩
  · rw [h]
    exact ⟨[], .refl l⟩
  · rw [h]
    exact ⟨[], l.logs_cleared⟩
  · exact ⟨_, l.logs_cleared.trans h.logs⟩

/-! ### Nothing left to write -/

/-- The latch is clean, and the store keeps what it reads. -/
def Written (l : Latch) : Prop := l.cell.dirty = false ∧ l.backing.Keeps l.read

/-- **What a write whose save is accepted leaves to write**: nothing, if the last edge or reset that
came meanwhile has left the latch reading what was saved; and if there was nothing to save, what was
left before. -/
theorem Writes.written_iff {r : Ending (Except PersistError FlushOutcome)} (h : Writes l r l')
    (hs : l.backing.store.Made)
    (ha : l.cell.dirty = true → ∃ b, l.attempt = (.returned (.ok ()), b)) :
    l'.Written ↔
      (l.cell.dirty = true → ∀ d, l.backing.next.during.getLast? = some d → d.value = l.read) ∧
        (l.cell.dirty = false → l.Written) := by
  cases h with
  | clean hd =>
    refine ⟨fun hw => ⟨fun hdirty => ?_, fun _ => hw⟩, fun hw => hw.2 hd⟩
    cases hd.symm.trans hdirty
  | @accepted b hd hb =>
    have hlast : l.disturbed.triggered = l.read ↔
        ∀ d, l.backing.next.during.getLast? = some d → d.value = l.read :=
      Cell.disturbAll_triggered_eq_iff
    constructor
    · rintro ⟨hclean, -⟩
      have hsame : l.disturbed = l.cell := Cell.eq_of_confirm_clean (disturbed_dirty hd) hclean
      refine ⟨fun _ => hlast.1 (congrArg Cell.triggered hsame), fun hclean => ?_⟩
      cases hd.symm.trans hclean
    · rintro ⟨hd', -⟩
      have hsame : l.disturbed = l.cell :=
        Cell.eq_of_dirty (disturbed_dirty hd) hd (hlast.2 (hd' hd))
      refine ⟨Cell.confirm_dirty_eq_false_iff.2 (.inl hsame), ?_⟩
      rw [read, Cell.confirm_triggered, hsame]
      exact Backing.keeps_of_kept (kept_of_attempt hs hb)
  | refused hd hs' | panicked hd hs' =>
    obtain ⟨b, hb⟩ := ha hd
    cases hs'.symm.trans hb

theorem Writes.read_of_dirty {r : Ending (Except PersistError FlushOutcome)} (h : Writes l r l')
    (hd : l.cell.dirty = true) : l'.read = l.disturbed.triggered := by
  cases h with
  | clean hclean => cases hd.symm.trans hclean
  | accepted => exact Cell.confirm_triggered ..
  | refused | panicked => rfl

/-- The latch is dirty, and the next save is accepted with nothing changing meanwhile. -/
structure WritesThrough (l : Latch) : Prop where
  dirty : l.cell.dirty = true
  undisturbed : l.disturbed = l.cell
  accepted : l.attempt.1 = .returned (.ok ())

theorem WritesThrough.flush (h : l.WritesThrough) (hl : l.Ready) :
    l.flush.2.Written ∧ l.flush.2.read = l.read := by
  have hsame : l.disturbed.triggered = l.read := congrArg Cell.triggered h.undisturbed
  rcases l.flush_spec with ⟨hheld, -⟩ | ⟨-, hw⟩
  · cases hl.gate.symm.trans hheld
  · have hiff := hw.written_iff hl.made fun _ => ⟨_, Prod.ext h.accepted rfl⟩
    refine ⟨hiff.2 ⟨fun _ => ?_, fun hclean => ?_⟩, ?_⟩
    · exact Cell.disturbAll_triggered_eq_iff.1 hsame
    · cases h.dirty.symm.trans hclean
    · exact (hw.read_of_dirty h.dirty).trans hsame

end Latch

end TriggerLatch
