import TriggerLatch.Proofs.Device.Tasks
import TriggerLatch.Proofs.Store.Saves

/-!
# The feed agrees with the latch

Those who use a panel one after another keep its feed in agreement with its latch: an edge from a
source publishes the trigger if it latches it, a reset request publishes what the latch reads when
its save is over, whatever has reached the latch meanwhile and however the save ended, and a flush
changes nothing that would have to be published, unless something reaches the latch during its save.
`Panel.Advances` says so of a step; besides, the feed counts its changes, and the files that the
store does not use are left alone.
-/

namespace TriggerLatch

open Files

theorem Feed.publish_cases (f : Feed) (value : Bool) :
    f.publish value = f ∨ f.version < (f.publish value).version := by
  rw [publish]
  split
  · exact .inl rfl
  · exact .inr (Nat.lt_succ_self _)

namespace Latch

variable {l l' : Latch} {path : Path}

theorem read_flush (hq : l.flush.2.newsSince l = []) : l.flush.2.read = l.read := by
  have hread := l.follows_flush.read
  rw [hq] at hread
  exact hread

/-! ### The files that the store does not use -/

theorem untouched_attempt (l : Latch) (h : l.backing.store.Spares path) :
    Untouched (placeOf path) l.backing.medium.files l.attempt.2.medium.files := by
  unfold attempt
  cases l.backing.next.verdict with
  | commit => exact Store.untouched_save h _ _ _
  | refuse | panic => exact .refl _ _

theorem Writes.untouched {r : Ending (Except PersistError FlushOutcome)} (h : l.Writes r l')
    (hs : l.backing.store.Spares path) :
    Untouched (placeOf path) l.backing.medium.files l'.backing.medium.files := by
  have hattempt := l.untouched_attempt hs
  cases h with
  | clean => exact .refl _ _
  | accepted _ ha | refused _ ha | panicked _ ha =>
    rw [ha] at hattempt
    exact hattempt

theorem Called.untouched {os : List Occurrence} (h : l.Called os l')
    (hs : l.backing.store.Spares path) :
    Untouched (placeOf path) l.backing.medium.files l'.backing.medium.files := by
  cases h with
  | edge | none => exact .refl _ _
  | reset =>
    rcases l.reset_spec with ⟨-, h⟩ | ⟨-, -, h⟩ | ⟨-, -, r, -, h⟩
    · rw [h]
      exact .refl _ _
    · rw [h]
      exact .refl _ _
    · exact h.untouched hs
  | flush =>
    rcases l.flush_spec with ⟨-, h⟩ | ⟨-, h⟩
    · rw [h]
      exact .refl _ _
    · exact h.untouched hs

end Latch

namespace Panel

variable {p p' p'' : Panel}

/-- A step that leaves the feed in agreement with the latch, if it was before. -/
structure Advances (p p' : Panel) : Prop where
  agrees : p.feed.value = p.latch.read → p'.feed.value = p'.latch.read
  counts : p'.feed = p.feed ∨ p.feed.version < p'.feed.version
  store : p'.latch.backing.store = p.latch.backing.store
  files : ∀ path, p.latch.backing.store.Spares path →
    Untouched (placeOf path) p.latch.backing.medium.files p'.latch.backing.medium.files

theorem Advances.trans (h : p.Advances p') (h' : p'.Advances p'') : p.Advances p'' where
  agrees hp := h'.agrees (h.agrees hp)
  counts := by
    rcases h.counts with h | h
    · exact h ▸ h'.counts
    · rcases h'.counts with h' | h'
      · exact .inr (h' ▸ h)
      · exact .inr (Nat.lt_trans h h')
  store := h'.store.trans h.store
  files path hs := (h.files path hs).trans (h'.files path (h.store ▸ hs))

theorem advances_of_called {os : List Occurrence} (hc : p.latch.Called os p'.latch)
    (ha : p.feed.value = p.latch.read → p'.feed.value = p'.latch.read)
    (hf : p'.feed = p.feed ∨ p.feed.version < p'.feed.version) : p.Advances p' where
  agrees := ha
  counts := hf
  store := by
    obtain ⟨es, hes⟩ := hc.logs
    exact hes.store
  files _ hs := hc.untouched hs

theorem advances_say (p : Panel) (ns : List Notice) : p.Advances (p.say ns) :=
  advances_of_called .none id (.inl rfl)

theorem fire_of_read (h : p.latch.read = true) : p.fire = (false, p) := by
  rw [fire, Latch.recordEdge_of_read h]
  rfl

theorem fire_of_idle (h : p.latch.read = false) :
    p.fire = (true,
      ⟨p.latch.recordEdge.2, p.feed.publish true, p.notices ++ [.triggerLatched]⟩) := by
  have hlatches : p.latch.cell.latchesOnEdge = true := congrArg not h
  rw [fire, Latch.recordEdge, hlatches]
  rfl

/-- **An edge from a source is published if it latches the trigger**, and otherwise there is nothing
to publish. -/
theorem advances_fire (p : Panel) : p.Advances p.fire.2 := by
  cases hr : p.latch.read with
  | true =>
    rw [fire_of_read hr]
    exact advances_of_called .none id (.inl rfl)
  | false =>
    rw [fire_of_idle hr]
    refine advances_of_called .edge (fun _ => ?_) (Feed.publish_cases ..)
    rw [Feed.publish_value]
    exact p.latch.cell.recordEdge_triggered.symm

/-- **A reset request publishes what the latch reads in the end.** -/
theorem advances_handle (r : Surface.Request) (p : Panel) : p.Advances (Surface.handle r p).2 := by
  rw [Surface.handle_panel]
  split
  · exact advances_of_called .reset (fun _ => Feed.publish_value ..) (Feed.publish_cases ..)
  · exact advances_of_called .none id (.inl rfl)

theorem advances_of_flush (hl : p'.latch = p.latch.flush.2) (hf : p'.feed = p.feed)
    (hq : p'.latch.newsSince p.latch = []) : p.Advances p' := by
  have hc : p.latch.Called [] p'.latch := hl ▸ .flush
  refine advances_of_called hc (fun h => ?_) (.inl hf)
  rw [hl] at hq
  rw [hf, hl, Latch.read_flush hq]
  exact h

theorem advances_flushOnce (hq : p.flushOnce.2.latch.newsSince p.latch = []) :
    p.Advances p.flushOnce.2 := by
  refine advances_of_flush p.flushOnce_latch ?_ hq
  unfold flushOnce
  split <;> rfl

end Panel

end TriggerLatch
