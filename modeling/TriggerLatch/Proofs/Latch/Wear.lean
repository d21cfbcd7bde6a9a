import TriggerLatch.Proofs.Latch.Acknowledged
import TriggerLatch.Proofs.Latch.Attempts

/-!
# What a latch has to write

A store wears with every write, so a latch should write no more than it has to.  What it has to
write comes from changes: an edge that latches the trigger is one, and so is a reset that finds the
latch anything but idle and clean.  `Latch.changesBy` counts them in a call, together with those
that reach the latch while the call saves, and `Latch.acceptedBy` counts the saves of the call that
the store accepts.

**A call pays with its changes for the save it gets accepted and for the one it leaves to be made**
(`Latch.accepted_call`).  The case to mind is a save that is accepted and superseded: the latch is
as dirty afterwards as it was before, but then something has changed it meanwhile.
-/

namespace TriggerLatch

/-- The call returns, and not with an error. -/
def Ending.succeeds {ε α : Type} : Ending (Except ε α) → Bool
  | .returned (.ok _) => true
  | _ => false

/-- The reaction tells of a change.  While the gate is held, a reset that finds nothing to write
returns, and every other one finds the gate busy. -/
def Reaction.tellsChange : Reaction → Bool
  | .edge latched => latched
  | .reset result => !result.isOk

namespace Cell

/-- The disturbance is a change: an edge that latches the trigger, or a reset of a cell that is not
idle and clean. -/
def changesOn (c : Cell) : Disturbance → Bool
  | .edge => c.latchesOnEdge
  | .reset => c != idle

theorem tellsChange_reactionTo (c : Cell) (d : Disturbance) :
    (c.reactionTo d).tellsChange = c.changesOn d := by
  cases d with
  | edge => rfl
  | reset =>
    by_cases hc : c = idle
    · simp only [reactionTo, changesOn, Reaction.tellsChange, hc, bne_self_eq_false]
      rfl
    · simp only [reactionTo, changesOn, Reaction.tellsChange, if_neg hc, bne_iff_ne.2 hc]
      rfl

theorem disturb_of_not_changesOn {c : Cell} {d : Disturbance} (h : c.changesOn d = false) :
    c.disturb d = c := by
  cases d with
  | edge =>
    have ht : c.triggered = true := by simpa [changesOn, latchesOnEdge] using h
    exact recordEdge_of_triggered ht
  | reset =>
    have hc : c = idle := by simpa [changesOn] using h
    subst hc
    rfl

/-- How many changes the row of disturbances is. -/
def changesIn (c : Cell) (ds : List Disturbance) : Nat :=
  (c.reactionsTo ds).countP Reaction.tellsChange

theorem changesIn_cons (c : Cell) (d : Disturbance) (ds : List Disturbance) :
    c.changesIn (d :: ds) = (c.disturb d).changesIn ds + (c.changesOn d).toNat := by
  rw [changesIn, reactionsTo, List.countP_cons, tellsChange_reactionTo]
  cases c.changesOn d <;> rfl

/-- **Without a change a cell stays what it was.** -/
theorem disturbAll_of_changesIn_eq_zero {c : Cell} {ds : List Disturbance}
    (h : c.changesIn ds = 0) : c.disturbAll ds = c := by
  induction ds with
  | nil => rfl
  | cons d ds ih =>
    rw [changesIn_cons, Nat.add_eq_zero_iff, Bool.toNat_eq_zero] at h
    obtain ⟨hds, hd⟩ := h
    have hsame := disturb_of_not_changesOn hd
    rw [hsame] at hds
    rw [disturbAll, List.foldl_cons, hsame]
    exact ih hds

/-- The cell as a save that the call makes finds it: a reset clears it first. -/
def foundBy (c : Cell) : Call → Cell
  | .reset => c.clear
  | .edge | .flush => c

end Cell

namespace Latch

variable {l l' : Latch}

/-! ### Changes -/

/-- What the attempts to save report that have come to the log since the latch was `l`. -/
def reactionsSince (l' l : Latch) : List Reaction :=
  (l'.backing.saves.drop l.backing.saves.length).flatMap SaveEntry.during

theorem reactionsSince_of_saves {es : List SaveEntry}
    (h : l'.backing.saves = l.backing.saves ++ es) :
    l'.reactionsSince l = es.flatMap SaveEntry.during := by
  rw [reactionsSince, h, List.drop_left]

/-- The call itself is a change, apart from what reaches the latch during its save. -/
def isChangedBy (l : Latch) : Call → Bool
  | .edge => l.recordEdge.1
  | .reset => l.cell != Cell.idle
  | .flush => false

/-- **How many changes a call makes**, those included that reach the latch during its save. -/
def changesBy (l : Latch) (c : Call) : Nat :=
  (l.isChangedBy c).toNat + ((l.call c).reactionsSince l).countP Reaction.tellsChange

/-! ### Accepted saves -/

/-- How many saves a write that ends so has got accepted: what it has written, it has written
once. -/
def acceptedIn : Ending (Except PersistError FlushOutcome) → Nat
  | .returned (.ok (.persisted _)) | .returned (.ok (.superseded _)) => 1
  | _ => 0

/-- **How many saves of a call the store accepts**, as its result tells: a reset that has something
to write returns without an error if and only if that is written. -/
def acceptedBy (l : Latch) : Call → Nat
  | .edge => 0
  | .reset => if l.cell = Cell.idle then 0 else l.reset.1.succeeds.toNat
  | .flush => acceptedIn l.flush.1

/-! ### Writes -/

theorem acceptedIn_outcome (snapshot now : Cell) :
    acceptedIn (.returned (.ok (outcome snapshot now))) = 1 := by
  unfold outcome
  split <;> rfl

theorem countP_attempts_of_dirty (h : l.cell.dirty = true) :
    (l.attempts.flatMap SaveEntry.during).countP Reaction.tellsChange =
      l.cell.changesIn l.backing.next.during := by
  rw [attempts_of_dirty h, List.flatMap_singleton]
  rfl

/-- **A write pays for its save with the debt that it finds or with a change during the save.** -/
theorem Writes.accepted_le {r : Ending (Except PersistError FlushOutcome)} (h : Writes l r l') :
    acceptedIn r + l'.cell.dirty.toNat ≤
      l.cell.dirty.toNat + (l'.reactionsSince l).countP Reaction.tellsChange := by
  have hsince := reactionsSince_of_saves h.logs.saves
  cases h with
  | clean hd => simp [acceptedIn, hd]
  | accepted hd hs =>
    rw [hsince, countP_attempts_of_dirty hd, acceptedIn_outcome, hd]
    by_cases hchanges : l.cell.changesIn l.backing.next.during = 0
    · -- nothing has changed, so the cell is confirmed
      have hsame : l.disturbed = l.cell := Cell.disturbAll_of_changesIn_eq_zero hchanges
      have hclean : (l.disturbed.confirm l.cell).dirty = false :=
        Cell.confirm_dirty_eq_false_iff.2 (.inl hsame)
      simp [hclean]
    · have hdirty := Bool.toNat_le (l.disturbed.confirm l.cell).dirty
      simp only [Bool.toNat_true]
      omega
  | refused hd hs | panicked hd hs =>
    simp [acceptedIn, hd, disturbed_dirty hd]

/-- What a write has got accepted, told by what a reset makes of its result. -/
theorem Writes.acceptedIn_of_dirty {r : Ending (Except PersistError FlushOutcome)}
    (h : Writes l r l') (hd : l.cell.dirty = true) :
    acceptedIn r = (forgetOutcome r).succeeds.toNat := by
  cases h with
  | clean hclean => cases hd.symm.trans hclean
  | accepted =>
    rw [acceptedIn_outcome]
    rfl
  | refused | panicked => rfl

/-! ### Calls -/

theorem dirty_recordEdge_le (l : Latch) :
    l.recordEdge.2.cell.dirty.toNat ≤ l.cell.dirty.toNat + l.recordEdge.1.toNat := by
  cases hr : l.read with
  | true =>
    rw [recordEdge_of_read hr]
    exact Nat.le_add_right ..
  | false =>
    have hlatched : l.recordEdge.1 = true := congrArg not hr
    rw [hlatched]
    exact Nat.le_trans (Bool.toNat_le _) (Nat.le_add_left ..)

/-- **A call pays with its changes for the save it gets accepted and for the one it leaves to be
made**, unless that was left to it. -/
theorem accepted_call (l : Latch) (c : Call) :
    l.acceptedBy c + (l.call c).cell.dirty.toNat ≤ l.cell.dirty.toNat + l.changesBy c := by
  cases c with
  | edge =>
    have hedge := l.dirty_recordEdge_le
    simp only [acceptedBy, changesBy, isChangedBy, call]
    omega
  | reset =>
    simp only [acceptedBy, changesBy, isChangedBy, call]
    rcases l.reset_spec with ⟨hidle, h⟩ | ⟨hcell, -, h⟩ | ⟨hcell, -, r, hr, h⟩
    · rw [if_pos hidle, h]
      simp only
      omega
    · have hdirty : l.cleared.cell.dirty = true := by rw [cleared, Cell.clear_of_ne_idle hcell]
      rw [if_neg hcell, h, hdirty, bne_iff_ne.2 hcell]
      simp only [Ending.succeeds, Bool.toNat_true, Bool.toNat_false]
      omega
    · -- the reset itself is the change that pays for the debt its write finds
      have hdirty : l.cleared.cell.dirty = true := by rw [cleared, Cell.clear_of_ne_idle hcell]
      have hwrite := h.accepted_le
      have hsince : l.reset.2.reactionsSince l.cleared = l.reset.2.reactionsSince l := rfl
      rw [h.acceptedIn_of_dirty hdirty, ← hr, hdirty, hsince] at hwrite
      rw [if_neg hcell, bne_iff_ne.2 hcell]
      omega
  | flush =>
    simp only [acceptedBy, changesBy, isChangedBy, call]
    rcases l.flush_spec with ⟨-, h⟩ | ⟨-, h⟩
    · rw [h]
      simp only [acceptedIn]
      omega
    · have hwrite := h.accepted_le
      simp only [Bool.toNat_false]
      omega

theorem dirty_of_attempts_ne_nil (h : l.attempts ≠ []) : l.cell.dirty = true := by
  cases hd : l.cell.dirty with
  | true => rfl
  | false => exact absurd (attempts_of_clean hd) h

/-- **Every attempt to save finds the latch dirty.** -/
theorem saves_call (l : Latch) (c : Call) :
    ∃ es, (l.call c).backing.saves = l.backing.saves ++ es ∧
      (es ≠ [] → (l.cell.foundBy c).dirty = true) := by
  have hnone : ∃ es, l.backing.saves = l.backing.saves ++ es ∧
      (es ≠ [] → (l.cell.foundBy c).dirty = true) := ⟨[], by simp, by simp⟩
  cases c with
  | edge => exact hnone
  | reset =>
    rw [call]
    rcases l.reset_spec with ⟨-, h⟩ | ⟨-, -, h⟩ | ⟨-, -, r, -, h⟩
    · rw [h]
      exact hnone
    · rw [h]
      exact hnone
    · exact ⟨_, h.logs.saves, dirty_of_attempts_ne_nil (l := l.cleared)⟩
  | flush =>
    rw [call]
    rcases l.flush_spec with ⟨-, h⟩ | ⟨-, h⟩
    · rw [h]
      exact hnone
    · exact ⟨_, h.logs.saves, dirty_of_attempts_ne_nil⟩

/-- **A clean latch that a call does not change attempts no save.** -/
theorem saves_call_of_unchanged {c : Call} (hd : l.cell.dirty = false)
    (hc : l.changesBy c = 0) : (l.call c).backing.saves = l.backing.saves := by
  obtain ⟨es, hes, hfound⟩ := l.saves_call c
  have hunchanged : l.isChangedBy c = false := by
    rw [changesBy, Nat.add_eq_zero_iff, Bool.toNat_eq_zero] at hc
    exact hc.1
  have hclean : (l.cell.foundBy c).dirty = false := by
    cases c with
    | edge | flush => exact hd
    | reset =>
      have hidle : l.cell = Cell.idle := by simpa [isChangedBy] using hunchanged
      rw [Cell.foundBy, hidle]
      rfl
  by_cases hne : es = []
  · rw [hes, hne, List.append_nil]
  · cases hclean.symm.trans (hfound hne)

end Latch

end TriggerLatch
