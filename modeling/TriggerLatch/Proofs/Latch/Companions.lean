import Mathlib.Data.List.Forall2
import TriggerLatch.Proofs.Latch.Writes

/-!
# Latches side by side

Two latches that are used in the same way may differ in how the saves to come end and in where
their value is kept.  A `Pairing` says which differences there may be: between two items of the
scripts, a panic on one side where the other fails; between the stores, any that neither a load nor
the result of a save can tell.  **Paired latches stay paired whatever is done to both**
(`Pairing.Latches.flush`, `Pairing.Latches.reset`), and what they answer differs only where a save
has ended in the panic that the other does not have (`Pairing.Endings`).

The mark that a panic leaves on the gate is no part of what is paired.
-/

namespace TriggerLatch

namespace Latch

/-- What a write reports, given how its save has ended. -/
def reported (l : Latch) :
    Ending (Except StoreError Unit) → Ending (Except PersistError FlushOutcome)
  | .returned (.ok ()) => .returned (.ok (outcome l.cell l.disturbed))
  | .returned (.error e) => .returned (.error (.store e))
  | .panicked reason => .panicked reason
  | .blocked => .blocked

/-- The cell that a write leaves, given how its save has ended. -/
def settled (l : Latch) : Ending (Except StoreError Unit) → Cell
  | .returned (.ok ()) => l.disturbed.confirm l.cell
  | _ => l.disturbed

variable {l : Latch}

theorem persistGated_of_clean (h : l.cell.dirty = false) :
    l.persistGated = (.returned (.ok .clean), ⟨l.cell, l.gate.release false, l.backing⟩) := by
  simp only [persistGated, persist, h]
  rfl

theorem persistGated_of_dirty (h : l.cell.dirty = true) :
    l.persistGated = (l.reported l.attempt.1,
      ⟨l.settled l.attempt.1, l.gate.release (endedInPanic l.attempt.1), l.attempt.2⟩) := by
  have hw := l.writes_persistGated
  generalize l.persistGated = r at hw ⊢
  obtain ⟨r, l'⟩ := r
  cases hw with
  | clean hd => cases h.symm.trans hd
  | accepted hd hs | refused hd hs | panicked hd hs =>
    rw [hs]
    rfl

theorem reset_of_free (h : l.gate.held = false) :
    l.reset = if l.cell = Cell.idle then (.returned (.ok ()), l.cleared)
      else (forgetOutcome l.cleared.persistGated.1, l.cleared.persistGated.2) := by
  unfold reset
  rw [h]
  rfl

end Latch

/-- Which differences there may be between two latches that are used in the same way. -/
structure Pairing where
  /-- Between two saves to come. -/
  item : SaveItem → SaveItem → Prop
  /-- Between two stores and what they are kept in. -/
  home : Store → Medium → Store → Medium → Prop
  item_plain : item .plain .plain
  item_during : ∀ {i j}, item i j → j.during = i.during
  item_verdict : ∀ {i j}, item i j →
    j.verdict = i.verdict ∨ i.verdict = .panic ∧ ∃ e, j.verdict = .refuse e
  home_load : ∀ {s s' m m'}, home s m s' m' → s'.load m' = s.load m
  home_save : ∀ {s s' m m'}, home s m s' m' → ∀ now value,
    (s'.save now value m').1 = (s.save now value m).1 ∧
      home s (s.save now value m).2 s' (s'.save now value m').2

namespace Pairing

variable (P : Pairing)

/-- The error stands where the other side panics. -/
def Soft (e : StoreError) : Prop := ∃ i j, P.item i j ∧ i.verdict = .panic ∧ j.verdict = .refuse e

/-- Two calls have ended in the same way, or one in a panic and the other in an error that stands
for it. -/
inductive Endings {ε α : Type} (wrap : StoreError → ε) :
    Ending (Except ε α) → Ending (Except ε α) → Prop
  | same (r : Ending (Except ε α)) : Endings wrap r r
  | softened {e : StoreError} (h : P.Soft e) :
    Endings wrap (.panicked panicReason) (.returned (.error (wrap e)))

/-- What stands behind two latches is paired. -/
structure Backings (b b' : Backing) : Prop where
  home : P.home b.store b.medium b'.store b'.medium
  loadError : b'.loadError = b.loadError
  script : List.Forall₂ P.item b.script b'.script
  saves : b'.saves = b.saves
  clock : b'.clock = b.clock

/-- Two latches hold the same and are paired, and nobody holds their gates. -/
structure Latches (l l' : Latch) : Prop where
  cell : l'.cell = l.cell
  free : l.gate.held = false
  free' : l'.gate.held = false
  backing : P.Backings l.backing l'.backing

variable {P} {b b' : Backing} {l l' : Latch}

/-! ### Saves -/

theorem Backings.load (h : P.Backings b b') : b'.load = b.load := by
  rw [Backing.load, Backing.load, h.loadError, P.home_load h.home]

theorem Backings.seedNotices (h : P.Backings b b') :
    Latch.seedNotices b' = Latch.seedNotices b := by
  rw [Latch.seedNotices, Latch.seedNotices, h.load]

theorem Backings.next (h : P.Backings b b') : P.item b.next b'.next := by
  have hs := h.script
  unfold Backing.next
  generalize b.script = s at hs ⊢
  generalize b'.script = s' at hs ⊢
  cases hs with
  | nil => exact P.item_plain
  | cons hitem => exact hitem

theorem Backings.consumed (h : P.Backings b b') : P.Backings b.consumed b'.consumed where
  home := h.home
  loadError := h.loadError
  script := by
    have hs := h.script
    unfold Backing.consumed
    generalize b.script = s at hs ⊢
    generalize b'.script = s' at hs ⊢
    cases hs with
    | nil => exact .nil
    | cons _ hrest => exact hrest
  saves := h.saves
  clock := h.clock

theorem Backings.noted (h : P.Backings b b') {i j : SaveItem} (hitem : P.item i j) (value : Bool)
    (during : List Reaction) :
    P.Backings (b.noted value i.verdict during) (b'.noted value j.verdict during) where
  home := h.home
  loadError := h.loadError
  script := h.script
  saves := by
    have hadmitted : (j.verdict == .commit) = (i.verdict == .commit) := by
      rcases P.item_verdict hitem with hv | ⟨hi, e, hj⟩
      · rw [hv]
      · rw [hi, hj]
        rfl
    simp only [Backing.noted, h.saves, h.clock, hadmitted]
  clock := h.clock

theorem Backings.finish (h : P.Backings b b') {i j : SaveItem} (hitem : P.item i j) (value : Bool) :
    P.Endings id (b.finish value i.verdict).1 (b'.finish value j.verdict).1 ∧
      P.Backings (b.finish value i.verdict).2 (b'.finish value j.verdict).2 := by
  rcases P.item_verdict hitem with hv | ⟨hi, e, hj⟩
  · rw [hv]
    cases i.verdict with
    | panic => exact ⟨.same _, h⟩
    | refuse e => exact ⟨.same _, h⟩
    | commit =>
      obtain ⟨hresult, hhome⟩ := P.home_save h.home b.clock.utc value
      refine ⟨?_, { h with home := ?_ }⟩
      · simp only [Backing.finish, h.clock, hresult]
        exact .same _
      · simpa only [Backing.finish, h.clock] using hhome
  · rw [hi, hj]
    exact ⟨.softened ⟨i, j, hitem, hi, hj⟩, h⟩

/-! ### What is done to a latch -/

theorem Latches.disturbed (h : P.Latches l l') : l'.disturbed = l.disturbed := by
  rw [Latch.disturbed, Latch.disturbed, h.cell, P.item_during h.backing.next]

theorem Latches.attempt (h : P.Latches l l') :
    P.Endings id l.attempt.1 l'.attempt.1 ∧ P.Backings l.attempt.2 l'.attempt.2 := by
  have hitem := h.backing.next
  unfold Latch.attempt
  rw [h.cell, P.item_during hitem]
  exact (h.backing.consumed.noted hitem _ _).finish hitem _

/-- **Writes of paired latches leave them paired.** -/
theorem Latches.persistGated (h : P.Latches l l') :
    P.Endings .store l.persistGated.1 l'.persistGated.1 ∧
      P.Latches l.persistGated.2 l'.persistGated.2 := by
  cases hd : l.cell.dirty with
  | false =>
    have hd' : l'.cell.dirty = false := h.cell ▸ hd
    rw [Latch.persistGated_of_clean hd, Latch.persistGated_of_clean hd']
    exact ⟨.same _, h.cell, rfl, rfl, h.backing⟩
  | true =>
    have hd' : l'.cell.dirty = true := h.cell ▸ hd
    obtain ⟨hends, hbacking⟩ := h.attempt
    rw [Latch.persistGated_of_dirty hd, Latch.persistGated_of_dirty hd']
    generalize l.attempt.1 = r at hends ⊢
    generalize l'.attempt.1 = r' at hends ⊢
    cases hends with
    | same =>
      have hreported : l'.reported r = l.reported r := by
        unfold Latch.reported
        rw [h.cell, h.disturbed]
      have hsettled : l'.settled r = l.settled r := by
        unfold Latch.settled
        rw [h.cell, h.disturbed]
      rw [hreported]
      exact ⟨.same _, hsettled, rfl, rfl, hbacking⟩
    | softened he => exact ⟨.softened he, h.disturbed, rfl, rfl, hbacking⟩

theorem Latches.flush (h : P.Latches l l') :
    P.Endings .store l.flush.1 l'.flush.1 ∧ P.Latches l.flush.2 l'.flush.2 := by
  unfold Latch.flush
  rw [h.free, h.free']
  exact h.persistGated

theorem Latches.cleared (h : P.Latches l l') : P.Latches l.cleared l'.cleared :=
  { h with cell := congrArg Cell.clear h.cell }

theorem Endings.forgetOutcome {r r' : Ending (Except PersistError FlushOutcome)}
    (h : P.Endings .store r r') :
    P.Endings .store (Latch.forgetOutcome r) (Latch.forgetOutcome r') := by
  cases h with
  | same => exact .same _
  | softened he => exact .softened he

theorem Latches.reset (h : P.Latches l l') :
    P.Endings .store l.reset.1 l'.reset.1 ∧ P.Latches l.reset.2 l'.reset.2 := by
  rw [Latch.reset_of_free h.free, Latch.reset_of_free h.free', h.cell]
  split
  · exact ⟨.same _, h.cleared⟩
  · obtain ⟨hends, hlatches⟩ := h.cleared.persistGated
    exact ⟨hends.forgetOutcome, hlatches⟩

theorem Latches.recordEdge (h : P.Latches l l') :
    l'.recordEdge.1 = l.recordEdge.1 ∧ P.Latches l.recordEdge.2 l'.recordEdge.2 :=
  ⟨congrArg Cell.latchesOnEdge h.cell, { h with cell := congrArg Cell.recordEdge h.cell }⟩

theorem Latches.seed (h : P.Backings b b') : P.Latches (.seed b) (.seed b') := by
  refine ⟨?_, rfl, rfl, h⟩
  simp only [Latch.seed, Latch.seedValue, h.load]

end Pairing

end TriggerLatch
