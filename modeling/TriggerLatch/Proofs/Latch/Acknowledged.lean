import TriggerLatch.Latch.Interleaving
import TriggerLatch.Proofs.Latch.Durable
import TriggerLatch.Proofs.Latch.History

/-!
# Acknowledged resets

A reset that returns without an error should have made the idle value durable, so that the next
start on the same store finds the latch idle.  It has, except in one case, which
`Latch.reboot_idle_iff` names exactly: **the store could not be read when the latch was started, it
held the trigger all the same, and no edge has come before the reset.**  Such a latch starts idle
and clean like one whose store holds `false`, and a reset of it returns at once without a write
(`Latch.reboot_latched_after_reset`).

The proof follows the cell.  The first edge makes a latch sound whatever it was started with, and an
acknowledged reset of a sound latch leaves it idle with `false` in the store; from then on nothing
is written until the next edge.
-/

namespace TriggerLatch

namespace Latch

/-- A call by a caller that is alone. -/
def call (l : Latch) : Call → Latch
  | .edge => l.recordEdge.2
  | .reset => l.reset.2
  | .flush => l.flush.2

/-- A row of calls. -/
def calls (l : Latch) (cs : List Call) : Latch := cs.foldl call l

variable {l l' : Latch}

theorem Sound.call (hl : l.Sound) (c : Call) : (l.call c).Sound := by
  cases c with
  | edge => exact hl.recordEdge
  | reset => exact hl.reset
  | flush => exact hl.flush

theorem Sound.calls (hl : l.Sound) (cs : List Call) : (l.calls cs).Sound := by
  induction cs generalizing l with
  | nil => exact hl
  | cons c cs ih => exact ih (hl.call c)

theorem call_of_idle (hl : l.cell = Cell.idle) {c : Call} (hc : c ≠ .edge) :
    (l.call c).cell = Cell.idle ∧ (l.call c).backing = l.backing := by
  cases c with
  | edge => exact absurd rfl hc
  | reset =>
    have h : l.reset.2 = l := by
      rw [reset, if_pos hl]
      exact cleared_of_idle hl
    rw [call, h]
    exact ⟨hl, rfl⟩
  | flush =>
    rw [call]
    rcases l.flush_spec with ⟨-, h⟩ | ⟨-, h⟩
    · rw [h]
      exact ⟨hl, rfl⟩
    · generalize l.flush = r at h
      obtain ⟨r, l'⟩ := r
      cases h with
      | clean => exact ⟨hl, rfl⟩
      | accepted hd | refused hd | panicked hd => exact absurd hl (Cell.ne_idle_of_dirty hd)

/-- **Without an edge, an idle latch leaves its store alone.** -/
theorem calls_of_idle (hl : l.cell = Cell.idle) {cs : List Call} (hcs : .edge ∉ cs) :
    (l.calls cs).cell = Cell.idle ∧ (l.calls cs).backing = l.backing := by
  induction cs generalizing l with
  | nil => exact ⟨hl, rfl⟩
  | cons c cs ih =>
    obtain ⟨hc, hb⟩ := call_of_idle hl (c := c) fun h => hcs (h ▸ List.mem_cons_self)
    obtain ⟨hc', hb'⟩ := ih hc fun h => hcs (List.mem_cons_of_mem _ h)
    exact ⟨hc', hb'.trans hb⟩

/-- **The first edge makes an idle latch sound**, whatever its store holds. -/
theorem sound_calls_of_edge (hs : l.backing.store.Made) (hl : l.cell = Cell.idle) {cs : List Call}
    (hcs : .edge ∈ cs) : (l.calls cs).Sound := by
  induction cs generalizing l with
  | nil => cases hcs
  | cons c cs ih =>
    -- up to the first edge the latch stays idle; that edge makes it dirty, and so sound
    by_cases hc : c = .edge
    · subst hc
      have hdirty : l.recordEdge.2.cell.dirty = true := by
        rw [recordEdge, hl]
        rfl
      have hsound : l.recordEdge.2.Sound := ⟨hs, fun h => by cases hdirty.symm.trans h⟩
      exact hsound.calls cs
    · obtain ⟨hcell, hb⟩ := call_of_idle hl hc
      exact ih (hb ▸ hs) hcell ((List.mem_cons.1 hcs).resolve_left (Ne.symm hc))

/-- **An acknowledged reset of a sound latch leaves it idle, with `false` in the store**, unless an
edge has come during its save. -/
theorem Sound.acknowledged (hl : l.Sound) (hok : l.reset.1 = .returned (.ok ()))
    (hnews : ∀ latched, .edge latched ∉ l.reset.2.newsSince l) :
    l.reset.2.cell = Cell.idle ∧ l.reset.2.backing.Keeps false := by
  have hread : l.reset.2.read = false := by
    rw [l.follows_reset.read, List.cons_append, Occurrence.readAfter_cons]
    exact Occurrence.readAfter_of_no_edge hnews
  rcases l.reset_spec with ⟨hi, h⟩ | ⟨-, -, h⟩ | ⟨hi, -, r, hr, h⟩
  · have hdurable := hl.durable (by rw [hi]; rfl)
    rw [read, hi] at hdurable
    rw [h]
    exact ⟨hi, hdurable⟩
  · rw [h] at hok
    cases hok
  · have hcell : l.cleared.cell = ⟨false, true⟩ := Cell.clear_of_ne_idle hi
    rw [hr] at hok
    generalize l.reset.2 = l' at h hread
    cases h with
    | clean hd =>
      rw [hcell] at hd
      cases hd
    | accepted hd hs =>
      have hkept := kept_of_attempt hl.cleared.made hs
      rw [hcell] at hkept ⊢
      refine ⟨?_, Backing.keeps_of_kept hkept⟩
      -- only resets have come meanwhile, so the cell holds the snapshot and is confirmed
      have hsame : l.cleared.disturbed = ⟨false, true⟩ := by
        rw [read, Cell.confirm_triggered] at hread
        have hdirty := disturbed_dirty hd
        revert hread hdirty
        generalize l.cleared.disturbed = c
        obtain ⟨triggered, dirty⟩ := c
        rintro rfl rfl
        rfl
      rw [hsame]
      rfl
    | refused => cases hok
    | panicked => cases hok

theorem Sound.keeps_after_reset (hl : l.Sound) (hok : l.reset.1 = .returned (.ok ()))
    (hnews : ∀ latched, .edge latched ∉ l.reset.2.newsSince l) {after : List Call}
    (hafter : .edge ∉ after) : (l.reset.2.calls after).backing.Keeps false := by
  obtain ⟨hcell, hkeeps⟩ := hl.acknowledged hok hnews
  exact hkeeps.congr (congrArg Backing.kept (calls_of_idle hcell hafter).2)

/-- A reset of an idle latch writes nothing, nor does what follows up to the next edge. -/
theorem backing_after_reset_of_idle (hl : l.cell = Cell.idle) {after : List Call}
    (hafter : .edge ∉ after) : (l.reset.2.calls after).backing = l.backing := by
  obtain ⟨hcell, hb⟩ := call_of_idle hl (c := .reset) (by decide)
  exact (calls_of_idle hcell hafter).2.trans hb

theorem seed_cell_of_error {b : Backing} {e : StoreError} (h : b.load = .error e) :
    (seed b).cell = Cell.idle := by
  rw [seed, seedValue, h]
  rfl

theorem seed_read_of_keeps {b : Backing} {v : Option Bool} {value : Bool} (hv : b.load = .ok v)
    (hk : b.Keeps value) : (seed b).read = value := by
  obtain ⟨w, hw, rfl⟩ := hk
  obtain ⟨-, hkept⟩ := Backing.load_eq_ok_iff.1 hv
  obtain rfl : v = w := Except.ok.inj (hkept.symm.trans hw)
  exact seedValue_of_load hv

theorem seed_read_eq_true_iff {b : Backing} {v : Option Bool} (hv : b.load = .ok v) :
    (seed b).read = true ↔ b.kept = .ok (some true) := by
  obtain ⟨-, hkept⟩ := Backing.load_eq_ok_iff.1 hv
  have hread : (seed b).read = v.getD false := seedValue_of_load hv
  rw [hkept, hread]
  rcases v with _ | (_ | _) <;> simp

/-- **After an acknowledged reset, the next start on the same store finds the latch idle, except in
one case**: the latch itself was started while its store could not be read, the store held the
trigger, and there was no edge before the reset. -/
theorem reboot_idle_iff {b b' : Backing} (hs : b.store.Made) (before after : List Call)
    {l l' : Latch} (hl : l = (seed b).calls before) (hok : l.reset.1 = .returned (.ok ()))
    (hnews : ∀ latched, .edge latched ∉ l.reset.2.newsSince l)
    (hl' : l' = l.reset.2.calls after) (hafter : .edge ∉ after)
    (hstore : b'.store = l'.backing.store) (hmedium : b'.medium = l'.backing.medium)
    {v : Option Bool} (hv : b'.load = .ok v) :
    (seed b').read = false ↔
      ¬ ((∀ w, b.load ≠ .ok w) ∧ b.kept = .ok (some true) ∧ .edge ∉ before) := by
  have hkept : b'.kept = l'.backing.kept := by
    rw [Backing.kept, hstore, hmedium]
    rfl
  have hsound (h : l.Sound) : (seed b').read = false := by
    have hkeeps := h.keeps_after_reset hok hnews hafter
    rw [← hl'] at hkeeps
    exact seed_read_of_keeps hv (hkeeps.congr hkept)
  cases hb : b.load with
  | ok w =>
    have h : l.Sound := hl ▸ (sound_seed hs hb).calls before
    exact iff_of_true (hsound h) fun hbad => hbad.1 w rfl
  | error e =>
    have hcell : (seed b).cell = Cell.idle := seed_cell_of_error hb
    by_cases hbefore : .edge ∈ before
    · have h : l.Sound := hl ▸ sound_calls_of_edge (l := seed b) hs hcell hbefore
      exact iff_of_true (hsound h) fun hbad => hbad.2.2 hbefore
    · -- nothing has been written: the store still holds what could not be read at the start
      obtain ⟨hidle, hbacking⟩ := calls_of_idle hcell hbefore
      rw [← hl] at hidle hbacking
      have hsame : l'.backing = b := by
        rw [hl', backing_after_reset_of_idle hidle hafter, hbacking]
        rfl
      rw [← Bool.not_eq_true, seed_read_eq_true_iff hv, hkept, hsame]
      refine not_congr ⟨fun h => ⟨?_, h, hbefore⟩, fun h => h.2.1⟩
      intro w hw
      cases hw

/-- The trigger is reset, and the reset written before the restart. -/
theorem reboot_idle_after_write :
    let b := Backing.inMemory (some true) none []
    let l := (seed b).calls [.flush]
    let l' := l.reset.2.calls [.flush, .reset]
    l.reset.1 = .returned (.ok ()) ∧ (seed l'.backing).read = false := by
  refine ⟨rfl, (reboot_idle_iff (v := some false) .memory [.flush] [.flush, .reset]
    rfl rfl ?_ rfl ?_ rfl rfl rfl).2 ?_⟩
  · intro latched h
    cases h
  · decide
  · exact fun hbad => hbad.1 (some true) rfl

/-- **An acknowledged reset that is forgotten.**  The store holds the trigger but fails to load when
the latch is started; the reset returns without an error and without a write; and the next start,
which can read the store, finds the latch triggered. -/
theorem reboot_latched_after_reset :
    let b := Backing.inMemory (some true) (some (.unavailable "busy".toList)) []
    let l := (seed b).reset.2
    (seed b).reset.1 = .returned (.ok ()) ∧ l.read = false ∧ l.backing.saves = [] ∧
      (seed { l.backing with loadError := none }).read = true :=
  ⟨rfl, rfl, rfl, rfl⟩

end Latch

end TriggerLatch
