import TriggerLatch.Proofs.Latch.Attempts

/-!
# What a flush and a reset come to

A flush and a reset, each in all its cases: what is returned, what is saved, and what is left in the
cell, in the gate and in the store.

* What reaches a latch during a save are its own calls, made while the gate is held
  (`Latch.disturbFree_of_held`).  None of them makes a save: a reset finds the gate busy, and an
  edge latches the trigger exactly if it was idle right before (`Latch.Saves`).
* `Latch.flush_outcomes`: a flush of a clean latch does nothing.  One of a dirty latch makes one
  save of what the latch reads; whether that leaves it clean depends only on what the latch reads
  when the save is over.
* `Latch.reset_outcomes`: a reset that finds something to do makes one save of `false`, or none
  if the gate is held, and the latch reads `false` afterwards unless an edge came during the save.
-/

namespace TriggerLatch

namespace Latch

variable {l l' : Latch}

/-! ### During a save -/

/-- **Calls made while the gate is held** change the cell and nothing else. -/
theorem disturbFree_of_held (hg : l.gate.held = true) (ds : List Disturbance) :
    l.disturbFree ds =
      (.returned (l.cell.reactionsTo ds), { l with cell := l.cell.disturbAll ds }) := by
  induction ds generalizing l with
  | nil => rfl
  | cons d ds ih =>
    cases d with
    | edge =>
      have hrest := ih (l := l.recordEdge.2) hg
      simp only [recordEdge] at hrest
      simp only [disturbFree, recordEdge, hrest]
      rfl
    | reset =>
      have hreset : l.reset =
          (.returned (if l.cell = Cell.idle then .ok () else .error .busy), l.cleared) := by
        rcases l.reset_spec with ⟨hidle, h⟩ | ⟨hcell, -, h⟩ | ⟨-, hfree, -⟩
        · rw [h, if_pos hidle, cleared_of_idle hidle]
        · rw [h, if_neg hcell]
        · cases hg.symm.trans hfree
      rw [disturbFree, hreset]
      simp only [ih (l := l.cleared) hg]
      rfl

theorem busy_of_mem_reactionsTo {c : Cell} (hd : c.dirty = true) {ds : List Disturbance}
    {r : Except PersistError Unit} (hr : .reset r ∈ c.reactionsTo ds) : r = .error .busy := by
  induction ds generalizing c with
  | nil => cases hr
  | cons d ds ih =>
    rcases List.mem_cons.1 hr with h | h
    · cases d with
      | edge => cases h
      | reset =>
        have hbusy : r = if c = Cell.idle then .ok () else .error .busy := Reaction.reset.inj h
        rw [hbusy, if_neg (Cell.ne_idle_of_dirty hd)]
    · exact ih (Cell.disturb_dirty hd d) h

/-- **The save that entry `x` of the log tells of.**  It was made now, of `value`.  What it tells to
have come meanwhile is what comes of the latch's own calls with the gate held: they change the cell
alone, and leave it reading `w`. -/
structure Saves (l : Latch) (value w : Bool) (x : SaveEntry) : Prop where
  value : x.value = value
  time : x.time = l.backing.clock.millis
  calls : { l with gate := l.gate.acquire }.disturbFree l.backing.next.during =
    (.returned x.during, ⟨⟨w, true⟩, l.gate.acquire, l.backing⟩)
  busy : ∀ r, .reset r ∈ x.during → r = .error .busy
  edges : Occurrence.Truthful l.read (x.during.map .ofReaction)

theorem disturbed_eq (hd : l.cell.dirty = true) : l.disturbed = ⟨l.disturbed.triggered, true⟩ :=
  Cell.eq_of_dirty (disturbed_dirty hd) rfl rfl

/-- **A dirty latch that is written makes one save**, of what it reads. -/
theorem saves_attempt (hd : l.cell.dirty = true) :
    ∃ x, l.Saves l.read l.disturbed.triggered x ∧ l.attempt.2.saves = l.backing.saves ++ [x] := by
  refine ⟨_, ⟨rfl, rfl, ?_, ?_, ?_⟩, l.attempt_saves⟩
  · rw [disturbFree_of_held rfl, ← disturbed_eq hd]
    rfl
  · exact fun r => busy_of_mem_reactionsTo hd
  · exact l.cell.truthful_reactionsTo _

theorem confirm_disturbed (hd : l.cell.dirty = true) :
    l.disturbed.confirm l.cell = ⟨l.disturbed.triggered, l.disturbed.triggered != l.read⟩ := by
  rw [disturbed_eq hd]
  obtain ⟨⟨triggered, dirty⟩, gate, backing⟩ := l
  obtain rfl : dirty = true := hd
  simp only [Cell.confirm, read, Cell.mk.injEq, and_true]
  generalize (disturbed _).triggered = w
  cases w <;> cases triggered <;> rfl

theorem outcome_disturbed (hd : l.cell.dirty = true) :
    outcome l.cell l.disturbed =
      if l.disturbed.triggered = l.read then .persisted l.read else .superseded l.read := by
  have hholds : l.disturbed.holds l.cell = true ↔ l.disturbed.triggered = l.read := by
    rw [Cell.holds, beq_iff_eq]
    exact ⟨congrArg Cell.triggered, Cell.eq_of_dirty (disturbed_dirty hd) hd⟩
  exact ite_congr (propext hholds) (fun _ => rfl) fun _ => rfl

/-- **What a write of a dirty latch comes to**, by the way its save ends; `w` is what the latch
reads by then. -/
theorem Writes.of_dirty {r : Ending (Except PersistError FlushOutcome)} (h : Writes l r l')
    (hd : l.cell.dirty = true) :
    let w := l.disturbed.triggered
    match l.attempt with
    | (.returned (.ok ()), b) =>
      r = .returned (.ok (if w = l.read then .persisted l.read else .superseded l.read)) ∧
        l' = ⟨⟨w, w != l.read⟩, l.gate.release false, b⟩
    | (.returned (.error e), b) =>
      r = .returned (.error (.store e)) ∧ l' = ⟨⟨w, true⟩, l.gate.release false, b⟩
    | (.panicked reason, b) =>
      r = .panicked reason ∧ l' = ⟨⟨w, true⟩, ⟨false, true⟩, b⟩
    | (.blocked, _) => False := by
  intro w
  have hpoisoned : l.gate.release true = ⟨false, true⟩ := by rw [Gate.release, Bool.or_true]
  cases h with
  | clean hclean => cases hd.symm.trans hclean
  | accepted _ hs =>
    rw [hs, confirm_disturbed hd, outcome_disturbed hd]
    exact ⟨rfl, rfl⟩
  | refused _ hs =>
    rw [hs]
    exact ⟨rfl, congrArg (Latch.mk · _ _) (disturbed_eq hd)⟩
  | panicked _ hs =>
    rw [hs, hpoisoned]
    exact ⟨rfl, congrArg (Latch.mk · _ _) (disturbed_eq hd)⟩

theorem release_of_free {g : Gate} (hg : g.held = false) : g.release false = g := by
  rw [Gate.release, Bool.or_false, ← hg]

/-! ### The results -/

/-- **What a flush comes to.**  It waits for the gate.  With the gate free, a clean latch is left
alone, and a dirty one saves what it reads, once.  If the save is accepted, the latch is clean if it
reads at the end what was saved, whatever came in between, and dirty otherwise; if the save is
refused or panics, the latch is dirty. -/
theorem flush_outcomes (l : Latch) :
    (l.gate.held = true → l.flush = (.blocked, l)) ∧
      (l.gate.held = false → l.cell.dirty = false → l.flush = (.returned (.ok .clean), l)) ∧
      (l.gate.held = false → l.cell.dirty = true →
        let w := l.disturbed.triggered
        (∃ x, l.Saves l.read w x ∧ l.flush.2.backing.saves = l.backing.saves ++ [x]) ∧
          match l.attempt with
          | (.returned (.ok ()), b) =>
            if w = l.read then
              l.flush = (.returned (.ok (.persisted l.read)), ⟨⟨l.read, false⟩, l.gate, b⟩)
            else l.flush = (.returned (.ok (.superseded l.read)), ⟨⟨w, true⟩, l.gate, b⟩)
          | (.returned (.error e), b) =>
            l.flush = (.returned (.error (.store e)), ⟨⟨w, true⟩, l.gate, b⟩)
          | (.panicked reason, b) => l.flush = (.panicked reason, ⟨⟨w, true⟩, ⟨false, true⟩, b⟩)
          | (.blocked, _) => False) := by
  rcases l.flush_spec with ⟨hheld, h⟩ | ⟨hfree, hwrites⟩
  · refine ⟨fun _ => h, fun hfree => ?_, fun hfree => ?_⟩
    · cases hheld.symm.trans hfree
    · cases hheld.symm.trans hfree
  · have hgate : l.gate.release false = l.gate := release_of_free hfree
    generalize l.flush = result at hwrites
    obtain ⟨r, l'⟩ := result
    refine ⟨fun hheld => ?_, fun _ hclean => ?_, fun _ hd => ?_⟩
    · cases hfree.symm.trans hheld
    · cases hwrites with
      | clean => rw [hgate]
      | accepted hd | refused hd | panicked hd => cases hd.symm.trans hclean
    · intro w
      obtain ⟨x, hx, hlog⟩ := saves_attempt hd
      have hends := hwrites.of_dirty hd
      rw [hgate] at hends
      generalize l.attempt = s at hlog hends ⊢
      obtain ⟨(e | _) | reason | _, b⟩ := s
      · obtain ⟨rfl, rfl⟩ := hends
        exact ⟨⟨x, hx, hlog⟩, rfl⟩
      · obtain ⟨rfl, rfl⟩ := hends
        refine ⟨⟨x, hx, hlog⟩, ?_⟩
        by_cases hw : w = l.read
        · simp [w, hw]
        · simp [w, hw]
      · obtain ⟨rfl, rfl⟩ := hends
        exact ⟨⟨x, hx, hlog⟩, rfl⟩
      · exact hends.elim

/-- The trigger is taken back and latched again while the save of `true` is under way, behind a gate
that a panic has marked: the latch is clean, as it reads what was saved.  With one more reset it
is not. -/
theorem flush_outcomes_changed_back :
    let l (during : List Disturbance) : Latch :=
      ⟨⟨true, true⟩, ⟨false, true⟩, .inMemory (some false) none [⟨during, .commit⟩]⟩
    let back := l [.reset, .edge, .edge]
    let ahead := l [.reset, .edge, .edge, .reset]
    (back.gate.held = false ∧ back.cell.dirty = true ∧ ahead.gate.held = false) ∧
      (∃ x, back.Saves true true x ∧ back.flush.2.backing.saves = [x]) ∧
      back.flush.1 = .returned (.ok (.persisted true)) ∧ back.flush.2.cell = ⟨true, false⟩ ∧
      ahead.flush.1 = .returned (.ok (.superseded true)) ∧ ahead.flush.2.cell = ⟨false, true⟩ := by
  intro l back ahead
  obtain ⟨hsaved, hback⟩ := (flush_outcomes back).2.2 rfl rfl
  have hahead := ((flush_outcomes ahead).2.2 rfl rfl).2
  exact ⟨⟨rfl, rfl, rfl⟩, hsaved, congrArg Prod.fst hback, congrArg (·.2.cell) hback,
    congrArg Prod.fst hahead, congrArg (·.2.cell) hahead⟩

theorem cleared_cell (h : l.cell ≠ Cell.idle) : l.cleared.cell = ⟨false, true⟩ :=
  Cell.clear_of_ne_idle h

theorem disturbed_of_no_edge (hr : l.read = false) (he : .edge ∉ l.backing.next.during) :
    l.disturbed.triggered = false := by
  have hlast : l.disturbed.triggered = l.read := by
    refine Cell.disturbAll_triggered_eq_iff.2 fun d hd => ?_
    cases d with
    | edge => exact absurd (List.mem_of_getLast? hd) he
    | reset => exact hr.symm
  exact hlast.trans hr

/-- **What a reset comes to.**  A latch that is idle and clean is left alone.  Any other is cleared;
with the gate held that is all, and with the gate free it saves `false`, once.  If the save is
accepted, the latch is idle and clean unless it was latched meanwhile; if the save is refused or
panics, the latch is dirty.  Without an edge during the save the latch reads `false` afterwards. -/
theorem reset_outcomes (l : Latch) :
    (l.cell = Cell.idle → l.reset = (.returned (.ok ()), l)) ∧
      (l.cell ≠ Cell.idle → l.gate.held = true →
        l.reset = (.returned (.error .busy), ⟨⟨false, true⟩, l.gate, l.backing⟩)) ∧
      (l.cell ≠ Cell.idle → l.gate.held = false →
        let w := l.cleared.disturbed.triggered
        (∃ x, l.cleared.Saves false w x ∧ l.reset.2.backing.saves = l.backing.saves ++ [x]) ∧
          match l.cleared.attempt with
          | (.returned (.ok ()), b) => l.reset = (.returned (.ok ()), ⟨⟨w, w⟩, l.gate, b⟩)
          | (.returned (.error e), b) =>
            l.reset = (.returned (.error (.store e)), ⟨⟨w, true⟩, l.gate, b⟩)
          | (.panicked reason, b) => l.reset = (.panicked reason, ⟨⟨w, true⟩, ⟨false, true⟩, b⟩)
          | (.blocked, _) => False) ∧
      (l.cell = Cell.idle ∨ l.gate.held = true ∨ .edge ∉ l.backing.next.during →
        l.reset.2.read = false) := by
  rcases l.reset_spec with ⟨hidle, h⟩ | ⟨hcell, hheld, h⟩ | ⟨hcell, hfree, r, hr, hwrites⟩
  · have hread : l.read = false := by rw [read, hidle]; rfl
    rw [h]
    exact ⟨fun _ => rfl, fun hcell => absurd hidle hcell, fun hcell => absurd hidle hcell,
      fun _ => hread⟩
  · have hcleared : l.cleared = ⟨⟨false, true⟩, l.gate, l.backing⟩ :=
      congrArg (Latch.mk · _ _) (cleared_cell hcell)
    rw [h, hcleared]
    refine ⟨fun hidle => absurd hidle hcell, fun _ _ => rfl, fun _ hfree => ?_, fun _ => rfl⟩
    cases hheld.symm.trans hfree
  · have hd : l.cleared.cell.dirty = true := by rw [cleared_cell hcell]
    have hread : l.cleared.read = false := by rw [read, cleared_cell hcell]
    refine ⟨fun hidle => absurd hidle hcell, fun _ hheld => ?_, fun _ _ => ?_, fun hcases => ?_⟩
    · cases hfree.symm.trans hheld
    · intro w
      obtain ⟨x, hx, hlog⟩ := saves_attempt hd
      have hends := hwrites.of_dirty hd
      rw [hread] at hx hends
      have hgate : l.cleared.gate.release false = l.gate := release_of_free hfree
      rw [hgate] at hends
      generalize l.reset = result at hr hends ⊢
      obtain ⟨ending, l'⟩ := result
      obtain rfl : ending = forgetOutcome r := hr
      generalize l.cleared.attempt = s at hlog hends ⊢
      obtain ⟨(e | _) | reason | _, b⟩ := s
      · obtain ⟨rfl, rfl⟩ := hends
        exact ⟨⟨x, hx, hlog⟩, rfl⟩
      · obtain ⟨rfl, rfl⟩ := hends
        refine ⟨⟨x, hx, hlog⟩, ?_⟩
        rw [Bool.bne_false]
        rfl
      · obtain ⟨rfl, rfl⟩ := hends
        exact ⟨⟨x, hx, hlog⟩, rfl⟩
      · exact hends.elim
    · rcases hcases with hidle | hheld | hedge
      · exact absurd hidle hcell
      · cases hfree.symm.trans hheld
      · rw [hwrites.read_of_dirty hd]
        exact disturbed_of_no_edge hread hedge

/-- A trigger that was taken back but not written is reset once more, and latched while `false` is
saved: the reset succeeds, and the latch is left latched and dirty.  With the gate held, nothing is
saved. -/
theorem reset_outcomes_edge_during_save :
    let l (gate : Gate) : Latch :=
      ⟨⟨false, true⟩, gate, .inMemory (some true) none [⟨[.edge, .reset, .edge], .commit⟩]⟩
    let free := l ⟨false, true⟩
    let held := l ⟨true, false⟩
    (free.cell ≠ Cell.idle ∧ free.gate.held = false ∧ held.gate.held = true) ∧
      (∃ x, free.cleared.Saves false true x ∧ free.reset.2.backing.saves = [x]) ∧
      free.reset.1 = .returned (.ok ()) ∧ free.reset.2.cell = ⟨true, true⟩ ∧
      held.reset.1 = .returned (.error .busy) ∧ held.reset.2.backing.saves = [] := by
  intro l free held
  obtain ⟨hsaved, hfree⟩ := (reset_outcomes free).2.2.1 nofun rfl
  have hheld := (reset_outcomes held).2.1 nofun rfl
  exact ⟨⟨nofun, rfl, rfl⟩, hsaved, congrArg Prod.fst hfree, congrArg (·.2.cell) hfree,
    congrArg Prod.fst hheld, congrArg (·.2.backing.saves) hheld⟩

end Latch

end TriggerLatch
