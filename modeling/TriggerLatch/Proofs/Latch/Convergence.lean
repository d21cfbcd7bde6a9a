import TriggerLatch.Latch.Interleaving
import TriggerLatch.Proofs.Latch.Durable

/-!
# Callers at the same time converge

Any number of callers use a latch, their actions interleaved in any order, and their saves end in
any way.  **When all have finished, one more flush brings the store, the latch and the last edge or
clear into agreement** (`Crowd.converges`).

The invariant is `Crowd.Orderly`.  The gate is held by one caller or by none, and the stage of each
caller tells what it may rely on (`Caller.Fits`): the one that is saving, that the cell is dirty and
stays so; the one that is confirming, that the store has its snapshot as well.  Everyone else only
knows that the gate is not theirs, which is why nothing that the holder does can upset them.
-/

namespace TriggerLatch

namespace Caller

/-- What the stage of a caller says of the latch; `mine` says that the caller holds the gate. -/
def Fits (l : Latch) (mine : Prop) (c : Caller) : Prop :=
  match c.stage with
  | .ready | .cleared => ¬ mine
  | .admitted | .leaving => mine
  | .saving _ => mine ∧ l.cell.dirty = true
  | .confirming s => mine ∧ l.cell.dirty = true ∧ l.backing.kept = .ok (some s.triggered)

variable {l l' : Latch} {c : Caller}

theorem Fits.mono {mine : Prop} (h : c.Fits l mine)
    (hd : l.cell.dirty = true → l'.cell.dirty = true) (hb : l'.backing = l.backing) :
    c.Fits l' mine := by
  obtain ⟨program, stage⟩ := c
  cases stage with
  | ready | cleared | admitted | leaving => exact h
  | saving => exact ⟨h.1, hd h.2⟩
  | confirming => exact ⟨h.1, hd h.2.1, hb ▸ h.2.2⟩

theorem Fits.of_not_mine {mine mine' : Prop} (h : c.Fits l mine) (hm : ¬ mine) (hm' : ¬ mine') :
    c.Fits l' mine' := by
  obtain ⟨program, stage⟩ := c
  cases stage with
  | ready | cleared => exact hm'
  | admitted | leaving => exact absurd h hm
  | saving | confirming => exact absurd h.1 hm

end Caller

namespace Disturbance

/-- What a latch reads after an edge or a clear. -/
def value : Disturbance → Bool
  | .edge => true
  | .reset => false

end Disturbance

/-- What a latch reads that began with `v`: the last of the edges and clears decides. -/
def Crowd.lastMark (v : Bool) (marks : List Disturbance) : Bool :=
  match marks.getLast? with
  | none => v
  | some m => m.value

/-- What the action of caller `i` comes to, where the gate is held by `holder` before and by
`holder'` after: all that the callers rely on is kept up. -/
structure Deed.Orderly (l : Latch) (holder : Option Nat) (i : Nat) (d : Deed)
    (holder' : Option Nat) : Prop where
  sound : d.latch.Sound
  gate : d.latch.gate.held = holder'.isSome
  own : d.caller.Fits d.latch (holder' = some i)
  others : ∀ j c, j ≠ i → Caller.Fits l (holder = some j) c →
    Caller.Fits d.latch (holder' = some j) c
  present : ∀ j, holder' = some j → holder = some j ∨ j = i
  read : d.latch.read = (d.mark.map Disturbance.value).getD l.read

namespace Caller

variable {l : Latch} {holder : Option Nat} {i : Nat}

/-- What does not concern the gate and only disturbs the cell upsets nobody. -/
theorem orderly_of_disturbed {d : Deed} (hg : l.gate.held = holder.isSome)
    (hs : d.latch.Sound) (hd : l.cell.dirty = true → d.latch.cell.dirty = true)
    (hb : d.latch.backing = l.backing) (hgate : d.latch.gate = l.gate)
    (hown : d.caller.Fits d.latch (holder = some i))
    (hread : d.latch.read = (d.mark.map Disturbance.value).getD l.read) :
    d.Orderly l holder i holder where
  sound := hs
  gate := hgate ▸ hg
  own := hown
  others _ _ _ h := h.mono hd hb
  present _ h := .inl h
  read := hread

/-- What happens while nobody else has the gate upsets nobody. -/
theorem orderly_of_alone {holder' : Option Nat} {d : Deed} (hs : d.latch.Sound)
    (hg : d.latch.gate.held = holder'.isSome) (hown : d.caller.Fits d.latch (holder' = some i))
    (h : ∀ j, holder = some j → j = i) (h' : ∀ j, holder' = some j → j = i)
    (hread : d.latch.read = (d.mark.map Disturbance.value).getD l.read) :
    d.Orderly l holder i holder' where
  sound := hs
  gate := hg
  own := hown
  others j _ hj hc := hc.of_not_mine (fun e => hj (h j e)) fun e => hj (h' j e)
  present j e := .inr (h' j e)
  read := hread

theorem eq_of_holder {j : Nat} (h : holder = some i) (hj : holder = some j) : j = i :=
  Option.some.inj (hj.symm.trans h)

theorem orderly_taken {c : Caller} (hl : l.Sound) (hg : l.gate.held = holder.isSome)
    (hfree : l.gate.held = false) (hc : c.stage = .admitted) :
    Deed.Orderly l holder i ⟨c, l.taken, none⟩ (some i) := by
  have hnone : holder = none := by
    cases holder with
    | none => rfl
    | some j =>
      rw [hfree] at hg
      cases hg
  refine orderly_of_alone (hl.congr rfl rfl rfl) rfl ?_ ?_ ?_ rfl
  · unfold Fits
    rw [hc]
  · intro j h
    cases hnone.symm.trans h
  · intro j h
    exact (Option.some.inj h).symm

theorem orderly_begin {rest : List Call} {call : Call} {d : Deed} (hl : l.Sound)
    (hg : l.gate.held = holder.isSome) (hc : ¬ holder = some i) (h : begin rest l call = some d) :
    ∃ holder', d.Orderly l holder i holder' := by
  cases call with
  | edge =>
    cases h
    exact ⟨holder, orderly_of_disturbed hg hl.recordEdge Cell.recordEdge_dirty_of_dirty rfl rfl hc
      l.cell.recordEdge_triggered⟩
  | reset =>
    cases h
    refine ⟨holder, orderly_of_disturbed hg hl.cleared (Cell.disturb_dirty · .reset) rfl rfl ?_
      l.cell.clear_triggered⟩
    unfold Fits
    by_cases hi : l.cell = Cell.idle
    · simp only [if_pos hi]
      exact hc
    · simp only [if_neg hi]
      exact hc
  | flush =>
    unfold begin at h
    cases hfree : l.gate.held with
    | true => simp [hfree] at h
    | false =>
      simp only [hfree, Bool.false_eq_true, if_false, Option.some.injEq] at h
      subst h
      exact ⟨some i, orderly_taken hl hg hfree rfl⟩

/-- **A save hands the store what the caller has seen**; the cell is dirty throughout. -/
theorem orderly_save {c : Caller} {s : Cell} {verdict : Verdict} (hl : l.Sound)
    (hg : l.gate.held = holder.isSome) (hmine : holder = some i) (hd : l.cell.dirty = true) :
    ∃ holder', (c.save l s verdict).Orderly l holder i holder' := by
  have hsound {b : Backing} {g : Gate} (hb : b.store = l.backing.store) :
      Latch.Sound ⟨l.cell, g, b⟩ := by
    refine ⟨hb ▸ hl.made, fun h => ?_⟩
    cases hd.symm.trans h
  have hmine' : ∀ j, holder = some j → j = i := fun _ => eq_of_holder hmine
  have hstore := l.backing.finish_store s.triggered verdict
  -- a panic gives the gate up at once, any other end leaves it to the holder
  unfold save
  rcases l.backing.finish_cases s.triggered verdict with ⟨b, h⟩ | ⟨e, b, h⟩ | ⟨b, h⟩
  · rw [h] at hstore ⊢
    exact ⟨holder, orderly_of_alone (hsound hstore) hg
      ⟨hmine, hd, Backing.kept_of_finish hl.made h⟩ hmine' hmine' rfl⟩
  · rw [h] at hstore ⊢
    exact ⟨holder, orderly_of_alone (hsound hstore) hg hmine hmine' hmine' rfl⟩
  · rw [h] at hstore ⊢
    exact ⟨none, orderly_of_alone (hsound hstore) rfl (Option.some_ne_none i).symm hmine'
      (fun j hj => absurd hj.symm (Option.some_ne_none j)) rfl⟩

/-- **No action of a caller upsets what the callers rely on.** -/
theorem orderly_act {c : Caller} {verdict : Verdict} {d : Deed} (hl : l.Sound)
    (hg : l.gate.held = holder.isSome) (hc : c.Fits l (holder = some i))
    (h : c.act l verdict = some d) : ∃ holder', d.Orderly l holder i holder' := by
  obtain ⟨program, stage⟩ := c
  cases stage with
  | ready =>
    cases program with
    | nil => cases h
    | cons call rest => exact orderly_begin hl hg hc h
  | cleared =>
    -- the gate is tried: whoever holds it keeps it, and a free one is taken
    unfold act at h
    cases hfree : l.gate.held with
    | true =>
      simp only [hfree, if_true, Option.some.injEq] at h
      subst h
      exact ⟨holder, orderly_of_disturbed hg hl id rfl rfl hc rfl⟩
    | false =>
      simp only [hfree, Bool.false_eq_true, if_false, Option.some.injEq] at h
      subst h
      exact ⟨some i, orderly_taken hl hg hfree rfl⟩
  | admitted =>
    cases h
    refine ⟨holder, orderly_of_disturbed hg hl id rfl rfl ?_ rfl⟩
    cases hd : l.cell.dirty with
    | true => exact ⟨hc, hd⟩
    | false => exact hc
  | saving s =>
    cases h
    exact orderly_save hl hg hc.1 hc.2
  | confirming s =>
    cases h
    obtain ⟨hmine, hd, hk⟩ := hc
    have hmine' : ∀ j, holder = some j → j = i := fun _ => eq_of_holder hmine
    refine ⟨holder, orderly_of_alone ⟨hl.made, ?_⟩ hg hmine hmine' hmine'
      (l.cell.confirm_triggered s)⟩
    intro hclean
    -- only the holder confirms, so the store still has the snapshot that makes the cell clean
    obtain rfl : l.cell = s := Cell.eq_of_confirm_clean hd hclean
    rw [Latch.read, Cell.confirm_triggered]
    exact Backing.keeps_of_kept hk
  | leaving =>
    cases h
    exact ⟨none, orderly_of_alone (hl.congr rfl rfl rfl) rfl (Option.some_ne_none i).symm
      (fun _ => eq_of_holder hc) (fun j hj => absurd hj.symm (Option.some_ne_none j)) rfl⟩

end Caller

namespace Crowd

/-- The invariant of a crowd whose latch has read `v` in the beginning. -/
structure Orderly (v : Bool) (holder : Option Nat) (w : Crowd) : Prop where
  sound : w.latch.Sound
  gate : w.latch.gate.held = holder.isSome
  fits : ∀ j (c : Caller), w.callers[j]? = some c → c.Fits w.latch (holder = some j)
  present : ∀ j, holder = some j → j < w.callers.length
  read : w.latch.read = lastMark v w.marks

variable {v : Bool} {holder : Option Nat} {w : Crowd}

theorem orderly_start {l : Latch} (hl : l.Sound) (hg : l.gate.held = false)
    (programs : List (List Call)) : (start l programs).Orderly l.read none where
  sound := hl
  gate := hg
  fits j c h := by
    obtain ⟨program, -, rfl⟩ := List.mem_map.1 (List.mem_of_getElem? h)
    exact (Option.some_ne_none j).symm
  present j h := absurd h.symm (Option.some_ne_none j)
  read := rfl

theorem lastMark_append (v : Bool) (marks : List Disturbance) (mark : Option Disturbance) :
    lastMark v (marks ++ mark.toList) =
      (mark.map Disturbance.value).getD (lastMark v marks) := by
  cases mark with
  | none => rw [Option.toList, List.append_nil]; rfl
  | some m => rw [Option.toList, lastMark, List.getLast?_concat]; rfl

/-- **One turn keeps the crowd orderly.** -/
theorem Orderly.step (h : w.Orderly v holder) (t : Turn) :
    ∃ holder', (w.step t).Orderly v holder' := by
  unfold Crowd.step
  cases hc : w.callers[t.caller]? with
  | none => exact ⟨holder, h⟩
  | some c =>
    simp only
    cases ha : c.act w.latch t.verdict with
    | none => exact ⟨holder, h⟩
    | some d =>
      obtain ⟨hlt, -⟩ := List.getElem?_eq_some_iff.1 hc
      obtain ⟨holder', hd⟩ := Caller.orderly_act h.sound h.gate (h.fits _ _ hc) ha
      refine ⟨holder', hd.sound, hd.gate, ?_, ?_, ?_⟩
      · -- the caller whose turn it was, and all the others
        intro j c' hj
        by_cases hji : j = t.caller
        · subst hji
          rw [List.getElem?_set_self hlt] at hj
          cases hj
          exact hd.own
        · rw [List.getElem?_set_ne (Ne.symm hji)] at hj
          exact hd.others j c' hji (h.fits j c' hj)
      · intro j hj
        rw [List.length_set]
        rcases hd.present j hj with hj | rfl
        · exact h.present j hj
        · exact hlt
      · rw [lastMark_append, ← h.read]
        exact hd.read

theorem Orderly.run (h : w.Orderly v holder) (ts : List Turn) :
    ∃ holder', (w.run ts).Orderly v holder' := by
  induction ts generalizing w holder with
  | nil => exact ⟨holder, h⟩
  | cons t ts ih =>
    obtain ⟨holder', h'⟩ := h.step t
    exact ih h'

theorem Orderly.gate_free (h : w.Orderly v holder) (hw : w.settled) :
    w.latch.gate.held = false := by
  cases holder with
  | none => exact h.gate
  | some j =>
    have hlt := h.present j rfl
    have hc := h.fits j _ (List.getElem?_eq_getElem hlt)
    have hdone : w.callers[j] = ⟨[], .ready⟩ := hw _ (List.getElem_mem hlt)
    rw [hdone] at hc
    exact absurd rfl hc

end Crowd

namespace Latch

theorem flush_accepted {l : Latch} (hg : l.gate.held = false) (hq : l.backing.next.during = [])
    (ha : l.cell.dirty = true → ∃ b, l.attempt = (.returned (.ok ()), b)) :
    ∃ o l', l.flush = (.returned (.ok o), l') ∧ l'.cell.dirty = false ∧ l'.read = l.read := by
  rcases l.flush_spec with ⟨hheld, -⟩ | ⟨-, h⟩
  · cases hg.symm.trans hheld
  · have hsame : l.disturbed = l.cell := by rw [disturbed, hq]; rfl
    generalize hr : l.flush = r at h
    obtain ⟨r, l'⟩ := r
    cases h with
    | clean hd => exact ⟨_, _, rfl, hd, rfl⟩
    | accepted hd hs =>
      refine ⟨_, _, rfl, ?_, ?_⟩
      · rw [hsame]
        exact Cell.confirm_dirty_eq_false_iff.2 (.inl rfl)
      · rw [hsame]
        exact l.cell.confirm_triggered l.cell
    | refused hd hs =>
      obtain ⟨b, hb⟩ := ha hd
      cases hs.symm.trans hb
    | panicked hd hs =>
      obtain ⟨b, hb⟩ := ha hd
      cases hs.symm.trans hb

end Latch

namespace Crowd

/-- **Callers at the same time converge.**  Whatever the callers, their programs and the order of
their actions: once all have finished, one more flush whose save is accepted ends well and leaves
the latch clean, and the store keeps what the latch reads, which is what the last edge or clear has
made of it. -/
theorem converges {b : Backing} (hs : b.store.Made) {v : Option Bool} (hv : b.load = .ok v)
    (programs : List (List Call)) (ts : List Turn) {w : Crowd}
    (hw : w = (start (.seed b) programs).run ts) (hset : w.settled)
    (hq : w.latch.backing.next.during = [])
    (ha : w.latch.cell.dirty = true → ∃ b', w.latch.attempt = (.returned (.ok ()), b')) :
    ∃ o l, w.latch.flush = (.returned (.ok o), l) ∧ l.cell.dirty = false ∧
      l.backing.Keeps l.read ∧ l.read = lastMark (v.getD false) w.marks := by
  obtain ⟨holder, h⟩ := (orderly_start (Latch.sound_seed hs hv) rfl programs).run ts
  rw [← hw, show (Latch.seed b).read = v.getD false from Latch.seedValue_of_load hv] at h
  obtain ⟨o, l, hflush, hclean, hread⟩ := Latch.flush_accepted (h.gate_free hset) hq ha
  refine ⟨o, l, hflush, hclean, ?_, hread.trans h.read⟩
  have hl : l.Sound := by
    have hl := h.sound.flush
    rw [hflush] at hl
    exact hl
  exact hl.durable hclean

/-- A trigger that is reset while a flush is saving it: the reset finds the gate busy, the flush
finds the latch changed, and the next flush writes what the reset has left. -/
theorem converges_reset_during_flush :
    let turns : List Nat := [0, 0, 0, 1, 0, 1, 0, 0]
    let w := (start (.seed (.inMemory none none [])) [[.edge, .flush], [.reset]]).run
      (turns.map (⟨·, .commit⟩))
    w.settled ∧ w.latch.cell = ⟨false, true⟩ ∧ w.latch.backing.kept = .ok (some true) ∧
      ∃ o l, w.latch.flush = (.returned (.ok o), l) ∧ l.cell.dirty = false ∧
        l.backing.Keeps l.read ∧ l.read = lastMark false w.marks := by
  intro turns w
  have hset : w.settled := by
    unfold settled
    decide
  exact ⟨hset, rfl, rfl, converges (v := none) .memory rfl [[.edge, .flush], [.reset]]
    (turns.map (⟨·, .commit⟩)) rfl hset rfl fun _ => ⟨_, rfl⟩⟩

end Crowd

end TriggerLatch
