import TriggerLatch.Proofs.Latch.Writes

/-!
# The history of a latch

A latch reads whatever the last edge or reset has made of it, wherever that took place: in a call of
its own or in the middle of somebody's save.  `Latch.Follows` says so of a call.  The history of the
call is what the call itself is, followed by what the attempts to save that it has added to the log
report, and **the latch reads what the last entry of that history says**; besides, each edge in it
has latched the trigger if and only if the latch was idle right before.
-/

namespace TriggerLatch

/-- Something that decides what a latch reads. -/
inductive Occurrence where
  /-- An edge; it latched the trigger or found it latched. -/
  | edge (latched : Bool)
  /-- A reset, whatever became of it. -/
  | reset
  deriving DecidableEq, Repr

namespace Occurrence

/-- What reached a latch during a save, apart from the result of a reset. -/
def ofReaction : Reaction → Occurrence
  | .edge latched => .edge latched
  | .reset _ => .reset

/-- What a latch reads right after. -/
def value : Occurrence → Bool
  | .edge _ => true
  | .reset => false

/-- What a latch reads after a row of occurrences, the last of which decides; `v` if there are
none. -/
def readAfter (v : Bool) (os : List Occurrence) : Bool :=
  match os.getLast? with
  | none => v
  | some o => o.value

/-- Each edge has latched the trigger iff the latch, which began with `v`, was idle before it. -/
def Truthful (v : Bool) : List Occurrence → Prop
  | [] => True
  | o :: os => (∀ latched, o = .edge latched → latched = !v) ∧ Truthful o.value os

theorem readAfter_append (v : Bool) (os ps : List Occurrence) :
    readAfter v (os ++ ps) = readAfter (readAfter v os) ps := by
  unfold readAfter
  rw [List.getLast?_append]
  cases ps.getLast? <;> rfl

theorem readAfter_cons (v : Bool) (o : Occurrence) (os : List Occurrence) :
    readAfter v (o :: os) = readAfter o.value os :=
  readAfter_append v [o] os

theorem readAfter_of_no_edge {os : List Occurrence} (h : ∀ latched, .edge latched ∉ os) :
    readAfter false os = false := by
  unfold readAfter
  split
  · rfl
  · next o ho =>
    cases o with
    | edge latched => exact absurd (List.mem_of_getLast? ho) (h latched)
    | reset => rfl

theorem truthful_append {v : Bool} {os ps : List Occurrence} :
    Truthful v (os ++ ps) ↔ Truthful v os ∧ Truthful (readAfter v os) ps := by
  induction os generalizing v with
  | nil => exact ⟨fun h => ⟨trivial, h⟩, And.right⟩
  | cons o os ih => rw [List.cons_append, Truthful, Truthful, ih, readAfter_cons, and_assoc]

theorem Truthful.edge {v latched : Bool} {os ps : List Occurrence}
    (h : Truthful v (os ++ .edge latched :: ps)) : latched = !readAfter v os :=
  (truthful_append.1 h).2.1 latched rfl

end Occurrence

open Occurrence

namespace Cell

theorem disturb_triggered (c : Cell) (d : Disturbance) :
    (c.disturb d).triggered = (ofReaction (c.reactionTo d)).value := by
  cases d with
  | edge => exact recordEdge_triggered c
  | reset => exact clear_triggered c

theorem truthful_reactionTo (c : Cell) (d : Disturbance) (latched : Bool)
    (h : ofReaction (c.reactionTo d) = .edge latched) : latched = !c.triggered := by
  cases d with
  | edge =>
    cases h
    rfl
  | reset => cases h

theorem disturbAll_triggered (c : Cell) (ds : List Disturbance) :
    (c.disturbAll ds).triggered =
      readAfter c.triggered ((c.reactionsTo ds).map ofReaction) := by
  induction ds generalizing c with
  | nil => rfl
  | cons d ds ih =>
    rw [reactionsTo, List.map_cons, readAfter_cons, ← disturb_triggered]
    exact ih _

theorem truthful_reactionsTo (c : Cell) (ds : List Disturbance) :
    Truthful c.triggered ((c.reactionsTo ds).map ofReaction) := by
  induction ds generalizing c with
  | nil => trivial
  | cons d ds ih =>
    refine ⟨c.truthful_reactionTo d, ?_⟩
    rw [← disturb_triggered]
    exact ih _

end Cell

/-- What an attempt to save reports. -/
def SaveEntry.occurrences (e : SaveEntry) : List Occurrence := e.during.map ofReaction

namespace Latch

/-- What the attempts to save report that have come to the log since the latch was `l`. -/
def newsSince (l' l : Latch) : List Occurrence :=
  (l'.backing.saves.drop l.backing.saves.length).flatMap SaveEntry.occurrences

/-- The latch `l'` comes out of `l` by a step that is itself `own`, through the saves that it makes:
it reads what the last occurrence says, and each edge says truthfully whether it latched. -/
structure Follows (l : Latch) (own : List Occurrence) (l' : Latch) : Prop where
  log : l.backing.saves <+: l'.backing.saves
  read : l'.read = readAfter l.read (own ++ l'.newsSince l)
  truthful : Truthful l.read (own ++ l'.newsSince l)

variable {l l' l'' : Latch}

theorem newsSince_of_saves {es : List SaveEntry} (h : l'.backing.saves = l.backing.saves ++ es) :
    l'.newsSince l = es.flatMap SaveEntry.occurrences := by
  rw [newsSince, h, List.drop_left]

theorem newsSince_of_same (h : l'.backing.saves = l.backing.saves) : l'.newsSince l = [] := by
  rw [newsSince, h, List.drop_length]
  rfl

theorem follows_of_same (hc : l'.cell = l.cell) (hs : l'.backing.saves = l.backing.saves) :
    l.Follows [] l' where
  log := hs ▸ List.prefix_rfl
  read := by
    rw [newsSince_of_same hs, read, hc]
    rfl
  truthful := by
    rw [newsSince_of_same hs]
    trivial

theorem Follows.trans (h : l.Follows [] l') (h' : l'.Follows [] l'') : l.Follows [] l'' := by
  -- the news of both steps are the news of the first and then those of the second
  obtain ⟨es, hes⟩ := h.log
  obtain ⟨es', hes'⟩ := h'.log
  have hall : l''.backing.saves = l.backing.saves ++ (es ++ es') := by
    rw [← hes', ← hes, List.append_assoc]
  have hnews : l''.newsSince l = l'.newsSince l ++ l''.newsSince l' := by
    rw [newsSince_of_saves hall, newsSince_of_saves hes.symm, newsSince_of_saves hes'.symm,
      List.flatMap_append]
  refine ⟨h.log.trans h'.log, ?_, ?_⟩
  · rw [h'.read, h.read, hnews]
    exact (readAfter_append ..).symm
  · rw [List.nil_append, hnews]
    refine truthful_append.2 ⟨h.truthful, ?_⟩
    have ht := h'.truthful
    rw [h.read] at ht
    exact ht

theorem attempt_saves (l : Latch) :
    l.attempt.2.saves = l.backing.saves ++ [⟨l.backing.clock.millis, l.cell.triggered,
      l.backing.next.verdict == .commit, l.cell.reactionsTo l.backing.next.during⟩] :=
  Backing.finish_saves ..

theorem follows_of_attempt {r : Ending (Except StoreError Unit)} (h : l.attempt = (r, l'.backing))
    (hc : l'.cell.triggered = l.disturbed.triggered) : l.Follows [] l' := by
  have hsaves := l.attempt_saves
  rw [h] at hsaves
  have hnews := newsSince_of_saves hsaves
  rw [List.flatMap_singleton] at hnews
  refine ⟨hsaves ▸ List.prefix_append .., ?_, ?_⟩
  · rw [hnews, read, hc]
    exact l.cell.disturbAll_triggered _
  · rw [hnews]
    exact l.cell.truthful_reactionsTo _

/-- **A write changes what the latch reads only by what reaches it meanwhile**, however the save
ends. -/
theorem Writes.follows {r : Ending (Except PersistError FlushOutcome)} (h : Writes l r l') :
    l.Follows [] l' := by
  cases h with
  | clean => exact follows_of_same rfl rfl
  | accepted h hs => exact follows_of_attempt hs (Cell.confirm_triggered ..)
  | refused h hs => exact follows_of_attempt hs rfl
  | panicked h hs => exact follows_of_attempt hs rfl

theorem follows_flush (l : Latch) : l.Follows [] l.flush.2 := by
  rcases l.flush_spec with ⟨-, h⟩ | ⟨-, h⟩
  · rw [h]
    exact follows_of_same rfl rfl
  · exact h.follows

theorem follows_recordEdge (l : Latch) : l.Follows [.edge l.recordEdge.1] l.recordEdge.2 := by
  have hnews : l.recordEdge.2.newsSince l = [] := newsSince_of_same rfl
  refine ⟨List.prefix_rfl, ?_, ?_⟩
  · rw [hnews]
    exact l.cell.recordEdge_triggered
  · rw [hnews]
    refine ⟨fun latched h => ?_, trivial⟩
    cases h
    rfl

/-- What follows a cleared latch follows the reset that cleared it. -/
theorem Follows.of_cleared (h : l.cleared.Follows [] l') : l.Follows [.reset] l' := by
  have hread : l.cleared.read = false := l.cell.clear_triggered
  -- the reset itself comes before everything that its save reports
  refine ⟨h.log, ?_, ?_⟩
  · have hr := h.read
    rw [hread] at hr
    rw [hr, List.cons_append, readAfter_cons]
    rfl
  · have ht := h.truthful
    rw [hread] at ht
    refine ⟨?_, ht⟩
    intro latched he
    cases he

theorem follows_reset (l : Latch) : l.Follows [.reset] l.reset.2 := by
  refine Follows.of_cleared ?_
  rcases l.reset_spec with ⟨hi, h⟩ | ⟨-, -, h⟩ | ⟨-, -, r, -, h⟩
  · rw [h, cleared_of_idle hi]
    exact follows_of_same rfl rfl
  · rw [h]
    exact follows_of_same rfl rfl
  · exact h.follows

end Latch

end TriggerLatch
