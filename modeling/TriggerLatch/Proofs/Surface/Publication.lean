import TriggerLatch.Surface.Interleaving
import TriggerLatch.Proofs.Latch.Writes

/-!
# What edges and reset requests publish when they overlap

A value is published some time after it was read, or latched, and others may have changed the latch
in between.  A `Publication` is a published value together with what the latch reads at that moment;
if the two differ, the value is stale.

**When all have finished, the feed agrees with the latch if and only if the last publication was not
stale** (`Hall.feed_eq_read_iff`).  For the feed holds what was published last.  And whoever changes
the latch has something left to publish, so after the last publication nobody has changed it.  A
stale publication is not repaired by the others: an edge that finds the trigger latched publishes
nothing (`Hall.feed_disagrees_after_race`).
-/

namespace TriggerLatch

namespace Surface

/-- A published value, and what the latch reads when it is published. -/
structure Publication where
  value : Bool
  current : Bool
  deriving DecidableEq, Repr

/-- The user has been at the latch and will publish a value. -/
def User.Owes : User → Prop
  | .reads | .publishes _ => True
  | .fires | .resets | .done => False

namespace Hall

/-- What one user publishes with the next action, if that is what it does. -/
def publication? (h : Hall) (i : Nat) : Option Publication :=
  match h.users[i]? with
  | some (.publishes value) => some ⟨value, h.panel.latch.read⟩
  | _ => none

/-- What is published in the course of a schedule. -/
def publications (h : Hall) : List Nat → List Publication
  | [] => []
  | i :: schedule => (h.publication? i).toList ++ (h.step i).publications schedule

/-- The feed holds what was published last, and unless someone owes a publication, the latch reads
what it read then; where nothing was published yet, both are still at `v`. -/
structure Accounted (h : Hall) (v : Bool) (last : Option Publication) : Prop where
  feed : h.panel.feed.value = (last.map (·.value)).getD v
  read : (∀ u ∈ h.users, ¬ u.Owes) → h.panel.latch.read = (last.map (·.current)).getD v

variable {h : Hall} {v : Bool} {last : Option Publication}

theorem Accounted.of_owes {latch : Latch} {u : User} {i : Nat} (ha : h.Accounted v last)
    (hi : i < h.users.length) (hu : u.Owes) :
    Accounted ⟨{ h.panel with latch }, h.users.set i u⟩ v last where
  feed := ha.feed
  read hall := absurd hu (hall u (List.mem_set hi u))

theorem owes_of_set_done {u : User} {i : Nat} (hu : h.users[i]? = some u) (hi : ¬ u.Owes)
    (hall : ∀ w ∈ h.users.set i .done, ¬ w.Owes) : ∀ w ∈ h.users, ¬ w.Owes := by
  intro w hw
  obtain ⟨j, hj⟩ := List.mem_iff_getElem?.1 hw
  by_cases hij : i = j
  · subst hij
    cases hu.symm.trans hj
    exact hi
  · refine hall w (List.mem_iff_getElem?.2 ⟨j, ?_⟩)
    rw [List.getElem?_set_ne hij]
    exact hj

/-- **What one action publishes accounts for it.** -/
theorem Accounted.step (ha : h.Accounted v last) (i : Nat) :
    (h.step i).Accounted v ((h.publication? i).or last) := by
  unfold Hall.step publication?
  cases hu : h.users[i]? with
  | none => exact ha
  | some u =>
    obtain ⟨hi, -⟩ := List.getElem?_eq_some_iff.1 hu
    cases u with
    | fires =>
      by_cases ht : h.panel.latch.read = true
      · simp only [User.act, Latch.recordEdge_of_read ht]
        exact ⟨ha.feed, fun hall => ha.read (owes_of_set_done hu id hall)⟩
      · have hlatched : h.panel.latch.recordEdge.1 = true := by
          rw [Bool.not_eq_true] at ht
          exact congrArg not ht
        simp only [User.act, hlatched, if_true]
        exact ha.of_owes hi trivial
    | resets => exact ha.of_owes hi trivial
    | reads => exact ha.of_owes hi trivial
    | publishes value => exact ⟨Feed.publish_value .., fun _ => rfl⟩
    | done => exact ⟨ha.feed, fun hall => ha.read (owes_of_set_done hu id hall)⟩

theorem Accounted.run (ha : h.Accounted v last) (schedule : List Nat) :
    (h.run schedule).Accounted v ((h.publications schedule).getLast?.or last) := by
  induction schedule generalizing h last with
  | nil => exact ha
  | cons i schedule ih =>
    have hlast : ((h.publication? i).toList ++ (h.step i).publications schedule).getLast?.or last =
        ((h.step i).publications schedule).getLast?.or ((h.publication? i).or last) := by
      rw [List.getLast?_append, Option.or_assoc]
      cases h.publication? i <;> rfl
    rw [publications, hlast]
    exact ih (ha.step i)

/-- **The feed agrees with the latch if and only if the last publication was not stale.**  Any
number of edges and reset requests overlap in any way, and have finished. -/
theorem feed_eq_read_iff (h : Hall) (hv : h.panel.feed.value = h.panel.latch.read)
    (schedule : List Nat) (hset : (h.run schedule).settled) :
    (h.run schedule).panel.feed.value = (h.run schedule).panel.latch.read ↔
      ∀ x, (h.publications schedule).getLast? = some x → x.value = x.current := by
  have hstart : h.Accounted h.panel.latch.read none := ⟨hv, fun _ => rfl⟩
  have hrun := hstart.run schedule
  have hread := hrun.read fun u hu => hset u hu ▸ id
  rw [hrun.feed, hread, Option.or_none]
  cases (h.publications schedule).getLast? with
  | none => simp
  | some x => simp

/-- The edge comes between the reset and the reading of what the reset has left, and both publish
it. -/
theorem feed_eq_read_edge_before_read :
    let h : Hall := ⟨.seed (.inMemory (some true) none []), [.resets, .fires]⟩
    let w := h.run [0, 1, 0, 1, 0]
    w.settled ∧ h.publications [0, 1, 0, 1, 0] = [⟨true, true⟩, ⟨true, true⟩] ∧
      w.panel.feed.value = w.panel.latch.read := by
  intro h w
  have hset : w.settled := by
    unfold settled
    decide
  refine ⟨hset, rfl, (feed_eq_read_iff h rfl _ hset).2 fun x hx => ?_⟩
  cases hx
  rfl

/-- **A feed that is left wrong.**  The edge comes between the reading of what a reset has left and
its publication: the trigger is published and latched, and the stale value is published last. -/
theorem feed_disagrees_after_race :
    let h : Hall := ⟨.seed (.inMemory (some true) none []), [.resets, .fires]⟩
    let w := h.run [0, 0, 1, 1, 0]
    h.panel.feed.value = h.panel.latch.read ∧ w.settled ∧
      h.publications [0, 0, 1, 1, 0] = [⟨true, true⟩, ⟨false, true⟩] ∧
      w.panel.latch.read = true ∧ w.panel.feed.value = false := by
  refine ⟨rfl, ?_, rfl, rfl, rfl⟩
  unfold settled
  decide

end Hall

end Surface

end TriggerLatch
