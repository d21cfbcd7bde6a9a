import TriggerLatch.Latch.Basic

/-!
# Callers at the same time

Any number of callers use one latch.  Each has a program of calls, and a call is a row of actions
that take place one at a time, in any order among the callers:

* an edge is one action on the cell;
* a reset clears the cell and, unless that was idle and clean, tries the gate; it gives up if the
  gate is held, and otherwise takes it;
* a flush takes the gate, and cannot move while it is held;
* whoever has taken the gate looks at the cell, saves what it has seen if that is dirty, confirms
  it, and releases the gate.  A save that is refused skips the confirmation, one that panics
  releases the gate at once.

`Crowd.run` lets the callers act in the order of a schedule, which also says how each save ends.
-/

namespace TriggerLatch

/-- A call of the latch. -/
inductive Call where
  | edge
  | reset
  | flush
  deriving DecidableEq, Repr

/-- How far a caller has come with its present call. -/
inductive Stage where
  /-- It is between two calls. -/
  | ready
  /-- It has cleared the cell and will try the gate. -/
  | cleared
  /-- It has taken the gate and will look at the cell. -/
  | admitted
  /-- It will save what it has seen. -/
  | saving (snapshot : Cell)
  /-- It has saved and will confirm what it has seen. -/
  | confirming (snapshot : Cell)
  /-- It will release the gate. -/
  | leaving
  deriving DecidableEq, Repr

/-- A caller: the calls it has not begun, and how far it has come. -/
structure Caller where
  program : List Call
  stage : Stage
  deriving DecidableEq, Repr

namespace Caller

/-- A caller that has not begun. -/
def start (program : List Call) : Caller := ⟨program, .ready⟩

/-- The caller has nothing left to do. -/
def done (c : Caller) : Prop := c = ⟨[], .ready⟩

instance (c : Caller) : Decidable c.done := inferInstanceAs (Decidable (c = _))

/-- The same caller at another stage. -/
def goTo (c : Caller) (stage : Stage) : Caller := { c with stage }

end Caller

/-- What an action does: to the caller, to the latch, and whether it was an edge or a clear. -/
structure Deed where
  caller : Caller
  latch : Latch
  mark : Option Disturbance

namespace Latch

/-- With the gate taken. -/
def taken (l : Latch) : Latch := { l with gate := l.gate.acquire }

/-- With the gate released. -/
def released (l : Latch) (panicked : Bool) : Latch := { l with gate := l.gate.release panicked }

end Latch

namespace Caller

/-- The save of a snapshot, which ends as the verdict says. -/
def save (c : Caller) (l : Latch) (snapshot : Cell) (verdict : Verdict) : Deed :=
  match l.backing.finish snapshot.triggered verdict with
  | (.returned (.ok ()), backing) => ⟨c.goTo (.confirming snapshot), { l with backing }, none⟩
  | (.panicked _, backing) => ⟨c.goTo .ready, { l with backing }.released true, none⟩
  | (_, backing) => ⟨c.goTo .leaving, { l with backing }, none⟩

/-- The first action of a call; a flush has none while the gate is held. -/
def begin (rest : List Call) (l : Latch) : Call → Option Deed
  | .edge => some ⟨⟨rest, .ready⟩, l.recordEdge.2, some .edge⟩
  | .reset =>
    let stage : Stage := if l.cell = Cell.idle then .ready else .cleared
    some ⟨⟨rest, stage⟩, { l with cell := l.cell.clear }, some .reset⟩
  | .flush => if l.gate.held then none else some ⟨⟨rest, .admitted⟩, l.taken, none⟩

/-- The next action of a caller, if it has one and can move. -/
def act (c : Caller) (l : Latch) (verdict : Verdict) : Option Deed :=
  match c.stage with
  | .ready =>
    match c.program with
    | [] => none
    | call :: rest => begin rest l call
  | .cleared =>
    if l.gate.held then some ⟨c.goTo .ready, l, none⟩
    else some ⟨c.goTo .admitted, l.taken, none⟩
  | .admitted =>
    some ⟨c.goTo (if l.cell.dirty then .saving l.cell else .leaving), l, none⟩
  | .saving snapshot => some (c.save l snapshot verdict)
  | .confirming snapshot =>
    some ⟨c.goTo .leaving, { l with cell := l.cell.confirm snapshot }, none⟩
  | .leaving => some ⟨c.goTo .ready, l.released false, none⟩

end Caller

/-- A latch, those who use it, and the edges and clears that there have been. -/
structure Crowd where
  latch : Latch
  callers : List Caller
  marks : List Disturbance

/-- Whose turn it is, and how a save ends if that is what the turn is used for. -/
structure Turn where
  caller : Nat
  verdict : Verdict
  deriving DecidableEq, Repr

namespace Crowd

/-- Nobody has begun. -/
def start (l : Latch) (programs : List (List Call)) : Crowd := ⟨l, programs.map .start, []⟩

/-- One turn; it passes if the caller cannot move. -/
def step (w : Crowd) (t : Turn) : Crowd :=
  match w.callers[t.caller]? with
  | none => w
  | some c =>
    match c.act w.latch t.verdict with
    | none => w
    | some d => ⟨d.latch, w.callers.set t.caller d.caller, w.marks ++ d.mark.toList⟩

/-- Turns in the order of a schedule. -/
def run (w : Crowd) (ts : List Turn) : Crowd := ts.foldl step w

/-- Nobody has anything left to do. -/
def settled (w : Crowd) : Prop := ∀ c ∈ w.callers, c.done

end Crowd

end TriggerLatch
