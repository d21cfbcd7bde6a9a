import TriggerLatch.Latch.Cell
import TriggerLatch.Notice
import TriggerLatch.Store.Script

/-!
# The latch

A latch is a cell with a store behind it.  `Latch.recordEdge` and `Latch.read` touch the cell alone.
`Latch.reset` clears the cell and writes the new value before it returns; `Latch.flush` writes the
value if it is not durable yet.  Both write while they hold the gate, so writes come one after
another: a flush waits for the gate, a reset that finds it held leaves its write to the next flush.
A save that panics leaves the gate marked, which nobody minds.

The written snapshot is confirmed afterwards, and only if the cell still holds it; what came in
between stays to be written (`FlushOutcome.superseded`).
-/

namespace TriggerLatch

/-- How a call ends. -/
inductive Ending (α : Type) where
  | returned (value : α)
  | panicked (reason : String)
  /-- It waits for a gate that is never released. -/
  | blocked
  deriving DecidableEq, Repr

/-- What a flush did. -/
inductive FlushOutcome where
  /-- There was nothing to write. -/
  | clean
  /-- The value was written and the latch is clean. -/
  | persisted (triggered : Bool)
  /-- The value was written, but the latch has changed since and is still dirty. -/
  | superseded (triggered : Bool)
  deriving DecidableEq, Repr

/-- What came of something that reached the latch. -/
inductive Reaction where
  /-- An edge; it latched the trigger or found it latched. -/
  | edge (latched : Bool)
  | reset (result : Except PersistError Unit)

/-- One attempt to save. -/
structure SaveEntry where
  /-- When it was made, in milliseconds. -/
  time : Nat
  value : Bool
  /-- It was let through to the store. -/
  admitted : Bool
  /-- What came of what reached the latch meanwhile. -/
  during : List Reaction

/-- Held while a value is written. -/
structure Gate where
  held : Bool
  /-- A write has ended in a panic. -/
  poisoned : Bool
  deriving DecidableEq, Repr

namespace Gate

/-- Free, and never poisoned. -/
def free : Gate := ⟨false, false⟩

/-- Held by someone, poisoned or not. -/
def acquire (g : Gate) : Gate := { g with held := true }

/-- Free again; a panic poisons it. -/
def release (g : Gate) (panicked : Bool) : Gate := ⟨false, g.poisoned || panicked⟩

end Gate

/-- The store behind a latch, and what will happen to those who use it. -/
structure Backing where
  store : Store
  medium : Medium
  /-- Loads fail with this error, if there is one. -/
  loadError : Option StoreError
  /-- The saves to come. -/
  script : List SaveItem
  /-- The attempts to save, in order. -/
  saves : List SaveEntry
  clock : Clock

namespace Backing

/-- The value that a load finds. -/
def load (b : Backing) : Except StoreError (Option Bool) :=
  match b.loadError with
  | some e => .error e
  | none => b.store.load b.medium

/-- The next item of the script. -/
def next (b : Backing) : SaveItem := b.script.headD .plain

/-- Without the next item of the script. -/
def consumed (b : Backing) : Backing := { b with script := b.script.tail }

/-- With one more attempt to save. -/
def noted (b : Backing) (value : Bool) (verdict : Verdict) (during : List Reaction) : Backing :=
  { b with saves := b.saves ++ [⟨b.clock.millis, value, verdict == .commit, during⟩] }

/-- The end of a save on which nothing more comes in between. -/
def finish (b : Backing) (value : Bool) : Verdict → Ending (Except StoreError Unit) × Backing
  | .panic => (.panicked panicReason, b)
  | .refuse e => (.returned (.error e), b)
  | .commit =>
    let (r, medium) := b.store.save b.clock.utc value b.medium
    (.returned r, { b with medium })

end Backing

/-- A latch with the store behind it. -/
structure Latch where
  cell : Cell
  gate : Gate
  backing : Backing

namespace Cell

/-- What a disturbance comes to while the gate is held: a reset that has something to write finds
the gate busy. -/
def reactionTo (c : Cell) : Disturbance → Reaction
  | .edge => .edge c.latchesOnEdge
  | .reset => .reset (if c = idle then .ok () else .error .busy)

/-- What a disturbance does to the cell. -/
def disturb (c : Cell) : Disturbance → Cell
  | .edge => c.recordEdge
  | .reset => c.clear

/-- What a row of disturbances does to the cell. -/
def disturbAll (c : Cell) (ds : List Disturbance) : Cell := ds.foldl disturb c

/-- What a row of disturbances comes to, one after the other. -/
def reactionsTo (c : Cell) : List Disturbance → List Reaction
  | [] => []
  | d :: ds => c.reactionTo d :: (c.disturb d).reactionsTo ds

end Cell

namespace Latch

/-- The value a latch starts with: what the store holds, and idle where it holds nothing or cannot
be read. -/
def seedValue (b : Backing) : Bool :=
  match b.load with
  | .ok (some value) => value
  | _ => false

/-- What is said when a latch starts. -/
def seedNotices (b : Backing) : List Notice :=
  match b.load with
  | .error e => [.loadFailed e, .seeded false]
  | .ok value => [.seeded (value.getD false)]

/-- A latch started on a store. -/
def seed (b : Backing) : Latch := ⟨.seeded (seedValue b), .free, b⟩

/-- The trigger is latched. -/
def read (l : Latch) : Bool := l.cell.triggered

/-- An edge. -/
def recordEdge (l : Latch) : Bool × Latch :=
  (l.cell.latchesOnEdge, { l with cell := l.cell.recordEdge })

/-- The state of a latch as a programmer sees it. -/
def debug (l : Latch) : String :=
  "Latch \x7b state: LatchState \x7b triggered: " ++ Notice.flag l.cell.triggered ++ ", dirty: " ++
    Notice.flag l.cell.dirty ++ " \x7d, .. \x7d"

/-! ### Writing the value -/

/-- What confirming a snapshot tells about the write. -/
def outcome (snapshot now : Cell) : FlushOutcome :=
  if now.holds snapshot then .persisted snapshot.triggered else .superseded snapshot.triggered

/-- Writes the value, if it is not durable yet, and confirms it; the caller holds the gate. -/
def persist (l : Latch) : Ending (Except PersistError FlushOutcome) × Latch :=
  if l.cell.dirty then
    let snapshot := l.cell
    let item := l.backing.next
    let cell := snapshot.disturbAll item.during
    let noted := l.backing.consumed.noted snapshot.triggered item.verdict
      (snapshot.reactionsTo item.during)
    let (r, backing) := noted.finish snapshot.triggered item.verdict
    match r with
    | .returned (.ok ()) =>
      (.returned (.ok (outcome snapshot cell)),
        { l with cell := cell.confirm snapshot, backing })
    | .returned (.error e) => (.returned (.error (.store e)), { l with cell, backing })
    | .panicked reason => (.panicked reason, { l with cell, backing })
    | .blocked => (.blocked, { l with cell, backing })
  else (.returned (.ok .clean), l)

/-- The call ended in a panic. -/
def endedInPanic {α : Type} : Ending α → Bool
  | .panicked _ => true
  | _ => false

/-- `persist` between taking the gate and releasing it. -/
def persistGated (l : Latch) : Ending (Except PersistError FlushOutcome) × Latch :=
  let (r, l') := persist { l with gate := l.gate.acquire }
  (r, { l' with gate := l'.gate.release (endedInPanic r) })

/-- **Writes the value if it is not durable yet.**  Waits while the gate is held. -/
def flush (l : Latch) : Ending (Except PersistError FlushOutcome) × Latch :=
  if l.gate.held then (.blocked, l) else persistGated l

/-- What a write means to a reset: it does not matter what else has come. -/
def forgetOutcome : Ending (Except PersistError FlushOutcome) → Ending (Except PersistError Unit)
  | .returned r => .returned (r.map fun _ => ())
  | .panicked reason => .panicked reason
  | .blocked => .blocked

/-- **Clears the trigger and writes that before it returns.**  A latch that is idle and clean needs
no write; with the gate held, the write is left to the next flush. -/
def reset (l : Latch) : Ending (Except PersistError Unit) × Latch :=
  let cleared := { l with cell := l.cell.clear }
  if l.cell = Cell.idle then (.returned (.ok ()), cleared)
  else if l.gate.held then (.returned (.error .busy), cleared)
  else
    let (r, l') := persistGated cleared
    (forgetOutcome r, l')

/-! ### Saving past the latch -/

/-- What a row of disturbances comes to as calls of the latch one after the other, up to the first
panic. -/
def disturbFree : Latch → List Disturbance → Ending (List Reaction) × Latch
  | l, [] => (.returned [], l)
  | l, .edge :: ds =>
    let (b, l) := l.recordEdge
    let (r, l) := disturbFree l ds
    (prepend (.edge b) r, l)
  | l, .reset :: ds =>
    match l.reset with
    | (.returned x, l) =>
      let (r, l) := disturbFree l ds
      (prepend (.reset x) r, l)
    | (.panicked reason, l) => (.panicked reason, l)
    | (.blocked, l) => (.blocked, l)
where
  prepend (x : Reaction) : Ending (List Reaction) → Ending (List Reaction)
    | .returned xs => .returned (x :: xs)
    | e => e

/-- Saves a value directly, past the latch and its gate. -/
def saveDirectly (l : Latch) (value : Bool) : Ending (Except StoreError Unit) × Latch :=
  let item := l.backing.next
  match disturbFree { l with backing := l.backing.consumed } item.during with
  | (.returned during, l) =>
    let (r, backing) := (l.backing.noted value item.verdict during).finish value item.verdict
    (r, { l with backing })
  | (.panicked reason, l) => (.panicked reason, l)
  | (.blocked, l) => (.blocked, l)

end Latch

end TriggerLatch
