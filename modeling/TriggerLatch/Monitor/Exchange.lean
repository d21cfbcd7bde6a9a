import TriggerLatch.Monitor.Url
import TriggerLatch.Text.Utf8

/-!
# Exchanges with a device

The monitor sends a call and waits for an answer.  An answer that redirects leads to another call,
and only the last answer counts (`Monitor.exchange`).  What the device does is up to a `Peer`; how
long it takes is part of what it does, and the monitor stops waiting after a limit.
-/

namespace TriggerLatch.Monitor

/-- What a call asks for. -/
inductive Method where
  | get
  | post
  deriving DecidableEq, Repr

/-- The name of a method. -/
def Method.name : Method → Text
  | get => "GET".toList
  | post => "POST".toList

/-- A call. -/
structure Call where
  method : Method
  url : Url
  deriving DecidableEq, Repr

/-- The first line of a call. -/
def Call.display (c : Call) : Text := c.method.name ++ ' ' :: c.url.target

/-- A complete answer.  Its status says that it is final: it succeeds, redirects or fails. -/
structure Answer where
  status : Nat
  /-- Where a redirect leads. -/
  location : Option Text
  /-- The body; none if it broke off. -/
  body : Option Bytes
  status_ge : 200 ≤ status
  status_lt : status < 600
  deriving DecidableEq, Repr

namespace Answer

/-- The statuses of answers that come without a body. -/
def bodilessStatuses : List Nat := [204, 304]

/-- The statuses of redirects. -/
def redirectStatuses : List Nat := [301, 302, 303, 307, 308]

/-- The redirects after which everything is asked for with `GET`. -/
def seeOtherStatuses : List Nat := [301, 302, 303]

/-- The answer is not an error. -/
def succeeds (a : Answer) : Bool := a.status < 400

/-- The body that is read. -/
def payload (a : Answer) : Option Bytes :=
  if a.status ∈ bodilessStatuses then some [] else a.body

end Answer

/-- The call that an answer redirects to; one that names no place is no redirect. -/
def Call.next? (c : Call) (a : Answer) : Option Call :=
  if a.status ∈ Answer.redirectStatuses then
    (a.location.bind c.url.resolve?).map fun url =>
      ⟨if a.status ∈ Answer.seeOtherStatuses then .get else c.method, url⟩
  else none

/-- What becomes of a call. -/
inductive Delivery where
  /-- It does not reach the device. -/
  | undeliverable
  /-- It reaches the device, which hangs up after so many nanoseconds. -/
  | dropped (after : Nat)
  /-- It is answered after so many nanoseconds. -/
  | answered (after : Nat) (answer : Answer)
  deriving DecidableEq, Repr

/-- A device as its callers meet it: what it does with a call, and what it is afterwards. -/
abbrev Peer (σ : Type) := Call → σ → Delivery × σ

namespace Peer

/-- A device that cannot be reached. -/
def unreachable {σ : Type} : Peer σ := fun _ s => (.undeliverable, s)

end Peer

/-- What a call comes to, with everything it leads to. -/
structure Reply where
  /-- The last answer; none if no answer was last. -/
  answer : Option Answer
  /-- So many nanoseconds went by. -/
  took : Nat
  /-- The calls that reached the device. -/
  calls : List Call
  deriving DecidableEq, Repr

namespace Reply

/-- Nothing came within so many nanoseconds. -/
def nothing (took : Nat) (calls : List Call) : Reply := ⟨none, took, calls⟩

/-- The reply came later and behind another call. -/
def behind (r : Reply) (after : Nat) (c : Call) : Reply :=
  { r with took := after + r.took, calls := c :: r.calls }

/-- What `read` makes of the body of an answer that is not an error. -/
def flag? (r : Reply) (read : Bytes → Option Bool) : Option Bool :=
  match r.answer with
  | some a => if a.succeeds then a.payload.bind read else none
  | none => none

end Reply

/-- So many redirects are followed. -/
def redirectLimit : Nat := 10

/-- A call and the calls it is redirected to, at most `redirects` of them, for at most `limit`
nanoseconds. -/
def follow {σ : Type} (peer : Peer σ) : (redirects limit : Nat) → Call → σ → Reply × σ
  | redirects, limit, c, s =>
    if !c.url.isHttp then (.nothing 0 [], s)
    else
      match peer c s with
      | (.undeliverable, s) => (.nothing 0 [], s)
      | (.dropped after, s) => (.nothing (min after limit) [c], s)
      | (.answered after a, s) =>
        if limit < after then (.nothing limit [c], s)
        else
          match c.next? a with
          | none => (⟨some a, after, [c]⟩, s)
          | some next =>
            match redirects with
            | 0 => (.nothing after [c], s)
            | redirects + 1 =>
              let (r, s) := follow peer redirects (limit - after) next s
              (r.behind after c, s)

/-- **Asks a device for what is at an address.** An address that cannot be asked is not. -/
def exchange {σ : Type} (peer : Peer σ) (limit : Nat) (method : Method) (address : Text) (s : σ) :
    Reply × σ :=
  match Url.ofText? address with
  | none => (.nothing 0 [], s)
  | some url => follow peer redirectLimit limit ⟨method, url⟩ s

end TriggerLatch.Monitor
