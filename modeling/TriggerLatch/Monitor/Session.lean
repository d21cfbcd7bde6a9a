import TriggerLatch.Monitor.Basic
import TriggerLatch.Surface.Router

/-!
# Sessions of the monitor

A session is a monitor at work on a device.  `Session.act` performs one action; `Session.run`
performs a row of them.  The device may be a panel behind its network surface
(`Peer.ofPanel`), which others use as well while the session lasts.
-/

namespace TriggerLatch.Monitor

/-- A monitor, the device it works on, and the calls that have reached the device. -/
structure Session (σ : Type) where
  monitor : Monitor
  device : σ
  calls : List Call

namespace Session

variable {σ : Type}

/-- A session that begins. -/
def start (settings : Settings) (device : σ) : Session σ := ⟨.start settings, device, []⟩

/-- One action and what it makes the monitor report. -/
def act (peer : Peer σ) (s : Session σ) (a : Action) : List Report × Session σ :=
  let (r, device) := s.monitor.ask peer a s.device
  let (reports, monitor) := s.monitor.hear a r
  (reports, ⟨monitor, device, s.calls ++ r.calls⟩)

/-- A row of actions; the reports of each. -/
def run (peer : Peer σ) (s : Session σ) : List Action → List (List Report) × Session σ
  | [] => ([], s)
  | a :: as =>
    let (reports, s) := s.act peer a
    let (rest, s) := run peer s as
    (reports :: rest, s)

end Session

/-! ### Panels as devices -/

/-- A call as it reaches the network surface. -/
def Call.request (c : Call) : Surface.Request := ⟨c.method.name, c.url.target, []⟩

/-- The answer that a response is. -/
def Answer.ofResponse? (r : Surface.Response) : Option Answer :=
  if h : 200 ≤ r.status ∧ r.status < 600 then
    some ⟨r.status, none, some (Utf8.encode r.body), h.1, h.2⟩
  else none

/-- A panel behind its network surface, which answers after `delay` nanoseconds. -/
def Peer.ofPanel (delay : Nat) : Peer Panel := fun c p =>
  let (response, p) := Surface.handle c.request p
  match Answer.ofResponse? response with
  | some answer => (.answered delay answer, p)
  | none => (.dropped delay, p)

end TriggerLatch.Monitor
