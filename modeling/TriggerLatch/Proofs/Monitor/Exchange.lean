import TriggerLatch.Monitor.Session
import TriggerLatch.Proofs.Surface.Answers

/-!
# A monitor in front of a network surface

A monitor that is pointed at a device behind its network surface, and waits long enough for the
answer, learns exactly what it asked for: **a poll learns what the latch reads and changes nothing,
and a reset is done and confirmed** (`ask_ofPanel`).
-/

namespace TriggerLatch.Monitor

/-- With this base address, what the monitor asks for arrives at the routes of the device. -/
def Reaches (baseUrl : Text) : Prop :=
  ∀ a : Action, ∃ u, Url.ofText? (baseUrl ++ a.path) = some u ∧ u.isHttp = true ∧
    Surface.pathOf u.target = a.path

namespace Action

/-- The route that an action asks. -/
def route : Action → Surface.Route
  | poll => .status
  | reset => .reset

theorem path_route (a : Action) : a.path = a.route.path := by
  cases a <;> rfl

theorem method_mem_methods (a : Action) : a.method.name ∈ a.route.methods := by
  cases a <;> decide

theorem method_ne_head (a : Action) : a.method.name ≠ Surface.headMethod := by
  cases a <;> decide

/-- What an action learns from a panel. -/
def learns (p : Panel) : Action → Bool
  | poll => p.latch.read
  | reset => true

/-- What an action leaves of a panel. -/
def leaves (p : Panel) : Action → Panel
  | poll => p
  | reset => Surface.resetPanel p

/-- The body of the answer to an action. -/
def body (p : Panel) : Action → Text
  | poll => Surface.flagBody Surface.statusField p.latch.read
  | reset => Surface.flagBody Surface.resetField true

theorem serve_route (a : Action) (method : Text) (p : Panel) :
    Surface.serve method p a.route =
      (Surface.success method Surface.jsonType (a.body p), a.leaves p) := by
  cases a <;> rfl

end Action

/-! ### Addresses -/

theorem splitScheme_defaultScheme (rest : Text) :
    Url.splitScheme (BaseUrl.defaultScheme ++ rest) = some ("http".toList, rest) := by
  rfl

theorem reaches_authority (authority : Text) (hne : authority ≠ [])
    (hname : authority.all (!Url.endsAuthority ·) = true) (hblank : authority.any isBlank = false) :
    Reaches (BaseUrl.defaultScheme ++ authority) := by
  intro a
  have hslash : a.path.head?.all Url.endsAuthority = true := by cases a <;> rfl
  obtain ⟨htake, hdrop⟩ := Surface.cut_append hname hslash
  have htarget : Url.targetOf a.path = a.path := by cases a <;> rfl
  have hsplit : Url.splitScheme (BaseUrl.defaultScheme ++ authority ++ a.path) =
      some ("http".toList, authority ++ a.path) := by
    rw [List.append_assoc]
    exact splitScheme_defaultScheme _
  refine ⟨⟨"http".toList, authority, a.path⟩, ?_, rfl, ?_⟩
  · simp only [Url.ofText?, hsplit, Option.bind_eq_bind, Option.bind_some, htake, hdrop, hblank,
      htarget, hne]
    rfl
  · cases a <;> rfl

/-! ### Answers -/

theorem follow_of_answered {σ : Type} {peer : Peer σ} {redirects limit after : Nat} {c : Call}
    {a : Answer} {s s' : σ} (hhttp : c.url.isHttp = true)
    (hpeer : peer c s = (.answered after a, s')) (hafter : after ≤ limit)
    (hfinal : c.next? a = none) :
    follow peer redirects limit c s = (⟨some a, after, [c]⟩, s') := by
  unfold follow
  rw [hhttp, hpeer]
  simp only [Bool.not_true, Bool.false_eq_true, if_false, if_neg (Nat.not_lt.2 hafter), hfinal]

/-- The answer to an action, on its way. -/
def Action.answer (p : Panel) (a : Action) : Answer :=
  ⟨200, none, some (Utf8.encode (a.body p)), by decide, by decide⟩

theorem ofResponse?_success (a : Action) (p : Panel) (type : Text) :
    Answer.ofResponse? (Surface.success a.method.name type (a.body p)) = some (a.answer p) := by
  simp only [Answer.ofResponse?, Surface.success, if_neg a.method_ne_head]
  rfl

theorem Action.result?_answer (a : Action) (p : Panel) (took : Nat) (calls : List Call) :
    a.result? ⟨some (a.answer p), took, calls⟩ = some (a.learns p) := by
  cases a with
  | poll => exact Surface.readFlag_status p.latch.read
  | reset => exact Surface.readFlag_reset true

/-- **What a monitor learns from a device behind its network surface, and what it leaves of it.** -/
theorem ask_ofPanel {m : Monitor} (hreach : Reaches m.settings.baseUrl) {delay : Nat}
    (hdelay : delay ≤ m.settings.timeout.totalNanos) (a : Action) (p : Panel) :
    ∃ r, m.ask (.ofPanel delay) a p = (r, a.leaves p) ∧ r.took = delay ∧
      a.result? r = some (a.learns p) := by
  obtain ⟨u, hu, hhttp, hpath⟩ := hreach a
  have hhandle : Surface.handle (Call.request ⟨a.method, u⟩) p =
      (Surface.success a.method.name Surface.jsonType (a.body p), a.leaves p) := by
    rw [← a.serve_route]
    refine Surface.handle_of_served ?_ a.method_mem_methods
    rw [← a.path_route]
    exact hpath
  have hpeer : Peer.ofPanel delay ⟨a.method, u⟩ p = (.answered delay (a.answer p), a.leaves p) := by
    simp only [Peer.ofPanel, hhandle, ofResponse?_success]
  refine ⟨⟨some (a.answer p), delay, [⟨a.method, u⟩]⟩, ?_, rfl, a.result?_answer p delay _⟩
  rw [ask, exchange, hu]
  exact follow_of_answered hhttp hpeer hdelay rfl

end TriggerLatch.Monitor
