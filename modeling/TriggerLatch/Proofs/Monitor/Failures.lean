import TriggerLatch.Proofs.Monitor.Script
import TriggerLatch.Proofs.Monitor.Turns

/-!
# Sessions without their failures

If the turns that fail are deleted from a session on a device that follows a script, together with
the deliveries that they take (`Session.thin`), **the other turns are left, with the replies and
the reports that they had** (`Session.turns_thin`, `Session.failures_leave_no_trace`).

On any device, the reply of a turn comes from the call that its action makes, through the redirects
that are followed from there (`Session.leads_of_mem_turns`).
-/

namespace TriggerLatch.Monitor

/-- The turns that have not failed. -/
def successes (ts : List Turn) : List Turn := ts.filter fun t => !t.fails

theorem Turn.answer_isSome {t : Turn} (h : t.fails = false) : t.reply.answer.isSome = true := by
  obtain ⟨value, hvalue⟩ : ∃ value, t.Says value := by
    by_contra hnot
    rw [not_exists] at hnot
    have hfails : t.fails = true := by
      rw [Turn.fails_iff]
      split
      · exact hnot
      · exact hnot true
    rw [h] at hfails
    cases hfails
  obtain ⟨a, _, ha, _⟩ := hvalue
  rw [ha]
  rfl

/-- **The turns that have not failed make the monitor report the same on their own.** -/
theorem hearAll_successes (m : Monitor) (ts : List Turn) :
    m.hearAll (successes ts) =
      ((ts.zip (m.hearAll ts)).filter fun e => !e.1.fails).map Prod.snd := by
  induction ts generalizing m with
  | nil => rfl
  | cons t ts ih =>
    rw [successes, hearAll, List.zip_cons_cons]
    cases hfails : t.fails with
    | true =>
      rw [List.filter_cons_of_neg (by simp [hfails]), List.filter_cons_of_neg (by simp [hfails]),
        hear_snd_of_fails hfails]
      exact ih m
    | false =>
      rw [List.filter_cons_of_pos (by simp [hfails]), List.filter_cons_of_pos (by simp [hfails]),
        hearAll, List.map_cons]
      exact congrArg (_ :: ·) (ih _)

namespace Session

theorem leads_of_mem_turns {σ : Type} {peer : Peer σ} {x : Session σ} {as : List Action} {t : Turn}
    {a : Answer} (ht : t ∈ x.turns peer as) (ha : t.reply.answer = some a) :
    ∃ url, Url.ofText? (x.monitor.settings.baseUrl ++ t.action.path) = some url ∧
      Leads peer a ⟨t.action.method, url⟩ t.reply.calls := by
  induction as generalizing x with
  | nil => cases ht
  | cons b as ih =>
    rcases List.mem_cons.1 ht with rfl | hrest
    · exact leads_of_exchange ha
    · rw [← hear_settings x.monitor (x.turn peer b)]
      exact ih hrest

variable {κ : Type} [DecidableEq κ] {kind : Call → κ}

/-- The script of a session, without the deliveries that its failed turns take. -/
def thin (kind : Call → κ) (s : Session (Script κ)) : List Action → Script κ
  | [] => s.device
  | a :: as =>
    let t := s.turn (.scripted kind) a
    let rest := thin kind (s.act (.scripted kind) a).2 as
    if t.fails then rest else s.device.restore kind t.reply.calls rest

variable {s : Session (Script κ)} {a : Action}

/-- A turn that has not failed takes the deliveries that its calls take. -/
theorem restore_turn (h : (s.turn (.scripted kind) a).fails = false) :
    s.device.restore kind (s.turn (.scripted kind) a).reply.calls
        (s.act (.scripted kind) a).2.device = s.device ∧
      ∀ rest, s.monitor.ask (.scripted kind) a
        (s.device.restore kind (s.turn (.scripted kind) a).reply.calls rest) =
          ((s.turn (.scripted kind) a).reply, rest) :=
  exchange_restore rfl (Turn.answer_isSome h)

/-- Where no turn fails, nothing is deleted. -/
theorem thin_of_successes {as : List Action}
    (h : ∀ t ∈ s.turns (.scripted kind) as, t.fails = false) :
    s.thin kind as = s.device := by
  induction as generalizing s with
  | nil => rfl
  | cons a as ih =>
    obtain ⟨hfirst, hrest⟩ := List.forall_mem_cons.1 h
    rw [thin]
    simp only [hfirst, Bool.false_eq_true, if_false]
    rw [ih hrest]
    exact (restore_turn hfirst).1

/-- A turn that has not failed is taken in the same way from another script that begins with the
deliveries it takes. -/
theorem act_restore (h : (s.turn (.scripted kind) a).fails = false) (rest : Script κ)
    (calls : List Call) :
    let r := (s.turn (.scripted kind) a).reply
    let x := Session.mk s.monitor (s.device.restore kind r.calls rest) calls
    x.turn (.scripted kind) a = s.turn (.scripted kind) a ∧
      (x.act (.scripted kind) a).2 =
        ⟨(s.act (.scripted kind) a).2.monitor, rest, calls ++ r.calls⟩ := by
  intro r x
  have hask : x.monitor.ask (.scripted kind) a x.device = (r, rest) := (restore_turn h).2 rest
  constructor
  · rw [turn, hask]
    rfl
  · rw [act, hask]
    rfl

/-- **Where the failed turns and their deliveries are deleted, the other turns are left.** -/
theorem turns_thin (s : Session (Script κ)) (calls : List Call) (as : List Action) :
    let kept := successes (s.turns (.scripted kind) as)
    (Session.mk s.monitor (s.thin kind as) calls).turns (.scripted kind) (kept.map Turn.action) =
      kept := by
  induction as generalizing s calls with
  | nil => rfl
  | cons a as ih =>
    rw [turns, successes, thin]
    cases hfails : (s.turn (.scripted kind) a).fails with
    | true =>
      have hmonitor : (s.act (.scripted kind) a).2.monitor = s.monitor := hear_snd_of_fails hfails
      rw [List.filter_cons_of_neg (by simp [hfails]), ← hmonitor]
      exact ih _ calls
    | false =>
      obtain ⟨hturn, hact⟩ := act_restore hfails (thin kind (s.act (.scripted kind) a).2 as) calls
      rw [List.filter_cons_of_pos (by simp [hfails])]
      intro kept
      have haction : (s.turn (.scripted kind) a).action = a := rfl
      simp only [kept, List.map_cons, turns, haction, Bool.false_eq_true, if_false, hturn, hact]
      exact congrArg (_ :: ·) (ih _ _)

/-- **A turn that fails leaves no trace.**  On every device, what a turn makes the monitor report
depends on its reply and on the last turn before it that has not failed, and an answer in a reply is
the one that the redirects from the turn's own call have led to.  On a device that follows a script,
the failed turns can be deleted together with the deliveries that they take, and the other turns are
left with their reports; if none has failed, nothing is deleted. -/
theorem failures_leave_no_trace (settings : Settings) :
    (∀ {σ : Type} (peer : Peer σ) (device : σ) (actions : List Action),
      let s := start settings device
      (s.turns peer actions).map Turn.action = actions ∧
        TellsAll settings [] (s.turns peer actions) (s.run peer actions).1 ∧
        ∀ t ∈ s.turns peer actions, ∀ a, t.reply.answer = some a →
          ∃ url, Url.ofText? (settings.baseUrl ++ t.action.path) = some url ∧
            Leads peer a ⟨t.action.method, url⟩ t.reply.calls) ∧
    ∀ {κ : Type} [DecidableEq κ] (kind : Call → κ) (script : Script κ) (actions : List Action),
      let s := start settings script
      let turns := s.turns (.scripted kind) actions
      let reports := (s.run (.scripted kind) actions).1
      let thinned := start settings (s.thin kind actions)
      let kept := (successes turns).map Turn.action
      thinned.turns (.scripted kind) kept = successes turns ∧
        (thinned.run (.scripted kind) kept).1 =
          ((turns.zip reports).filter fun e => !e.1.fails).map Prod.snd ∧
        ((∀ t ∈ turns, t.fails = false) → s.thin kind actions = script) := by
  refine ⟨fun peer device actions => ?_, fun kind script actions => ?_⟩
  · exact ⟨map_action_turns peer _ actions, tellsAll_run peer settings device actions,
      fun t ht a ha => leads_of_mem_turns ht ha⟩
  · intro s turns reports thinned kept
    have hturns : thinned.turns (.scripted kind) kept = successes turns := turns_thin s [] actions
    refine ⟨hturns, ?_, thin_of_successes⟩
    calc
      (thinned.run (.scripted kind) kept).1 = thinned.monitor.hearAll (successes turns) := by
        rw [run_fst, hturns]
      _ = ((turns.zip (s.monitor.hearAll turns)).filter fun e => !e.1.fails).map Prod.snd :=
        hearAll_successes ..
      _ = ((turns.zip reports).filter fun e => !e.1.fails).map Prod.snd := by
        rw [← run_fst]

/-- An answer with a status and a body. -/
def answering (status : Nat) (body : String) (h : 200 ≤ status ∧ status < 600 := by decide) :
    Delivery :=
  .answered 0 ⟨status, none, some (Utf8.encode body.toList), h.1, h.2⟩

/-- A drop, an error and a refused reset come between two readings. -/
def interrupted : Script Unit := fun _ n =>
  [answering 200 "\x7b\"triggered\":false\x7d", .dropped 0,
    answering 500 "\x7b\"triggered\":true\x7d", answering 200 "\x7b\"reset\":false\x7d"].getD n
      (answering 200 "\x7b\"triggered\":true\x7d")

/-- The trigger is reported behind the failures, as it is without them. -/
theorem failures_leave_no_trace_between_readings :
    let s := start .standard interrupted
    let actions : List Action := [.poll, .poll, .poll, .reset, .poll]
    (s.run (.scripted fun _ => ()) actions).1 =
        [[], [.noResponse ⟨0, 0⟩], [.noResponse ⟨0, 0⟩], [.resetFailed], [.triggered]] ∧
      ((start .standard (s.thin (fun _ => ()) actions)).run (.scripted fun _ => ())
        [.poll, .poll]).1 = [[], [.triggered]] := by
  intro s actions
  have hreports : (s.run (.scripted fun _ => ()) actions).1 =
      [[], [.noResponse ⟨0, 0⟩], [.noResponse ⟨0, 0⟩], [.resetFailed], [.triggered]] := by
    decide +kernel
  have hkept : (successes (s.turns (.scripted fun _ => ()) actions)).map Turn.action =
      [.poll, .poll] := by decide +kernel
  have hthinned := ((failures_leave_no_trace .standard).2 (fun _ => ()) interrupted actions).2.1
  refine ⟨hreports, ?_⟩
  rw [← hkept]
  refine hthinned.trans ?_
  decide +kernel

end Session

end TriggerLatch.Monitor
