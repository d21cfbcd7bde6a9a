import TriggerLatch.Monitor.Session

/-!
# What the turns of a session tell

A session is a row of turns: an action of the monitor and the reply to it (`Session.turns`).  A
turn fails if its reply does not say what the action asks for; then the monitor reports that and
remembers nothing (`hear_snd_eq`).  So **what a turn makes the monitor report depends on its own
reply and on the last turn before it that has not failed** (`Session.tellsAll_run`): the trigger is
reported if that turn has left the device clear (`LeftClear`).
-/

namespace TriggerLatch.Monitor

/-! ### Turns -/

/-- An action of the monitor and the reply to it. -/
structure Turn where
  action : Action
  reply : Reply
  deriving DecidableEq, Repr

/-- The field that an action looks for in the body of an answer. -/
def Action.field : Action → Text
  | poll => Surface.statusField
  | reset => Surface.resetField

namespace Turn

/-- The last answer is no error, and its body has this value in the field that is looked for. -/
def Says (t : Turn) (value : Bool) : Prop :=
  ∃ a body, t.reply.answer = some a ∧ a.status < 400 ∧ a.payload = some body ∧
    Surface.readFlag t.action.field body = some value

theorem result?_eq_some_iff {t : Turn} {value : Bool} :
    t.action.result? t.reply = some value ↔ t.Says value := by
  have hflag : t.action.result? t.reply = t.reply.flag? (Surface.readFlag t.action.field) := by
    obtain ⟨action, reply⟩ := t
    cases action <;> rfl
  rw [hflag, Says, Reply.flag?]
  cases t.reply.answer with
  | none => simp
  | some a =>
    by_cases h : a.status < 400
    · simp [Answer.succeeds, h, Option.bind_eq_some_iff]
    · simp [Answer.succeeds, h]

/-- What the device reads after the turn, as far as the monitor knows; nothing if it has failed. -/
def news? (t : Turn) : Option Bool :=
  match t.action with
  | .poll => Action.poll.result? t.reply
  | .reset => if Action.reset.result? t.reply = some true then some false else none

/-- The turn has failed: a poll without a reading, or a reset that is not confirmed. -/
def fails (t : Turn) : Bool := t.news?.isNone

/-- The poll has found the device clear, or the reset has left it so. -/
def Clears (t : Turn) : Prop :=
  match t.action with
  | .poll => t.Says false
  | .reset => t.Says true

theorem news?_poll_eq_some_iff {r : Reply} {reading : Bool} :
    (Turn.mk .poll r).news? = some reading ↔ (Turn.mk .poll r).Says reading :=
  result?_eq_some_iff (t := ⟨.poll, r⟩)

theorem news?_reset {r : Reply} [Decidable ((Turn.mk .reset r).Says true)] :
    (Turn.mk .reset r).news? = if (Turn.mk .reset r).Says true then some false else none := by
  simp only [news?, ← result?_eq_some_iff]

theorem news?_eq_some_false_iff {t : Turn} : t.news? = some false ↔ t.Clears := by
  classical
  obtain ⟨action, r⟩ := t
  cases action with
  | poll => exact news?_poll_eq_some_iff
  | reset => simp [news?_reset, Clears]

theorem fails_iff {t : Turn} :
    t.fails = true ↔
      match t.action with
      | .poll => ∀ value, ¬ t.Says value
      | .reset => ¬ t.Says true := by
  classical
  obtain ⟨action, r⟩ := t
  cases action with
  | poll => simp [fails, Option.isNone_iff_eq_none, Option.eq_none_iff_forall_ne_some,
      news?_poll_eq_some_iff]
  | reset => simp [fails, news?_reset]

end Turn

/-! ### What the monitor remembers -/

variable {m : Monitor} {r : Reply}

theorem hear_poll_of_reading {reading : Bool} (h : (Turn.mk .poll r).Says reading) :
    m.hear .poll r = m.observe (.ofNanos r.took) reading := by
  have hr : Action.poll.result? r = some reading := Turn.result?_eq_some_iff.2 h
  simp only [hear, hr]

theorem hear_poll_of_fails (h : ∀ value, ¬ (Turn.mk .poll r).Says value) :
    m.hear .poll r = ([.noResponse (.ofNanos r.took)], m) := by
  have hr : Action.poll.result? r = none :=
    Option.eq_none_iff_forall_ne_some.2 fun value hv => h value (Turn.result?_eq_some_iff.1 hv)
  simp only [hear, hr]

theorem hear_reset_of_done (h : (Turn.mk .reset r).Says true) :
    m.hear .reset r = ([.resetDone], { m with tracker := m.tracker.markReset }) := by
  have hr : Action.reset.result? r = some true := Turn.result?_eq_some_iff.2 h
  simp only [hear, hr]

theorem hear_reset_of_fails (h : ¬ (Turn.mk .reset r).Says true) :
    m.hear .reset r = ([.resetFailed], m) := by
  have hr : Action.reset.result? r ≠ some true := fun e => h (Turn.result?_eq_some_iff.1 e)
  unfold hear
  split <;> simp_all

/-- **A turn that fails leaves the monitor as it was**; any other is the new baseline. -/
theorem hear_snd_eq (m : Monitor) (t : Turn) :
    (m.hear t.action t.reply).2 = { m with tracker := ⟨t.news?.or m.tracker.baseline⟩ } := by
  classical
  obtain ⟨action, r⟩ := t
  cases action with
  | poll =>
    cases hn : (Turn.mk .poll r).news? with
    | none =>
      rw [hear_poll_of_fails fun value hv => by simp [Turn.news?_poll_eq_some_iff.2 hv] at hn]
      rfl
    | some reading => rw [hear_poll_of_reading (Turn.news?_poll_eq_some_iff.1 hn)]; rfl
  | reset =>
    rw [Turn.news?_reset]
    split
    · next h => rw [hear_reset_of_done h]; rfl
    · next h => rw [hear_reset_of_fails h]; rfl

theorem hear_settings (m : Monitor) (t : Turn) :
    (m.hear t.action t.reply).2.settings = m.settings := by
  rw [hear_snd_eq]

theorem hear_snd_of_fails {t : Turn} (h : t.fails = true) :
    (m.hear t.action t.reply).2 = m := by
  rw [hear_snd_eq, Option.isNone_iff_eq_none.1 h]
  rfl

/-- What a row of turns makes the monitor report, turn by turn. -/
def hearAll (m : Monitor) : List Turn → List (List Report)
  | [] => []
  | t :: ts => (m.hear t.action t.reply).1 :: (m.hear t.action t.reply).2.hearAll ts

/-- The last turn that has not failed has left the device clear. -/
def LeftClear (before : List Turn) : Prop :=
  ∃ us t vs, before = us ++ t :: vs ∧ t.Clears ∧ ∀ v ∈ vs, v.fails = true

theorem leftClear_concat {before : List Turn} {t : Turn} :
    LeftClear (before ++ [t]) ↔ t.Clears ∨ t.fails = true ∧ LeftClear before := by
  constructor
  · rintro ⟨us, u, vs, happ, hclears, hfails⟩
    rcases List.eq_nil_or_concat vs with rfl | ⟨vs, last, rfl⟩
    · obtain ⟨-, rfl⟩ := List.concat_inj.1 (by simpa using happ)
      exact .inl hclears
    · rw [List.concat_eq_append, ← List.cons_append, ← List.append_assoc] at happ
      obtain ⟨rfl, hlast⟩ := List.append_inj' happ rfl
      obtain rfl : t = last := by simpa using hlast
      exact .inr ⟨hfails t (by simp), us, u, vs, rfl, hclears,
        fun v hv => hfails v (by simp [hv])⟩
  · rintro (hclears | ⟨hfails, us, u, vs, rfl, hclears, hrest⟩)
    · exact ⟨before, t, [], rfl, hclears, nofun⟩
    · refine ⟨us, u, vs ++ [t], by simp, hclears, fun v hv => ?_⟩
      rcases List.mem_append.1 hv with hv | hv
      · exact hrest v hv
      · rwa [List.mem_singleton.1 hv]

/-! ### What turns tell -/

/-- The report of an answer that was slow. -/
def slowness (settings : Settings) (r : Reply) : List Report :=
  if (Duration.ofNanos r.took).exceeds settings.slowAfter then
    [.slow (.ofNanos r.took) settings.slowAfter]
  else []

/-- What a turn makes the monitor report behind the turns `before`. -/
inductive Tells (settings : Settings) (before : List Turn) : Turn → List Report → Prop
  | noResponse {r : Reply} (h : ∀ value, ¬ (Turn.mk .poll r).Says value) :
    Tells settings before ⟨.poll, r⟩ [.noResponse (.ofNanos r.took)]
  | triggered {r : Reply} (h : (Turn.mk .poll r).Says true) (hb : LeftClear before) :
    Tells settings before ⟨.poll, r⟩ (slowness settings r ++ [.triggered])
  | steady {r : Reply} {reading : Bool} (h : (Turn.mk .poll r).Says reading)
    (hb : ¬ (reading = true ∧ LeftClear before)) :
    Tells settings before ⟨.poll, r⟩ (slowness settings r)
  | resetDone {r : Reply} (h : (Turn.mk .reset r).Says true) :
    Tells settings before ⟨.reset, r⟩ [.resetDone]
  | resetFailed {r : Reply} (h : ¬ (Turn.mk .reset r).Says true) :
    Tells settings before ⟨.reset, r⟩ [.resetFailed]

/-- What each turn of a row makes the monitor report, behind the turns `before` and those before
it in the row. -/
inductive TellsAll (settings : Settings) : List Turn → List Turn → List (List Report) → Prop
  | nil {before : List Turn} : TellsAll settings before [] []
  | cons {before ts : List Turn} {t : Turn} {reports : List Report} {rest : List (List Report)}
    (h : Tells settings before t reports) (hs : TellsAll settings (before ++ [t]) ts rest) :
    TellsAll settings before (t :: ts) (reports :: rest)

/-- The monitor remembers what the last turn that has not failed has left. -/
def Remembers (m : Monitor) (before : List Turn) : Prop :=
  m.tracker.baseline = some false ↔ LeftClear before

variable {before : List Turn}

theorem remembers_start (settings : Settings) : Remembers (.start settings) [] := by
  refine ⟨nofun, ?_⟩
  rintro ⟨us, t, vs, happ, -⟩
  simp at happ

theorem Remembers.hear (h : Remembers m before) (t : Turn) :
    Remembers (m.hear t.action t.reply).2 (before ++ [t]) := by
  have hm : m.tracker.baseline = some false ↔ LeftClear before := h
  rw [Remembers, leftClear_concat, ← t.news?_eq_some_false_iff, ← hm, hear_snd_eq, Turn.fails]
  cases t.news? <;> simp

theorem Remembers.tells (h : Remembers m before) (t : Turn) :
    Tells m.settings before t (m.hear t.action t.reply).1 := by
  obtain ⟨action, r⟩ := t
  cases action with
  | poll =>
    by_cases hsays : ∃ reading, (Turn.mk .poll r).Says reading
    · obtain ⟨reading, hsays⟩ := hsays
      rw [hear_poll_of_reading hsays]
      have hfires : m.tracker.firesOn reading = true ↔ reading = true ∧ LeftClear before := by
        have hm : m.tracker.baseline = some false ↔ LeftClear before := h
        rw [← hm, Tracker.firesOn, Bool.and_eq_true, beq_iff_eq, and_comm]
      by_cases hf : m.tracker.firesOn reading = true
      · obtain ⟨rfl, hb⟩ := hfires.1 hf
        rw [observe, if_pos hf]
        exact .triggered hsays hb
      · rw [observe, if_neg hf]
        have hsteady : Tells m.settings before ⟨.poll, r⟩ (slowness m.settings r) :=
          .steady hsays (mt hfires.2 hf)
        simpa [slowness] using hsteady
    · rw [not_exists] at hsays
      rw [hear_poll_of_fails hsays]
      exact .noResponse hsays
  | reset =>
    by_cases hsays : (Turn.mk .reset r).Says true
    · rw [hear_reset_of_done hsays]
      exact .resetDone hsays
    · rw [hear_reset_of_fails hsays]
      exact .resetFailed hsays

theorem Remembers.tellsAll (h : Remembers m before) (ts : List Turn) :
    TellsAll m.settings before ts (m.hearAll ts) := by
  induction ts generalizing m before with
  | nil => exact .nil
  | cons t ts ih =>
    refine .cons (h.tells t) ?_
    rw [← hear_settings m t]
    exact ih (h.hear t)

namespace Session

variable {σ : Type}

/-- The turn that an action is. -/
def turn (peer : Peer σ) (s : Session σ) (a : Action) : Turn :=
  ⟨a, (s.monitor.ask peer a s.device).1⟩

/-- The turns of a session, one for each action. -/
def turns (peer : Peer σ) (s : Session σ) : List Action → List Turn
  | [] => []
  | a :: as => s.turn peer a :: (s.act peer a).2.turns peer as

theorem map_action_turns (peer : Peer σ) (s : Session σ) (as : List Action) :
    (s.turns peer as).map Turn.action = as := by
  induction as generalizing s with
  | nil => rfl
  | cons a as ih => rw [turns, List.map_cons, ih, turn]

theorem run_fst (peer : Peer σ) (s : Session σ) (as : List Action) :
    (s.run peer as).1 = s.monitor.hearAll (s.turns peer as) := by
  induction as generalizing s with
  | nil => rfl
  | cons a as ih =>
    rw [turns, hearAll]
    exact congrArg (_ :: ·) (ih (s.act peer a).2)

/-- **What a session reports**, turn by turn. -/
theorem tellsAll_run (peer : Peer σ) (settings : Settings) (device : σ) (as : List Action) :
    TellsAll settings [] ((start settings device).turns peer as)
      ((start settings device).run peer as).1 := by
  rw [run_fst]
  exact (remembers_start settings).tellsAll _

end Session

end TriggerLatch.Monitor
