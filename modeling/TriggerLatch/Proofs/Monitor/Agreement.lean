import Mathlib.Data.List.Induction
import TriggerLatch.Proofs.Latch.Acknowledged
import TriggerLatch.Proofs.Monitor.Exchange

/-!
# A monitor and its device agree

While a monitor polls a device and resets it now and then, others use the device too: edges come,
the latch is flushed, and someone else may reset it, over the network or not.  All that happens is a
row of incidents, one after the other (`Session.meetAll`).

What the monitor remembers is what its last action left the latch reading.  So **a poll reports the
trigger exactly if it finds the latch triggered, and the last poll or reset of the monitor left it
clear** (`poll_reports`).  Between two such reports there are a reset and an edge, and a trigger
that comes after a poll has seen the latch clear is reported once.

Incidents do not overlap, so nothing reaches the latch while it saves (`Backing.Quiet`): an edge in
the middle of a reset by the monitor would come after the incident that it is part of.
-/

namespace TriggerLatch

/-! ### Saves that nothing comes in between -/

/-- Nothing will reach the latch while it saves. -/
def Backing.Quiet (b : Backing) : Prop := ∀ item ∈ b.script, item.during = []

@[simp] theorem Backing.finish_script (b : Backing) (value : Bool) (verdict : Verdict) :
    (b.finish value verdict).2.script = b.script := by
  cases verdict <;> rfl

theorem Backing.Quiet.during_next {b : Backing} (h : b.Quiet) : b.next.during = [] := by
  unfold Backing.Quiet at h
  unfold Backing.next
  cases hs : b.script with
  | nil => rfl
  | cons item script =>
    rw [hs] at h
    exact h item List.mem_cons_self

namespace Latch

variable {l l' : Latch}

theorem quiet_attempt (h : l.backing.Quiet) : l.attempt.2.Quiet := by
  have hscript : l.attempt.2.script = l.backing.script.tail := Backing.finish_script ..
  intro item hitem
  rw [hscript] at hitem
  exact h item (List.mem_of_mem_tail hitem)

theorem Writes.quiet {r : Ending (Except PersistError FlushOutcome)} (h : Writes l r l')
    (hl : l.backing.Quiet) : l'.backing.Quiet ∧ l'.read = l.read := by
  have hattempt := quiet_attempt hl
  have hcell : l.disturbed = l.cell := by
    rw [disturbed, hl.during_next, Cell.disturbAll, List.foldl_nil]
  cases h with
  | clean => exact ⟨hl, rfl⟩
  | accepted _ hs =>
    rw [hs] at hattempt
    refine ⟨hattempt, ?_⟩
    rw [read, Cell.confirm_triggered, hcell]
    rfl
  | refused _ hs | panicked _ hs =>
    rw [hs] at hattempt
    refine ⟨hattempt, ?_⟩
    rw [read, hcell]
    rfl

theorem quiet_flush (hl : l.backing.Quiet) : l.flush.2.backing.Quiet ∧ l.flush.2.read = l.read := by
  rcases l.flush_spec with ⟨-, h⟩ | ⟨-, h⟩
  · rw [h]
    exact ⟨hl, rfl⟩
  · exact h.quiet hl

theorem quiet_reset (hl : l.backing.Quiet) : l.reset.2.backing.Quiet ∧ l.reset.2.read = false := by
  have hcleared : l.cleared.read = false := l.cell.clear_triggered
  rcases l.reset_spec with ⟨hidle, h⟩ | ⟨-, -, h⟩ | ⟨-, -, r, -, h⟩
  · rw [h, read, hidle]
    exact ⟨hl, rfl⟩
  · rw [h]
    exact ⟨hl, hcleared⟩
  · rw [← hcleared]
    exact h.quiet hl

/-- **After a call that nothing comes in between**, an edge has left the latch triggered, a reset
has left it clear, and a flush has changed nothing about that. -/
theorem quiet_call (hl : l.backing.Quiet) (c : Call) :
    (l.call c).backing.Quiet ∧
      (l.call c).read =
        match c with
        | .edge => true
        | .reset => false
        | .flush => l.read := by
  cases c with
  | edge => exact ⟨hl, l.cell.recordEdge_triggered⟩
  | reset => exact quiet_reset hl
  | flush => exact quiet_flush hl

end Latch

namespace Monitor

/-! ### Incidents -/

/-- One thing that happens to a device, or to its monitor, which is answered within `limit`
nanoseconds. -/
inductive Incident (limit : Nat) where
  /-- The monitor acts, and is answered after so long. -/
  | own (action : Action) (delay : Fin (limit + 1))
  /-- An edge on the latch itself. -/
  | edge
  /-- An edge from a source. -/
  | fire
  | reset
  /-- A request by someone else. -/
  | request (request : Surface.Request)
  | flush

namespace Incident

variable {limit : Nat}

/-- The monitor acts. -/
def isOwn : Incident limit → Bool
  | own _ _ => true
  | _ => false

/-- The monitor polls. -/
def isPoll : Incident limit → Bool
  | own .poll _ => true
  | _ => false

/-- The call of the latch that an incident is, if it is one. -/
def call? : Incident limit → Option TriggerLatch.Call
  | edge | fire => some .edge
  | own .reset _ | reset => some .reset
  | request r => if r.asksForReset then some .reset else none
  | flush => some .flush
  | own .poll _ => none

end Incident

namespace Session

variable {limit : Nat}

/-- What the monitor reports about an incident, and the session afterwards. -/
def meet (s : Session Panel) : Incident limit → List Report × Session Panel
  | .own a delay => s.act (.ofPanel delay) a
  | .edge => ([], { s with device.latch := s.device.latch.recordEdge.2 })
  | .fire => ([], { s with device := s.device.fire.2 })
  | .reset => ([], { s with device.latch := s.device.latch.reset.2 })
  | .request r => ([], { s with device := (Surface.handle r s.device).2 })
  | .flush => ([], { s with device := s.device.flushOnce.2 })

/-- The session after a row of incidents. -/
def meetAll (s : Session Panel) (es : List (Incident limit)) : Session Panel :=
  es.foldl (fun s e => (s.meet e).2) s

/-- The latch of the device is triggered. -/
def triggered (s : Session Panel) : Bool := s.device.latch.read

/-- The monitor has acted in the row, and its last action left the latch clear. -/
def LastLeftClear (s : Session Panel) (es : List (Incident limit)) : Prop :=
  ∃ us a delay vs, es = us ++ .own a delay :: vs ∧ (∀ v ∈ vs, v.isOwn = false) ∧
    (s.meetAll (us ++ [.own a delay])).triggered = false

theorem meetAll_append (s : Session Panel) (es fs : List (Incident limit)) :
    s.meetAll (es ++ fs) = (s.meetAll es).meetAll fs := List.foldl_append

theorem meetAll_cons (s : Session Panel) (e : Incident limit) (es : List (Incident limit)) :
    s.meetAll (e :: es) = (s.meet e).2.meetAll es := rfl

/-- The monitor is set up so, and nothing will reach the latch of its device while it saves. -/
structure Runs (settings : Settings) (s : Session Panel) : Prop where
  settings : s.monitor.settings = settings
  quiet : s.device.latch.backing.Quiet

variable {settings : Settings} {s : Session Panel}
  {es : List (Incident settings.timeout.totalNanos)}

/-- **What a poll reports**, besides that it was slow. -/
theorem Runs.meet_poll (h : s.Runs settings) (hreach : Reaches settings.baseUrl)
    (delay : Fin (settings.timeout.totalNanos + 1)) :
    ∃ slow calls, .triggered ∉ slow ∧
      s.meet (.own .poll delay) =
        (slow ++ if s.monitor.tracker.firesOn s.triggered then [.triggered] else [],
          ⟨{ s.monitor with tracker := ⟨some s.triggered⟩ }, s.device, calls⟩) := by
  obtain ⟨rfl, -⟩ := h
  obtain ⟨r, hask, -, hresult⟩ :=
    ask_ofPanel hreach (Nat.le_of_lt_succ delay.isLt) .poll s.device
  refine ⟨if (Duration.ofNanos r.took).exceeds s.monitor.settings.slowAfter then
    [.slow (.ofNanos r.took) s.monitor.settings.slowAfter] else [], s.calls ++ r.calls, ?_, ?_⟩
  · split <;> simp
  · rw [meet, act, hask]
    simp only [hear, hresult, observe]
    rfl

/-- **A reset by the monitor is done and remembered.** -/
theorem Runs.meet_reset (h : s.Runs settings) (hreach : Reaches settings.baseUrl)
    (delay : Fin (settings.timeout.totalNanos + 1)) :
    ∃ calls, s.meet (.own .reset delay) =
      ([.resetDone],
        ⟨{ s.monitor with tracker := ⟨some false⟩ }, Surface.resetPanel s.device, calls⟩) := by
  obtain ⟨rfl, -⟩ := h
  obtain ⟨r, hask, -, hresult⟩ :=
    ask_ofPanel hreach (Nat.le_of_lt_succ delay.isLt) .reset s.device
  refine ⟨s.calls ++ r.calls, ?_⟩
  rw [meet, act, hask]
  simp only [hear, hresult]
  rfl

/-- **An incident does to the latch what its call does**, and without one nothing. -/
theorem Runs.latch_meet (h : s.Runs settings) (hreach : Reaches settings.baseUrl)
    (e : Incident settings.timeout.totalNanos) :
    (s.meet e).2.monitor.settings = settings ∧
      (s.meet e).2.device.latch =
        match e.call? with
        | some c => s.device.latch.call c
        | none => s.device.latch := by
  cases e with
  | own a delay =>
    cases a with
    | poll =>
      obtain ⟨slow, calls, -, hmeet⟩ := h.meet_poll hreach delay
      rw [hmeet]
      exact ⟨h.settings, rfl⟩
    | reset =>
      obtain ⟨calls, hmeet⟩ := h.meet_reset hreach delay
      rw [hmeet]
      exact ⟨h.settings, rfl⟩
  | edge | reset => exact ⟨h.settings, rfl⟩
  | fire => exact ⟨h.settings, s.device.fire_spec.2⟩
  | flush => exact ⟨h.settings, s.device.flushOnce_latch⟩
  | request r =>
    refine ⟨h.settings, (Surface.handle_latch r s.device).trans ?_⟩
    rw [Incident.call?]
    split <;> rfl

theorem Runs.meet (h : s.Runs settings) (hreach : Reaches settings.baseUrl)
    (e : Incident settings.timeout.totalNanos) :
    (s.meet e).2.Runs settings ∧
      (s.meet e).2.triggered =
        match e.call? with
        | some .edge => true
        | some .reset => false
        | _ => s.triggered := by
  obtain ⟨hsettings, hlatch⟩ := h.latch_meet hreach e
  cases hc : e.call? with
  | none =>
    rw [hc] at hlatch
    exact ⟨⟨hsettings, hlatch ▸ h.quiet⟩, congrArg Latch.read hlatch⟩
  | some c =>
    rw [hc] at hlatch
    obtain ⟨hquiet, hread⟩ := Latch.quiet_call h.quiet c
    refine ⟨⟨hsettings, hlatch ▸ hquiet⟩, ?_⟩
    rw [triggered, hlatch, hread]
    cases c <;> rfl

theorem Runs.meetAll (h : s.Runs settings) (hreach : Reaches settings.baseUrl)
    (es : List (Incident settings.timeout.totalNanos)) : (s.meetAll es).Runs settings := by
  induction es generalizing s with
  | nil => exact h
  | cons e es ih => exact ih (h.meet hreach e).1

/-! ### What the latch reads -/

theorem Runs.triggered_meetAll (h : s.Runs settings) (hreach : Reaches settings.baseUrl)
    (ht : s.triggered = true) (hes : ∀ e ∈ es, e.call? ≠ some .reset) :
    (s.meetAll es).triggered = true := by
  induction es generalizing s with
  | nil => exact ht
  | cons e es ih =>
    obtain ⟨hruns, hread⟩ := h.meet hreach e
    have he : e.call? ≠ some .reset := hes e List.mem_cons_self
    refine ih hruns ?_ fun e' he' => hes e' (List.mem_cons_of_mem _ he')
    rw [hread]
    split
    · rfl
    · next hc => exact absurd hc he
    · exact ht

theorem Runs.exists_reset (h : s.Runs settings) (hreach : Reaches settings.baseUrl)
    (ht : s.triggered = true) (hf : (s.meetAll es).triggered = false) :
    ∃ us r vs, es = us ++ r :: vs ∧ r.call? = some .reset := by
  have hsome : ∃ r ∈ es, r.call? = some .reset := by
    by_contra hnone
    have hes : ∀ e ∈ es, e.call? ≠ some .reset := fun e he hc => hnone ⟨e, he, hc⟩
    cases hf.symm.trans (h.triggered_meetAll hreach ht hes)
  obtain ⟨r, hr, hreset⟩ := hsome
  obtain ⟨us, vs, rfl⟩ := List.append_of_mem hr
  exact ⟨us, r, vs, rfl, hreset⟩

theorem Runs.exists_edge (h : s.Runs settings) (hreach : Reaches settings.baseUrl)
    (hf : s.triggered = false) (ht : (s.meetAll es).triggered = true) :
    ∃ us e vs, es = us ++ e :: vs ∧ e.call? = some .edge ∧
      (s.meetAll us).device.latch.recordEdge.1 = true := by
  induction es generalizing s with
  | nil => cases hf.symm.trans ht
  | cons e es ih =>
    obtain ⟨hruns, hread⟩ := h.meet hreach e
    by_cases he : e.call? = some .edge
    · exact ⟨[], e, es, rfl, he, congrArg not hf⟩
    · have hstill : (s.meet e).2.triggered = false := by
        rw [hread]
        split
        · next hc => exact absurd hc he
        · rfl
        · exact hf
      obtain ⟨us, e', vs, rfl, he', hlatched⟩ := ih hruns hstill ht
      exact ⟨e :: us, e', vs, rfl, he', hlatched⟩

/-! ### What the monitor remembers -/

/-- What the monitor knows of the latch, after its last action. -/
def baseline (s : Session Panel) : Option Bool := s.monitor.tracker.baseline

theorem Runs.baseline_meet_own (h : s.Runs settings) (hreach : Reaches settings.baseUrl)
    (a : Action) (delay : Fin (settings.timeout.totalNanos + 1)) :
    (s.meet (.own a delay)).2.baseline = some (s.meet (.own a delay)).2.triggered := by
  obtain ⟨-, hread⟩ := h.meet hreach (.own a delay)
  rw [hread]
  cases a with
  | poll =>
    obtain ⟨slow, calls, -, hmeet⟩ := h.meet_poll hreach delay
    rw [hmeet]
    rfl
  | reset =>
    obtain ⟨calls, hmeet⟩ := h.meet_reset hreach delay
    rw [hmeet]
    rfl

theorem baseline_meet {limit : Nat} {e : Incident limit} (he : e.isOwn = false) :
    (s.meet e).2.baseline = s.baseline := by
  cases e with
  | own a delay => cases he
  | _ => rfl

/-- The last action of the monitor in a row is the last incident, or one before it. -/
theorem lastLeftClear_append (s : Session Panel) (es : List (Incident limit)) (e : Incident limit) :
    s.LastLeftClear (es ++ [e]) ↔
      if e.isOwn then (s.meetAll (es ++ [e])).triggered = false else s.LastLeftClear es := by
  constructor
  · rintro ⟨us, a, delay, vs, hes, hvs, hclear⟩
    rcases List.eq_nil_or_concat' vs with rfl | ⟨vs, v, rfl⟩
    · obtain ⟨rfl, he⟩ := List.append_inj' hes rfl
      cases he
      exact hclear
    · rw [← List.cons_append, ← List.append_assoc] at hes
      obtain ⟨rfl, he⟩ := List.append_inj' hes rfl
      cases he
      rw [hvs e (List.mem_append_right _ List.mem_cons_self), if_neg Bool.false_ne_true]
      exact ⟨us, a, delay, vs, rfl, fun v hv => hvs v (List.mem_append_left _ hv), hclear⟩
  · cases hown : e.isOwn with
    | true =>
      cases e with
      | own a delay => exact fun hclear => ⟨es, a, delay, [], rfl, by simp, hclear⟩
      | _ => cases hown
    | false =>
      rintro ⟨us, a, delay, vs, rfl, hvs, hclear⟩
      refine ⟨us, a, delay, vs ++ [e], by simp, fun v hv => ?_, hclear⟩
      rcases List.mem_append.1 hv with hv | hv
      · exact hvs v hv
      · exact List.mem_singleton.1 hv ▸ hown

/-- **The monitor takes the latch for clear exactly if its last action left it so**, or it did so
before and has not acted since. -/
theorem Runs.baseline_meetAll (h : s.Runs settings) (hreach : Reaches settings.baseUrl)
    (es : List (Incident settings.timeout.totalNanos)) :
    (s.meetAll es).baseline = some false ↔
      s.LastLeftClear es ∨ s.baseline = some false ∧ ∀ e ∈ es, e.isOwn = false := by
  induction es using List.reverseRecOn with
  | nil =>
    have hnone : ¬ s.LastLeftClear ([] : List (Incident settings.timeout.totalNanos)) := by
      rintro ⟨us, a, delay, vs, hes, -⟩
      simp at hes
    have hnil : s.meetAll ([] : List (Incident settings.timeout.totalNanos)) = s := rfl
    simp [hnone, hnil]
  | append_singleton es e ih =>
    have hlast : s.meetAll (es ++ [e]) = ((s.meetAll es).meet e).2 := s.meetAll_append es [e]
    rw [lastLeftClear_append, hlast]
    cases hown : e.isOwn with
    | true =>
      have hnever : ¬ ∀ e' ∈ es ++ [e], e'.isOwn = false := by
        intro hall
        cases hown.symm.trans (hall e (by simp))
      cases e with
      | own a delay =>
        rw [(h.meetAll hreach es).baseline_meet_own hreach a delay]
        simp only [hnever, and_false, or_false, if_true, Option.some.injEq]
      | _ => cases hown
    | false =>
      rw [baseline_meet hown, ih]
      simp [or_imp, forall_and, hown]

/-! ### Reports -/

/-- **A poll reports the trigger, once, if it finds the latch triggered that the monitor takes for
clear.** -/
theorem Runs.count_poll (h : s.Runs settings) (hreach : Reaches settings.baseUrl)
    (delay : Fin (settings.timeout.totalNanos + 1)) :
    (s.meet (.own .poll delay)).1.count .triggered =
      if s.baseline = some false ∧ s.triggered = true then 1 else 0 := by
  obtain ⟨slow, calls, hslow, hmeet⟩ := h.meet_poll hreach delay
  have hfires : s.monitor.tracker.firesOn s.triggered = true ↔
      s.baseline = some false ∧ s.triggered = true := by
    rw [Tracker.firesOn, Bool.and_eq_true, beq_iff_eq, baseline]
  rw [hmeet, List.count_append, List.count_eq_zero_of_not_mem hslow, Nat.zero_add]
  simp only [hfires]
  split <;> rfl

theorem Runs.triggered_mem_poll (h : s.Runs settings) (hreach : Reaches settings.baseUrl)
    (delay : Fin (settings.timeout.totalNanos + 1)) :
    .triggered ∈ (s.meet (.own .poll delay)).1 ↔ s.baseline = some false ∧ s.triggered = true := by
  rw [← List.count_pos_iff, h.count_poll hreach]
  split <;> simp [*]

theorem Runs.baseline_of_no_poll (h : s.Runs settings) (hreach : Reaches settings.baseUrl)
    (hb : s.baseline = some false) (hes : ∀ e ∈ es, e.isPoll = false) :
    (s.meetAll es).baseline = some false := by
  induction es generalizing s with
  | nil => exact hb
  | cons e es ih =>
    rw [meetAll_cons]
    refine ih (h.meet hreach e).1 ?_ fun e' he' => hes e' (List.mem_cons_of_mem _ he')
    have hpoll := hes e List.mem_cons_self
    cases e with
    | own a delay =>
      cases a with
      | poll => cases hpoll
      | reset =>
        obtain ⟨calls, hmeet⟩ := h.meet_reset hreach delay
        rw [hmeet]
        rfl
    | _ => exact hb

theorem Runs.found_by_poll (h : s.Runs settings) (hreach : Reaches settings.baseUrl)
    (delay : Fin (settings.timeout.totalNanos + 1)) :
    (s.meet (.own .poll delay)).2.Runs settings ∧
      (s.meet (.own .poll delay)).2.triggered = s.triggered ∧
      (s.meet (.own .poll delay)).2.baseline = some s.triggered := by
  obtain ⟨hruns, hread⟩ := h.meet hreach (.own .poll delay)
  have hbaseline := h.baseline_meet_own hreach .poll delay
  rw [hread] at hbaseline
  exact ⟨hruns, hread, hbaseline⟩

variable {delay delay' : Fin (settings.timeout.totalNanos + 1)}

/-- **Between two polls that report the trigger there is a reset, and then an edge that latches
it.** -/
theorem Runs.exists_reset_edge (h : s.Runs settings) (hreach : Reaches settings.baseUrl)
    (hfirst : .triggered ∈ (s.meet (.own .poll delay)).1)
    (hsecond : .triggered ∈
      ((s.meetAll (.own .poll delay :: es)).meet (.own .poll delay')).1) :
    ∃ us r vs e ws, es = us ++ r :: vs ++ e :: ws ∧ r.call? = some .reset ∧
      e.call? = some .edge ∧
      (s.meetAll (.own .poll delay :: (us ++ r :: vs))).device.latch.recordEdge.1 = true := by
  obtain ⟨-, ht⟩ := (h.triggered_mem_poll hreach delay).1 hfirst
  obtain ⟨hb', ht'⟩ := ((h.meetAll hreach _).triggered_mem_poll hreach delay').1 hsecond
  obtain ⟨hpolled, hread, hb⟩ := h.found_by_poll hreach delay
  simp only [meetAll_cons] at hb' ht' ⊢
  generalize (s.meet (.own .poll delay)).2 = s' at hpolled hread hb hb' ht' ⊢
  rw [ht] at hread hb
  rcases (hpolled.baseline_meetAll hreach es).1 hb' with ⟨us, a, d, vs, rfl, -, hclear⟩ | ⟨hb', -⟩
  · -- the last action of the monitor found the latch clear, or left it so
    have hruns := hpolled.meetAll hreach (us ++ [.own a d])
    obtain ⟨us₁, r, us₂, hus, hr⟩ := hpolled.exists_reset hreach hread hclear
    rw [List.append_cons, meetAll_append] at ht'
    obtain ⟨vs₁, e, vs₂, rfl, he, hlatched⟩ := hruns.exists_edge hreach hclear ht'
    have hrow : us₁ ++ r :: (us₂ ++ vs₁) = us ++ [.own a d] ++ vs₁ := by
      rw [hus, List.append_assoc, List.cons_append]
    refine ⟨us₁, r, us₂ ++ vs₁, e, vs₂, ?_, hr, he, ?_⟩
    · rw [hrow, List.append_cons, List.append_assoc _ vs₁]
    · rw [hrow, meetAll_append]
      exact hlatched
  · cases hb.symm.trans hb'

/-- **A trigger that comes after a poll has seen the latch clear is reported once**, by the next
poll. -/
theorem Runs.reported_once (h : s.Runs settings) (hreach : Reaches settings.baseUrl)
    (hclear : s.triggered = false) (hes : ∀ e ∈ es, e.isPoll = false)
    (ht : (s.meetAll (.own .poll delay :: es)).triggered = true) :
    ((s.meetAll (.own .poll delay :: es)).meet (.own .poll delay')).1.count .triggered = 1 ∧
      ∀ (fs : List (Incident settings.timeout.totalNanos))
          (delay'' : Fin (settings.timeout.totalNanos + 1)),
        (∀ f ∈ fs, f.call? ≠ some .reset) → .triggered ∉
          ((s.meetAll (.own .poll delay :: es ++ .own .poll delay' :: fs)).meet
            (.own .poll delay'')).1 := by
  obtain ⟨hpolled, -, hb⟩ := h.found_by_poll hreach delay
  rw [hclear] at hb
  have hruns := h.meetAll hreach (.own .poll delay :: es)
  have hb' : (s.meetAll (.own .poll delay :: es)).baseline = some false :=
    hpolled.baseline_of_no_poll hreach hb hes
  have hcount := hruns.count_poll hreach delay'
  rw [if_pos ⟨hb', ht⟩] at hcount
  refine ⟨hcount, ?_⟩
  intro fs delay'' hfs hagain
  have hreported := List.count_pos_iff.1 (hcount ▸ Nat.one_pos)
  rw [meetAll_append] at hagain
  obtain ⟨us, r, vs, e, ws, rfl, hr, -⟩ := hruns.exists_reset_edge hreach hreported hagain
  exact hfs r (by simp) hr

/-- **A monitor and its device agree.**  A poll reports the trigger exactly if the latch is
triggered and the last action of the monitor before left it clear.  Between two polls that report it
the latch was reset, and then an edge latched it.  If a poll has seen the latch clear and the next
poll finds it triggered, that poll reports it once, and no poll after that reports it until the
latch is reset. -/
theorem poll_reports (settings : Settings) (p : Panel) (hreach : Reaches settings.baseUrl)
    (hquiet : p.latch.backing.Quiet) :
    let start := Session.start settings p
    let after : List (Incident settings.timeout.totalNanos) → Session Panel := start.meetAll
    let poll : Fin (settings.timeout.totalNanos + 1) → Incident settings.timeout.totalNanos :=
      .own .poll
    let reports es delay := ((after es).meet (poll delay)).1
    (∀ es delay, .triggered ∈ reports es delay ↔
        (after es).triggered = true ∧ start.LastLeftClear es) ∧
      (∀ es delay fs delay', .triggered ∈ reports es delay →
        .triggered ∈ reports (es ++ poll delay :: fs) delay' →
          ∃ us r vs e ws, fs = us ++ r :: vs ++ e :: ws ∧ r.call? = some .reset ∧
            e.call? = some .edge ∧
            (after (es ++ poll delay :: (us ++ r :: vs))).device.latch.recordEdge.1 = true) ∧
      ∀ es delay fs delay', (after es).triggered = false → (∀ f ∈ fs, f.isPoll = false) →
        (after (es ++ poll delay :: fs)).triggered = true →
          (reports (es ++ poll delay :: fs) delay').count .triggered = 1 ∧
          ∀ gs delay'', (∀ g ∈ gs, g.call? ≠ some .reset) →
            .triggered ∉ reports (es ++ (poll delay :: fs ++ poll delay' :: gs)) delay'' := by
  intro start after poll reports
  have hstart : start.Runs settings := ⟨rfl, hquiet⟩
  have hruns : ∀ es, (after es).Runs settings := hstart.meetAll hreach
  have happend : ∀ es fs, after (es ++ fs) = (after es).meetAll fs := start.meetAll_append
  refine ⟨?_, ?_, ?_⟩
  · intro es delay
    have hbaseline := hstart.baseline_meetAll hreach es
    have hnone : start.baseline ≠ some false := nofun
    rw [(hruns es).triggered_mem_poll hreach, and_comm]
    exact and_congr_right' (hbaseline.trans (or_iff_left fun h => hnone h.1))
  · intro es delay fs delay' hfirst hsecond
    simp only [reports, happend] at hsecond ⊢
    exact (hruns es).exists_reset_edge hreach hfirst hsecond
  · intro es delay fs delay' hclear hfs ht
    simp only [reports, happend] at ht ⊢
    exact (hruns es).reported_once hreach hclear hfs ht

/-- A trigger is reported, and the next one is not: someone else has reset the latch between two
polls, and an edge has come before the second of them. -/
theorem poll_reports_missed_trigger :
    let settings := Settings.standard
    let p := Panel.seed (.inMemory none none [])
    let start := Session.start settings p
    let poll : Incident settings.timeout.totalNanos := .own .poll 0
    let first := [poll, .fire]
    let second := [poll, .fire, poll, .request ⟨"POST".toList, "/reset".toList, []⟩, .edge]
    Reaches settings.baseUrl ∧ p.latch.backing.Quiet ∧
      .triggered ∈ ((start.meetAll first).meet poll).1 ∧
      (start.meetAll second).triggered = true ∧ ((start.meetAll second).meet poll).1 = [] := by
  intro settings p start poll first second
  have hreach : Reaches settings.baseUrl :=
    reaches_authority "127.0.0.1:8080".toList (by decide) (by decide) (by decide)
  have hquiet : p.latch.backing.Quiet := nofun
  obtain ⟨hreports, -⟩ := poll_reports settings p hreach hquiet
  have hclear : start.LastLeftClear first := by
    refine ⟨[], .poll, 0, [.fire], rfl, by decide +kernel, ?_⟩
    decide +kernel
  have hfirst : (start.meetAll first).triggered = true := by decide +kernel
  refine ⟨hreach, hquiet, (hreports first 0).2 ⟨hfirst, hclear⟩, ?_, ?_⟩ <;> decide +kernel

end Session

end Monitor

end TriggerLatch
