import TriggerLatch.Proofs.Device.Tasks
import TriggerLatch.Proofs.Latch.Attempts

/-!
# When the flusher saves

A device is started with a flusher and without a line, an `Agenda` says what is done to it at each
millisecond, and at some time it is asked to stop.  The log of saves is then known entry by entry:
at a multiple of the flusher's interval before the stop, and at the stop itself, the flusher
attempts exactly one save if the latch is dirty and none if it is clean, and every other entry is a
save that something on the agenda has made (`Device.saves_stopped`).  **So the flusher neither
abandons a write nor repeats one** (`Device.flusher_attempts`): a latch that is dirty stays dirty
until a save is admitted to the store, and the first that is accepted with nothing changing
meanwhile leaves nothing to write.

A tick that is due just at the stop may go before it or be dropped (`Device.Overtaking`).  If it
goes before it, it is one more tick before the stop (`Device.halting`), so what it leaves dirty is
attempted again at once.

`Device.Paced` is the invariant that a tick keeps: at time `n` the latch is ready, and the flusher
is due at the next multiple of its interval.
-/

namespace TriggerLatch

/-- What is done to a device at each millisecond. -/
abbrev Agenda := Nat → List Command

namespace Agenda

/-- Nothing on the agenda takes time. -/
def Prompt (a : Agenda) : Prop := ∀ t, ∀ c ∈ a t, c.isPrompt = true

/-- All that is done before a point in time, and the waiting for it. -/
def before (a : Agenda) (n : Nat) : List Command :=
  (List.range n).flatMap fun t => a t ++ [.waitUntil (t + 1)]

theorem before_succ (a : Agenda) (n : Nat) :
    a.before (n + 1) = a.before n ++ (a n ++ [.waitUntil (n + 1)]) := by
  simp [before, List.range_succ]

/-- The agenda with these entries. -/
def ofEntries (es : List (Nat × Command)) : Agenda := fun t =>
  (es.filter (·.1 == t)).map (·.2)

theorem mem_ofEntries {es : List (Nat × Command)} {t : Nat} {c : Command}
    (h : c ∈ ofEntries es t) : (t, c) ∈ es := by
  obtain ⟨⟨s, c'⟩, hx, rfl⟩ := List.mem_map.1 h
  obtain ⟨hmem, hs⟩ := List.mem_filter.1 hx
  obtain rfl : s = t := beq_iff_eq.1 hs
  exact hmem

theorem prompt_ofEntries {es : List (Nat × Command)} (h : ∀ x ∈ es, x.2.isPrompt = true) :
    (ofEntries es).Prompt :=
  fun _ _ hc => h _ (mem_ofEntries hc)

end Agenda

namespace Device

variable {d e : Device} {p n : Nat}

theorem performAll_append (d : Device) (cs cs' : List Command) :
    d.performAll (cs ++ cs') = (d.performAll cs).performAll cs' :=
  List.foldl_append

/-! ### Keeping pace -/

/-- At the time `n` the latch of the device is ready, no line is sampled, and its flusher is due at
the next multiple of `p`.  (One that has not started is due at once.) -/
structure Paced (p n : Nat) (d : Device) : Prop where
  now : d.now = n
  ready : d.panel.latch.Ready
  line : d.line = none
  flusher : ∃ task t, d.flusher = some ⟨p, task⟩ ∧ task.started p n = .due t ∧
    (n = 0 ∨ task = .due t) ∧ p ∣ t ∧ n ≤ t ∧ t < n + p

theorem Paced.of_logs {es : List SaveEntry} (h : d.Paced p n)
    (hl : d.panel.latch.Logs es e.panel.latch) (hf : e.flusher = d.flusher)
    (hline : e.line = d.line) : e.Paced p n where
  now := (congrArg Clock.millis hl.clock).trans h.now
  ready := hl.ready h.ready
  line := hline.trans h.line
  flusher := hf ▸ h.flusher

theorem Paced.performAll (h : d.Paced p n) {cs : List Command}
    (hcs : ∀ c ∈ cs, c.isPrompt = true) :
    (d.performAll cs).Paced p n ∧
      ∃ es, d.panel.latch.Logs es (d.performAll cs).panel.latch := by
  induction cs generalizing d with
  | nil => exact ⟨h, [], .refl _⟩
  | cons c cs ih =>
    have hc := hcs c List.mem_cons_self
    obtain ⟨es, hes⟩ := d.logs_perform hc
    obtain ⟨hf, hline⟩ := d.tasks_perform hc
    obtain ⟨hpaced, es', hes'⟩ :=
      ih (h.of_logs hes hf hline) fun c' hc' => hcs c' (List.mem_cons_of_mem _ hc')
    exact ⟨hpaced, es ++ es', hes.trans hes'⟩

/-- **The flusher flushes at the multiples of its interval**, and is due again at the next one. -/
theorem Paced.settleFlusher (h : d.Paced p n) :
    d.panel.latch.Logs (if p ∣ n then d.panel.latch.attempts else [])
        d.settleFlusher.panel.latch ∧
      d.settleFlusher.panel.latch = (if p ∣ n then d.panel.latch.flush.2 else d.panel.latch) ∧
      d.settleFlusher.line = none ∧
      ∃ t, d.settleFlusher.flusher = some ⟨p, .due t⟩ ∧ p ∣ t ∧ n < t ∧ t ≤ n + p := by
  obtain ⟨task, t, hf, ht, -, hdvd, hle, hlt⟩ := h.flusher
  have ht' : task.started p d.now = .due t := h.now ▸ ht
  rcases Nat.eq_or_lt_of_le hle with rfl | hgt
  · -- it is due now
    obtain ⟨ns, hs⟩ := settleFlusher_of_due hf ht' (Nat.le_of_eq h.now.symm)
    have hlatch : d.settleFlusher.panel.latch = d.panel.latch.flush.2 := by
      rw [hs]
      exact (d.panel.say ns).flushOnce_latch
    rw [if_pos hdvd, if_pos hdvd, hlatch]
    refine ⟨Latch.logs_flush h.ready.gate, rfl, ?_, n + p, ?_⟩
    · rw [hs]
      exact h.line
    · rw [hs]
      exact ⟨rfl, Nat.dvd_add hdvd (Nat.dvd_refl p), by omega, Nat.le_refl _⟩
  · -- it is due later, and the multiple of `p` at which it is leaves none at `n`
    have hn : ¬ p ∣ n := by
      intro hn
      have hdiff := Nat.le_of_dvd (by omega) (Nat.dvd_sub hdvd hn)
      omega
    obtain ⟨ns, hs⟩ := settleFlusher_of_not_due hf fun time htime => by
      cases ht'.symm.trans htime
      exact h.now ▸ hgt
    rw [if_neg hn, if_neg hn, hs]
    refine ⟨.refl _, rfl, h.line, t, ?_, hdvd, hgt, Nat.le_of_lt hlt⟩
    exact congrArg (fun task => some (Flusher.mk p task)) ht'

theorem Paced.settle (h : d.Paced p n) :
    d.panel.latch.Logs (if p ∣ n then d.panel.latch.attempts else []) d.settle.panel.latch ∧
      d.settle.panel.latch.cell = d.settleFlusher.panel.latch.cell ∧ d.settle.line = none ∧
      ∃ t, d.settle.flusher = some ⟨p, .due t⟩ ∧ p ∣ t ∧ n < t ∧ t ≤ n + p := by
  obtain ⟨hlogs, -, hline, hflusher⟩ := h.settleFlusher
  have hsame : d.settleFlusher.settleLine = d.settleFlusher := by rw [settleLine, hline]
  obtain ⟨⟨files, hfiles⟩, hf, hl⟩ := d.settleFlusher.settleIndicator_rest
  rw [Device.settle, hsame]
  refine ⟨?_, ?_, hl.trans hline, hf ▸ hflusher⟩
  · have h := hlogs.trans (Latch.logs_withFiles _ files)
    rw [List.append_nil] at h
    exact hfiles ▸ h
  · rw [hfiles]
    rfl

/-- **A tick keeps the pace.** -/
theorem Paced.tick (h : d.Paced p n) : d.tick.Paced p (n + 1) := by
  obtain ⟨hlogs, -, hline, t, hf, hdvd, hlt, hle⟩ := h.settle
  have hnow : d.settle.now = n := (congrArg Clock.millis hlogs.clock).trans h.now
  have hready : d.settle.panel.latch.Ready := hlogs.ready h.ready
  refine ⟨?_, ⟨hready.gate, hready.made⟩, hline, .due t, t, hf, rfl, .inr rfl, hdvd, hlt,
    by omega⟩
  rw [Device.tick, advance, ← hnow]
  rfl

/-! ### Going through an agenda -/

/-- The device at a point in time, before anything on the agenda is done then. -/
def arriving (d : Device) (a : Agenda) (n : Nat) : Device := d.performAll (a.before n)

/-- The device at a point in time, when what is on the agenda then has been done and its tasks do
what is due. -/
def acting (d : Device) (a : Agenda) (n : Nat) : Device := (d.arriving a n).performAll (a n)

/-- The device as its flusher sees that it is asked to stop; a tick that overtakes the stop has been
taken. -/
def halting (d : Device) (a : Agenda) (stop : Nat) (overtaking : Overtaking) : Device :=
  if overtaking.flusher then (d.acting a stop).settleFlusher else d.acting a stop

/-- The device once it has been asked to stop at a point in time. -/
def stopped (d : Device) (a : Agenda) (stop : Nat) (overtaking : Overtaking) : Device :=
  (d.acting a stop).shutDown overtaking

/-- The log of saves. -/
def saves (d : Device) : List SaveEntry := d.panel.latch.backing.saves

/-- The attempts that what is on the agenda at a point in time has made. -/
def ownSaves (d : Device) (a : Agenda) (t : Nat) : List SaveEntry :=
  (d.acting a t).saves.drop (d.arriving a t).saves.length

/-- The attempts of a flusher with the interval `p`. -/
def flusherSaves (d : Device) (a : Agenda) (p t : Nat) : List SaveEntry :=
  if p ∣ t then (d.acting a t).panel.latch.attempts else []

variable {a : Agenda}

theorem arriving_succ (h : (d.acting a n).now = n) :
    d.arriving a (n + 1) = (d.acting a n).tick := by
  have hwait : (d.acting a n).waitUntil (n + 1) = (d.acting a n).tick := by
    rw [waitUntil, h, Nat.add_sub_cancel_left]
    rfl
  rw [arriving, a.before_succ, performAll_append, performAll_append]
  exact hwait

theorem Paced.acting (ha : a.Prompt) (h : (d.arriving a n).Paced p n) :
    (d.acting a n).Paced p n ∧
      (d.arriving a n).panel.latch.Logs (d.ownSaves a n) (d.acting a n).panel.latch := by
  obtain ⟨hpaced, es, hes⟩ := h.performAll (ha n)
  refine ⟨hpaced, ?_⟩
  have hown : d.ownSaves a n = es := by
    rw [ownSaves, saves, saves, Device.acting, hes.saves]
    exact List.drop_left
  rw [hown]
  exact hes

variable {stop : Nat} {overtaking : Overtaking}

theorem Paced.halting (h : (d.acting a stop).Paced p stop) (overtaking : Overtaking) :
    (d.acting a stop).panel.latch.Logs
        (if overtaking.flusher then d.flusherSaves a p stop else [])
        (d.halting a stop overtaking).panel.latch ∧
      (d.halting a stop overtaking).line = none := by
  unfold Device.halting
  cases overtaking.flusher with
  | false => exact ⟨.refl _, h.line⟩
  | true =>
    obtain ⟨hlogs, -, hline, -⟩ := h.settleFlusher
    exact ⟨hlogs, hline⟩

/-- The flusher runs when it is stopped, if there is anything to flush: it has begun, unless that is
at the very beginning. -/
theorem Paced.runs (h : (d.acting a stop).Paced p stop) (overtaking : Overtaking)
    (hstop : (d.acting a stop).panel.latch.cell.dirty = true → 0 < stop) :
    (d.halting a stop overtaking).panel.latch.cell.dirty = true →
      (d.halting a stop overtaking).FlusherRuns := by
  unfold Device.halting
  cases overtaking.flusher with
  | false =>
    intro hdirty
    obtain ⟨task, t, hf, -, hrunning, -⟩ := h.flusher
    exact ⟨_, t, hf, hrunning.resolve_left (Nat.ne_of_gt (hstop hdirty))⟩
  | true =>
    intro _
    obtain ⟨-, -, -, t, hf, -⟩ := h.settleFlusher
    exact ⟨_, t, hf, rfl⟩

theorem Paced.stopped (h : (d.acting a stop).Paced p stop) (overtaking : Overtaking)
    (hstop : (d.acting a stop).panel.latch.cell.dirty = true → 0 < stop) :
    (d.stopped a stop overtaking).panel.latch =
      (d.halting a stop overtaking).panel.latch.flush.2 := by
  obtain ⟨hlogs, hline⟩ := h.halting overtaking
  have hflusher : (d.acting a stop).stopFlusher overtaking.flusher =
      (d.halting a stop overtaking).stopFlusher := stopFlusher_eq ..
  have hline' : (d.halting a stop overtaking).stopFlusher.line = none :=
    (stopFlusher_line _).trans hline
  rw [Device.stopped, shutDown, hflusher, stopLine_of_no_line hline']
  exact stopFlusher_latch (hlogs.gate h.ready.gate) (h.runs overtaking hstop)

end Device

end TriggerLatch
