import TriggerLatch.Proofs.Device.Calls
import TriggerLatch.Proofs.Latch.Attempts

/-!
# What the tasks of a device do

The flusher flushes when it is due and otherwise leaves the panel as it is, apart from what it says
(`Device.settleFlusher_of_due`, `Device.settleFlusher_of_not_due`); the line takes a sample when it
is due, and fires or does not (`Device.settleLine_of_due`, `Device.settleLine_of_not_due`); the
indicator changes nothing of the latch but the files (`Device.settleIndicator_rest`).  When they are
asked to stop, what becomes of the latch is one more flush (`Device.shutDown_latch`).
-/

namespace TriggerLatch

/-- The task once it has started, if it had not yet. -/
def Task.started (task : Task) (period now : Nat) : Task :=
  match task with
  | .unstarted => .begin period now
  | _ => task

theorem Panel.say_say (p : Panel) (ns ms : List Notice) : (p.say ns).say ms = p.say (ns ++ ms) := by
  simp [say]

/-- An edge from a source, or none. -/
def Panel.fireIf (falls : Bool) (p : Panel) : Panel := if falls then p.fire.2 else p

theorem Panel.fireIf_latch (p : Panel) (falls : Bool) :
    (p.fireIf falls).latch = if falls then p.latch.recordEdge.2 else p.latch := by
  cases falls with
  | false => rfl
  | true => exact p.fire_spec.2

theorem Panel.fireIf_clock (p : Panel) (falls : Bool) :
    (p.fireIf falls).latch.backing.clock = p.latch.backing.clock := by
  rw [fireIf_latch]
  cases falls <;> rfl

/-- What a poller says before its first sample. -/
def LinePoller.opening (l : LinePoller) : List Notice :=
  match l.task with
  | .unstarted => [.samplingStarted l.period]
  | _ => []

/-- The command takes no time and leaves the tasks to themselves. -/
def Command.isPrompt (c : Command) : Bool := c.isCall || c.isAside

namespace Latch

/-- With other files. -/
def withFiles (l : Latch) (files : Files.Tree) : Latch := { l with backing.medium.files := files }

theorem Called.logs {l l' : Latch} {os : List Occurrence} (h : l.Called os l') :
    ∃ es, l.Logs es l' := by
  cases h with
  | edge => exact ⟨[], l.logs_recordEdge⟩
  | reset => exact l.logs_reset
  | flush =>
    rcases l.flush_spec with ⟨-, h⟩ | ⟨-, h⟩
    · rw [h]
      exact ⟨[], .refl l⟩
    · exact ⟨_, h.logs⟩
  | none => exact ⟨[], .refl l⟩

theorem logs_withFiles (l : Latch) (files : Files.Tree) : l.Logs [] (l.withFiles files) :=
  logs_of_same rfl rfl rfl rfl rfl

end Latch

namespace Device

variable {d : Device}

@[simp] theorem say_nil (d : Device) : d.say [] = d := by
  simp [say, Panel.say]

/-! ### Commands that take no time -/

theorem logs_perform (d : Device) {c : Command} (hc : c.isPrompt = true) :
    ∃ es, d.panel.latch.Logs es (d.perform c).2.panel.latch := by
  rcases Bool.or_eq_true_iff.1 hc with hc | hc
  · exact (d.called_perform hc).logs
  · refine ⟨[], ?_⟩
    cases c with
    | edge | fire | reset | flush | flushOnce | request | save | waitUntil | reboot => cases hc
    | _ => exact Latch.logs_of_same rfl rfl rfl rfl rfl

theorem tasks_perform (d : Device) {c : Command} (hc : c.isPrompt = true) :
    (d.perform c).2.flusher = d.flusher ∧ (d.perform c).2.line = d.line := by
  cases c with
  | save | waitUntil | reboot => cases hc
  | _ => exact ⟨rfl, rfl⟩

/-! ### The flusher -/

theorem startFlusher_eq (d : Device) (f : Flusher) :
    ∃ ns, d.startFlusher f = (d.say ns, { f with task := f.task.started f.period d.now }) := by
  obtain ⟨period, task⟩ := f
  cases task with
  | unstarted => exact ⟨_, rfl⟩
  | due | failed | ended => exact ⟨[], by rw [say_nil]; rfl⟩

/-- **A flusher that is due flushes once**, and is due again one interval later. -/
theorem settleFlusher_of_due {f : Flusher} {time : Nat} (hf : d.flusher = some f)
    (ht : f.task.started f.period d.now = .due time) (hle : time ≤ d.now) :
    ∃ ns, d.settleFlusher =
      { d with
        panel := (d.panel.say ns).flushOnce.2
        flusher := some { f with task := .due (time + f.period) } } := by
  obtain ⟨ns, hns⟩ := d.startFlusher_eq f
  refine ⟨ns, ?_⟩
  have hle' : time ≤ (d.say ns).now := hle
  simp only [settleFlusher, hf, hns, ht, if_pos hle']
  rfl

theorem settleFlusher_of_not_due {f : Flusher} (hf : d.flusher = some f)
    (ht : ∀ time, f.task.started f.period d.now = .due time → d.now < time) :
    ∃ ns, d.settleFlusher =
      { d.say ns with flusher := some { f with task := f.task.started f.period d.now } } := by
  obtain ⟨ns, hns⟩ := d.startFlusher_eq f
  refine ⟨ns, ?_⟩
  simp only [settleFlusher, hf, hns]
  split
  · next time hdue =>
    have hlt : ¬ time ≤ (d.say ns).now := Nat.not_le.2 (ht time hdue)
    rw [if_neg hlt, hdue]
  · rfl

theorem settleFlusher_cases (d : Device) :
    (∃ ns f, d.settleFlusher = { d.say ns with flusher := f }) ∨
      ∃ ns f, d.settleFlusher = { d with panel := (d.panel.say ns).flushOnce.2, flusher := f } := by
  cases hf : d.flusher with
  | none =>
    have hsame : d.settleFlusher = d := by simp only [settleFlusher, hf]
    exact .inl ⟨[], d.flusher, by rw [say_nil, hsame]⟩
  | some f =>
    by_cases h : ∃ time, f.task.started f.period d.now = .due time ∧ time ≤ d.now
    · obtain ⟨time, ht, hle⟩ := h
      obtain ⟨ns, h⟩ := settleFlusher_of_due hf ht hle
      exact .inr ⟨ns, _, h⟩
    · obtain ⟨ns, h⟩ := settleFlusher_of_not_due hf fun time ht =>
        Nat.lt_of_not_le fun hle => h ⟨time, ht, hle⟩
      exact .inl ⟨ns, _, h⟩

/-! ### The line -/

theorem startLine_eq (d : Device) (l : LinePoller) :
    d.startLine l = (d.say l.opening, { l with task := l.task.started l.period d.now }) := by
  obtain ⟨path, period, task, sampler⟩ := l
  cases task with
  | unstarted => rfl
  | due | failed | ended =>
    rw [LinePoller.opening, say_nil]
    rfl

theorem sampleLine_eq (d : Device) (l : LinePoller) :
    d.sampleLine l =
      let x := Sample.take d.files l.path
      ({ d with
          panel := (d.panel.say (sampleNotices l.sampler x)).fireIf (l.sampler.firesOn x) },
        { l with sampler := l.sampler.step x }) := by
  simp only [sampleLine, Panel.fireIf]
  cases l.sampler.firesOn (Sample.take d.files l.path) <;> rfl

/-- **A poller that is due takes one sample**, and is due again one period later. -/
theorem settleLine_of_due {l : LinePoller} {time : Nat} (hl : d.line = some l)
    (ht : l.task.started l.period d.now = .due time) (hle : time ≤ d.now) :
    d.settleLine =
      let x := Sample.take d.files l.path
      { d with
        panel := (d.panel.say (l.opening ++ sampleNotices l.sampler x)).fireIf
          (l.sampler.firesOn x)
        line := some { l with task := .due (time + l.period), sampler := l.sampler.step x } } := by
  have hle' : time ≤ (d.say l.opening).now := hle
  simp only [settleLine, hl, startLine_eq, ht, if_pos hle', sampleLine_eq]
  rw [← Panel.say_say]
  rfl

theorem settleLine_of_not_due {l : LinePoller} (hl : d.line = some l)
    (ht : ∀ time, l.task.started l.period d.now = .due time → d.now < time) :
    d.settleLine =
      { d.say l.opening with line := some { l with task := l.task.started l.period d.now } } := by
  simp only [settleLine, hl, startLine_eq]
  split
  · next time hdue =>
    have hlt : ¬ time ≤ (d.say l.opening).now := Nat.not_le.2 (ht time hdue)
    rw [if_neg hlt, hdue]
  · rfl

theorem settleLine_cases (d : Device) :
    (∃ ns l, d.settleLine = { d.say ns with line := l }) ∨
      ∃ ns l, d.settleLine = { d with panel := (d.panel.say ns).fire.2, line := l } := by
  cases hl : d.line with
  | none =>
    have hsame : d.settleLine = d := by simp only [settleLine, hl]
    exact .inl ⟨[], d.line, by rw [say_nil, hsame]⟩
  | some l =>
    by_cases h : ∃ time, l.task.started l.period d.now = .due time ∧ time ≤ d.now
    · obtain ⟨time, ht, hle⟩ := h
      rw [settleLine_of_due hl ht hle]
      dsimp only
      cases l.sampler.firesOn (Sample.take d.files l.path) with
      | false => exact .inl ⟨_, _, rfl⟩
      | true => exact .inr ⟨_, _, rfl⟩
    · refine .inl ⟨_, _, settleLine_of_not_due hl fun time ht => ?_⟩
      exact Nat.lt_of_not_le fun hle => h ⟨time, ht, hle⟩

/-! ### The indicator -/

theorem showNews_rest (d : Device) :
    (∃ files, d.showNews.panel.latch = d.panel.latch.withFiles files) ∧
      d.showNews.flusher = d.flusher ∧ d.showNews.line = d.line := by
  unfold showNews
  cases hi : d.indicator with
  | none => exact ⟨⟨d.files, rfl⟩, rfl, rfl⟩
  | some i =>
    simp only
    split
    · exact ⟨⟨d.files, rfl⟩, rfl, rfl⟩
    · split
      · exact ⟨⟨d.files, rfl⟩, rfl, rfl⟩
      · exact ⟨⟨_, rfl⟩, rfl, rfl⟩
      · exact ⟨⟨d.files, rfl⟩, rfl, rfl⟩

theorem settleIndicator_rest (d : Device) :
    (∃ files, d.settleIndicator.panel.latch = d.panel.latch.withFiles files) ∧
      d.settleIndicator.flusher = d.flusher ∧ d.settleIndicator.line = d.line := by
  refine d.settleIndicator_induct
    (P := fun e => (∃ files, e.panel.latch = d.panel.latch.withFiles files) ∧
      e.flusher = d.flusher ∧ e.line = d.line) ⟨⟨d.files, rfl⟩, rfl, rfl⟩ ?_
  rintro e ⟨⟨files, hl⟩, hf, hline⟩
  obtain ⟨⟨files', hl'⟩, hf', hline'⟩ := e.showNews_rest
  refine ⟨⟨files', ?_⟩, hf'.trans hf, hline'.trans hline⟩
  rw [hl] at hl'
  exact hl'

/-! ### The stop -/

/-- The flusher is waiting for its next turn. -/
def FlusherRuns (d : Device) : Prop := ∃ f time, d.flusher = some f ∧ f.task = .due time

theorem stopFlusher_latch (hg : d.panel.latch.gate.held = false)
    (hf : d.panel.latch.cell.dirty = true → d.FlusherRuns) :
    d.stopFlusher.panel.latch = d.panel.latch.flush.2 := by
  cases hd : d.panel.latch.cell.dirty with
  | true =>
    obtain ⟨f, time, hf, ht⟩ := hf hd
    simp only [stopFlusher, Bool.false_eq_true, if_false, hf, ht, hd, if_true]
    exact d.panel.flushOnce_latch
  | false =>
    -- whether it is running or not, there is nothing to flush
    rw [Latch.flush_of_clean hg hd]
    simp only [stopFlusher, Bool.false_eq_true, if_false]
    split
    · split
      · simp only [hd, Bool.false_eq_true, if_false]
        rfl
      · rfl
    · rfl

/-- A tick that overtakes the stop is taken before it. -/
theorem stopFlusher_eq (d : Device) (overtakes : Bool) :
    d.stopFlusher overtakes = (if overtakes then d.settleFlusher else d).stopFlusher := by
  cases overtakes <;> rfl

theorem stopFlusher_line (d : Device) : d.stopFlusher.line = d.line := by
  simp only [stopFlusher, Bool.false_eq_true, if_false]
  split
  · split <;> rfl
  · rfl

theorem stopLine_of_no_line (h : d.line = none) (overtakes : Bool) : d.stopLine overtakes = d := by
  have hsettle : d.settleLine = d := by simp only [settleLine, h]
  simp only [stopLine, hsettle, ite_self, h]

theorem stopLine_latch (d : Device) : d.stopLine.panel.latch = d.panel.latch := by
  simp only [stopLine, Bool.false_eq_true, if_false]
  split
  · split <;> rfl
  · rfl

/-- **To stop a device is to flush its latch once more.** -/
theorem shutDown_latch (hg : d.panel.latch.gate.held = false)
    (hf : d.panel.latch.cell.dirty = true → d.FlusherRuns) :
    d.shutDown.panel.latch = d.panel.latch.flush.2 :=
  d.stopFlusher.stopLine_latch.trans (stopFlusher_latch hg hf)

end Device

end TriggerLatch
