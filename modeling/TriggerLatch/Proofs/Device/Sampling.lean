import TriggerLatch.Proofs.Device.Timetable
import TriggerLatch.Proofs.Line.Falls

/-!
# What a sampled line does to a device

A device is started with a line, whatever else runs beside it, and goes through an agenda, which may
change the value file at any time.  The line is sampled at the multiples of its period and at no
other time, so the files at these times give a row of samples (`Device.samples`).  **An edge is
fired exactly where the line falls, whatever fails in between** (`Device.fires_on_falls_only`), and
what is said about a sample follows from it and the one before.

`Device.Sampled` is the invariant that a tick keeps: the poller remembers what the samples so far
have left, and is due at the next multiple of its period.
-/

namespace TriggerLatch

namespace Device

variable {d e : Device} {path : Path} {p n k : Nat} {x : Samples} {a : Agenda}

/-! ### What leaves the poller alone -/

theorem settleFlusher_keeps (d : Device) :
    d.settleFlusher.now = d.now ∧ d.settleFlusher.line = d.line := by
  obtain ⟨q, f, h, hcalled⟩ := d.settleFlusher_spec
  obtain ⟨es, hes⟩ := hcalled.logs
  rw [h]
  exact ⟨congrArg Clock.millis hes.clock, rfl⟩

theorem settleIndicator_keeps (d : Device) :
    d.settleIndicator.now = d.now ∧ d.settleIndicator.line = d.line := by
  obtain ⟨⟨files, hlatch⟩, -, hline⟩ := d.settleIndicator_rest
  refine ⟨?_, hline⟩
  rw [now, hlatch]
  rfl

theorem performAll_keeps {cs : List Command} (hcs : ∀ c ∈ cs, c.isPrompt = true) :
    (d.performAll cs).now = d.now ∧ (d.performAll cs).line = d.line := by
  induction cs generalizing d with
  | nil => exact ⟨rfl, rfl⟩
  | cons c cs ih =>
    have hc := hcs c List.mem_cons_self
    obtain ⟨es, hes⟩ := d.logs_perform hc
    obtain ⟨hnow, hline⟩ := ih (d := (d.perform c).2) fun c' hc' =>
      hcs c' (List.mem_cons_of_mem _ hc')
    exact ⟨hnow.trans (congrArg Clock.millis hes.clock), hline.trans (d.tasks_perform hc).2⟩

/-! ### Keeping up with the samples -/

/-- At the time `n` the poller remembers what the samples before sample `k` have left, and is due at
the next multiple of `p`, where sample `k` is taken. -/
structure Sampled (path : Path) (p : Nat) (x : Samples) (n k : Nat) (d : Device) : Prop where
  now : d.now = n
  line : d.line =
    some ⟨path, p, if n = 0 then .unstarted else .due (k * p), x.samplerAt k⟩
  le : n ≤ k * p
  lt : k * p < n + p

theorem Sampled.of_keeps (h : d.Sampled path p x n k) (hnow : e.now = d.now)
    (hline : e.line = d.line) : e.Sampled path p x n k :=
  ⟨hnow.trans h.now, hline.trans h.line, h.le, h.lt⟩

theorem Sampled.period_pos (h : d.Sampled path p x n k) : 0 < p := by
  have hle := h.le
  have hlt := h.lt
  omega

/-- A poller that is not due has started. -/
theorem Sampled.ne_zero (h : d.Sampled path p x n k) (hn : n ≠ k * p) : n ≠ 0 := by
  rintro rfl
  have hlt : k * p < 1 * p := by
    rw [Nat.one_mul]
    simpa using h.lt
  obtain rfl := Nat.lt_one_iff.1 (Nat.lt_of_mul_lt_mul_right hlt)
  exact hn (Nat.zero_mul p).symm

theorem Sampled.started (h : d.Sampled path p x n k) :
    (if n = 0 then Task.unstarted else .due (k * p)).started p d.now = .due (k * p) := by
  rw [h.now]
  by_cases hn : n = 0
  · have hk : n = k * p := Decidable.byContradiction fun hne => h.ne_zero hne hn
    rw [if_pos hn, ← hk, hn]
    exact if_neg (Nat.ne_of_gt h.period_pos)
  · rw [if_neg hn]
    rfl

/-- What is said at a point in time before a sample is taken. -/
def opening (p n : Nat) : List Notice := if n = 0 then [.samplingStarted p] else []

theorem opening_eq (path : Path) (p n t : Nat) (s : Sampler) :
    LinePoller.opening ⟨path, p, if n = 0 then .unstarted else .due t, s⟩ = opening p n := by
  by_cases hn : n = 0 <;> simp [LinePoller.opening, opening, hn]

/-- **Sample `k` is taken at its time**, and the poller is due for the next one. -/
theorem Sampled.settleLine_of_due (h : d.Sampled path p x n k) (hn : n = k * p)
    (hx : x k = Sample.take d.files path) :
    d.settleLine =
      { d with
        panel := (d.panel.say (opening p n ++ sampleNotices (x.samplerAt k) (x k))).fireIf
          ((x.samplerAt k).firesOn (x k))
        line := some ⟨path, p, .due ((k + 1) * p), x.samplerAt (k + 1)⟩ } := by
  have hle : k * p ≤ d.now := Nat.le_of_eq (hn.symm.trans h.now.symm)
  rw [Device.settleLine_of_due h.line h.started hle, opening_eq, Nat.succ_mul, Samples.samplerAt,
    hx]

theorem Sampled.settleLine_of_not_due (h : d.Sampled path p x n k) (hn : n ≠ k * p) :
    d.settleLine = d := by
  have hlt : n < k * p := Nat.lt_of_le_of_ne h.le hn
  have hline := h.line
  rw [if_neg (h.ne_zero hn)] at hline
  rw [Device.settleLine_of_not_due hline fun time ht => ?_]
  · show { d.say [] with line := some ⟨path, p, .due (k * p), x.samplerAt k⟩ } = d
    rw [say_nil, ← hline]
  · cases ht
    exact h.now ▸ hlt

theorem Sampled.settleLine (h : d.Sampled path p x n k)
    (hx : n = k * p → x k = Sample.take d.files path) :
    ∃ k', d.settleLine.now = n ∧
      d.settleLine.line = some ⟨path, p, .due (k' * p), x.samplerAt k'⟩ ∧
      n < k' * p ∧ k' * p ≤ n + p := by
  by_cases hn : n = k * p
  · have hp : 0 < p := h.period_pos
    refine ⟨k + 1, ?_, ?_, ?_, ?_⟩
    · rw [h.settleLine_of_due hn (hx hn)]
      refine Eq.trans ?_ h.now
      exact congrArg Clock.millis (Panel.fireIf_clock _ _)
    · rw [h.settleLine_of_due hn (hx hn)]
    · rw [Nat.succ_mul]
      omega
    · rw [Nat.succ_mul]
      omega
  · have hline := h.line
    rw [if_neg (h.ne_zero hn)] at hline
    rw [h.settleLine_of_not_due hn]
    exact ⟨k, h.now, hline, Nat.lt_of_le_of_ne h.le hn, Nat.le_of_lt h.lt⟩

/-! ### The samples of a device -/

/-- The device at a point in time, when it is the turn of its line. -/
def polling (d : Device) (a : Agenda) (n : Nat) : Device := (d.acting a n).settleFlusher

/-- What the line with this value file and period is sampled as. -/
def samples (d : Device) (a : Agenda) (path : Path) (p : Nat) : Samples := fun k =>
  Sample.take (d.polling a (k * p)).files path

/-- The line fires at sample `k`. -/
def firesAt (d : Device) (a : Agenda) (p k : Nat) : Bool :=
  match (d.polling a (k * p)).line with
  | none => false
  | some l => l.sampler.firesOn (Sample.take (d.polling a (k * p)).files l.path)

/-- The device has just been started, and with a line. -/
structure Polls (path : Path) (p : Nat) (d : Device) : Prop where
  now : d.now = 0
  line : d.line = some ⟨path, p, .unstarted, .start⟩
  period_pos : 0 < p

theorem Polls.sampled (h : d.Polls path p) : d.Sampled path p x 0 0 where
  now := h.now
  line := h.line
  le := Nat.zero_le _
  lt := by
    have hp := h.period_pos
    omega

theorem Sampled.acting (ha : a.Prompt) (h : (d.arriving a n).Sampled path p x n k) :
    (d.acting a n).Sampled path p x n k := by
  obtain ⟨hnow, hline⟩ := performAll_keeps (d := d.arriving a n) (ha n)
  exact h.of_keeps hnow hline

theorem Sampled.polling (ha : a.Prompt) (h : (d.arriving a n).Sampled path p x n k) :
    (d.polling a n).Sampled path p x n k := by
  obtain ⟨hnow, hline⟩ := (d.acting a n).settleFlusher_keeps
  exact (h.acting ha).of_keeps hnow hline

/-- **A millisecond keeps the poller up with the samples.** -/
theorem Sampled.arriving_succ (ha : a.Prompt) (h : (d.arriving a n).Sampled path p x n k)
    (hx : n = k * p → x k = Sample.take (d.polling a n).files path) :
    ∃ k', (d.arriving a (n + 1)).Sampled path p x (n + 1) k' := by
  obtain ⟨k', hnow, hline, hlt, hle⟩ := (h.polling ha).settleLine hx
  obtain ⟨hnow', hline'⟩ := (d.polling a n).settleLine.settleIndicator_keeps
  rw [Device.arriving_succ (h.acting ha).now]
  refine ⟨k', ?_, ?_, hlt, by omega⟩
  · exact congrArg (· + 1) (hnow'.trans hnow)
  · rw [if_neg n.succ_ne_zero]
    exact hline'.trans hline

theorem sampled_arriving (hd : d.Polls path p) (ha : a.Prompt) (n : Nat) :
    ∃ k, (d.arriving a n).Sampled path p (d.samples a path p) n k := by
  induction n with
  | zero => exact ⟨0, hd.sampled⟩
  | succ n ih =>
    obtain ⟨k, hk⟩ := ih
    exact hk.arriving_succ ha fun hn => by rw [samples, hn]

theorem sampled_polling (hd : d.Polls path p) (ha : a.Prompt) (k : Nat) :
    (d.polling a (k * p)).Sampled path p (d.samples a path p) (k * p) k := by
  obtain ⟨k', hk'⟩ := sampled_arriving hd ha (k * p)
  -- the sample to come is less than a period away, so it is the one that is due
  have hle : k ≤ k' := Nat.le_of_mul_le_mul_right hk'.le hd.period_pos
  have hlt : k' < k + 1 := by
    refine Nat.lt_of_mul_lt_mul_right (a := p) ?_
    rw [Nat.succ_mul]
    exact hk'.lt
  obtain rfl : k = k' := by omega
  exact hk'.polling ha

theorem firesAt_eq (hd : d.Polls path p) (ha : a.Prompt) (k : Nat) :
    d.firesAt a p k =
      ((d.samples a path p).samplerAt k).firesOn (d.samples a path p k) := by
  unfold firesAt
  rw [(sampled_polling hd ha k).line]
  rfl

/-- **An edge is fired exactly where the line falls.** -/
theorem firesAt_iff (hd : d.Polls path p) (ha : a.Prompt) (k : Nat) :
    d.firesAt a p k = true ↔ (d.samples a path p).Falls k := by
  rw [firesAt_eq hd ha, Samples.firesOn_samplerAt]

/-- **The line fires on falling edges only, whatever fails in between.**  The value file and
everything else may change in any way while the device is watched:

* a sample is good if the file can be read and its trimmed text is the digit of a level;
* at every sample there is said what is to be said about it, and at the first that sampling has
  started; an edge is fired if the sample is low and the last good one before it is high, and
  nothing else is done;
* between two samples the line does nothing;
* a device that is given the good ones of the samples alone fires at the same ones. -/
theorem fires_on_falls_only (hd : d.Polls path p) (ha : a.Prompt) (hx : x = d.samples a path p) :
    (∀ k l, x k = .ok l ↔ ∃ text,
        Files.readText (d.polling a (k * p)).files path = .ok text ∧ text.trim = [l.digit]) ∧
      (∀ k, d.firesAt a p k = true ↔ x.Falls k) ∧
      (∀ k, ∃ ns, x.Told k ns ∧
        (d.polling a (k * p)).settleLine.panel =
          ((d.polling a (k * p)).panel.say (opening p (k * p) ++ ns)).fireIf (d.firesAt a p k)) ∧
      (∀ n, ¬ p ∣ n → (d.polling a n).settleLine = d.polling a n) ∧
      ∀ (d' : Device) (a' : Agenda) (path' : Path) (p' n : Nat), d'.Polls path' p' → a'.Prompt →
        (d'.samples a' path' p').GoodOf x n →
        ∀ k < n, (x k).isOk = true → d'.firesAt a' p' (x.goodBefore k) = d.firesAt a p k := by
  subst hx
  refine ⟨fun k l => Sample.take_eq_ok_iff, firesAt_iff hd ha, fun k => ?_, fun n hn => ?_,
    fun d' a' path' p' n hd' ha' hgood k hk hok => ?_⟩
  · have h := sampled_polling hd ha k
    refine ⟨_, Samples.told_sampleNotices (d.samples a path p) k, ?_⟩
    rw [h.settleLine_of_due rfl rfl, firesAt_eq hd ha]
  · obtain ⟨k, hk⟩ := sampled_arriving hd ha n
    refine (hk.polling ha).settleLine_of_not_due fun hnk => hn ?_
    exact ⟨k, hnk.trans (Nat.mul_comm k p)⟩
  · rw [Bool.eq_iff_iff, firesAt_iff hd' ha', firesAt_iff hd ha]
    exact hgood.falls_iff hk hok

/-- The line rests high, its file is away at one sample and holds something else at the next, and
then the line is low and stays so.  It falls at the fourth sample, as one without the failed samples
does at its second; of the failed ones the first is worth a warning, and the one after them a word.
-/
theorem fires_on_falls_only_failed_between :
    let line : Path := "line".toList
    let put (s : String) : Command := .place line (Utf8.encode s.toList)
    let d := seed (.inMemory none none []) none (some ⟨line, 10, .unstarted, .start⟩) none
    let a := Agenda.ofEntries [(0, put "1\n"), (7, .discard line), (15, put "high"),
      (30, put "\u2003 0\r\n")]
    let a' := Agenda.ofEntries [(0, put "1"), (2, put "0")]
    let x := d.samples a line 10
    d.Polls line 10 ∧ a.Prompt ∧ a'.Prompt ∧ (d.samples a' line 10).GoodOf x 5 ∧
      (List.range 5).map (fun k => (x k).isOk) = [true, false, false, true, true] ∧
      (List.range 5).map (d.firesAt a 10) = [false, false, false, true, false] ∧
      (List.range 3).map (d.firesAt a' 10) = [false, true, false] ∧
      (x.Falls 3 ∧ ¬ x.Falls 4) ∧
      d.firesAt a' 10 (x.goodBefore 3) = d.firesAt a 10 3 ∧
      (d.polling a 14).settleLine = d.polling a 14 ∧
      (d.polling a 30).settleLine.panel =
        ((d.polling a 30).panel.say [.lineReadable]).fireIf true := by
  intro line put d a a' x
  have ha : a.Prompt := Agenda.prompt_ofEntries (by decide)
  have ha' : a'.Prompt := Agenda.prompt_ofEntries (by decide)
  have hd : d.Polls line 10 := ⟨rfl, rfl, by decide⟩
  have hgood : (d.samples a' line 10).GoodOf x 5 := by decide +kernel
  have hfires : (List.range 5).map (d.firesAt a 10) = [false, false, false, true, false] := by
    decide +kernel
  obtain ⟨-, hfalls, hpanel, hbetween, hdelete⟩ := fires_on_falls_only hd ha (rfl : x = _)
  refine ⟨hd, ha, ha', hgood, by decide +kernel, hfires, by decide +kernel, ⟨?_, ?_⟩,
    hdelete d a' line 10 5 hd ha' hgood 3 (by decide) (by decide +kernel),
    hbetween 14 (by decide), ?_⟩
  · exact (hfalls 3).1 (by decide +kernel)
  · exact fun hfalls4 => absurd ((hfalls 4).2 hfalls4) (by decide +kernel)
  · obtain ⟨ns, htold, hpanel⟩ := hpanel 3
    have hrecovers : x.Recovers 3 := ⟨by decide +kernel, 2, rfl, by decide +kernel⟩
    have hfires3 : d.firesAt a 10 3 = true := by decide +kernel
    rw [htold.unique (.readable hrecovers), hfires3] at hpanel
    exact hpanel

end Device

end TriggerLatch
