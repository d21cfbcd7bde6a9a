import TriggerLatch.Proofs.Surface.Agreement

/-!
# The indicator follows the latch

`Device.Operates` lets a device run as it is meant to: every edge comes from a source, which is the
sampled line or another, every reset comes over the network, and flushes are not disturbed; beside
that there may be any requests, restarts, and changes to the files that the indicator does not
drive.  Saves end in any way, and while a reset is written, any edges and resets may reach the
latch.

**After every step the feed agrees with the latch, and an indicator that waits for news has shown
what the latch reads** (`Device.shown_of_operates`).  The tasks take their steps one at a time;
`Device.Operates.wait` puts them together to what they do while a device waits, and finds the
indicator waiting at the end of it.
-/

namespace TriggerLatch

open Files

/-- A value that was shown. -/
structure Show where
  value : Bool
  /-- The file that the indicator drives, if it drives one, has taken it. -/
  taken : Bool

/-- Whether a value that is shown in this way reaches what shows it. -/
def Output.takes (o : Output) (files : Files.Tree) (value : Bool) : Bool :=
  match o with
  | .file path => (Files.write files path (Indicator.fileContent value)).isOk
  | .log | .record => true

theorem Indicator.nextShowing_publishes {i : Indicator} (h : ∀ x ∈ i.plan, x.publishes = []) :
    i.nextShowing.publishes = [] := by
  unfold nextShowing
  cases hp : i.plan with
  | nil => rfl
  | cons x xs => exact h x (hp ▸ List.mem_cons_self)

theorem Output.read_of_takes (files : Files.Tree) (path : Path) (value : Bool)
    (h : (Output.file path).takes files value = true) :
    Files.read (Indicator.drive files path value).1 path = .ok (Indicator.fileContent value) := by
  unfold takes at h
  unfold Indicator.drive
  simp only at h
  cases hw : Files.write files path (Indicator.fileContent value) with
  | error e =>
    rw [hw] at h
    cases h
  | ok files' => exact read_of_write hw

namespace Device

/-- What the indicator shows next, if there is news for it. -/
def nextShow? (d : Device) : Option Show :=
  match d.indicator with
  | none => none
  | some i =>
    if i.seen = some d.panel.feed.version then none
    else some ⟨d.panel.feed.value, i.output.takes d.files d.panel.feed.value⟩

/-- The file that the indicator drives, if it drives one, reads the same. -/
def SparesIndicator (d e : Device) : Prop :=
  ∀ i path, d.indicator = some i → i.output = .file path →
    Files.read e.files path = Files.read d.files path

/-- The device gets from `d` to another state, and this was shown last on the way. -/
inductive Operates (d : Device) : Device → Option Show → Prop
  | start : Operates d d none
  | fire {e : Device} {last : Option Show} (h : Operates d e last) :
      Operates d (e.perform .fire).2 last
  | request {e : Device} {last : Option Show} (h : Operates d e last) (r : Surface.Request) :
      Operates d (e.perform (.request r)).2 last
  /-- Nothing reaches the latch during the save. -/
  | flush {e : Device} {last : Option Show} (h : Operates d e last)
      (hq : (e.perform .flush).2.panel.latch.newsSince e.panel.latch = []) :
      Operates d (e.perform .flush).2 last
  | flushOnce {e : Device} {last : Option Show} (h : Operates d e last)
      (hq : (e.perform .flushOnce).2.panel.latch.newsSince e.panel.latch = []) :
      Operates d (e.perform .flushOnce).2 last
  /-- Something that leaves the latch and the feed alone, such as a change of the line. -/
  | aside {e : Device} {last : Option Show} (h : Operates d e last) {c : Command}
      (hc : c.isAside = true) (hp : ∀ value, c ≠ .publish value)
      (hi : e.SparesIndicator (e.perform c).2) : Operates d (e.perform c).2 last
  | reboot {e : Device} {last : Option Show} (h : Operates d e last) :
      Operates d (e.perform .reboot).2 last
  /-- Nothing reaches the latch during the save, if the flusher makes one. -/
  | flusher {e : Device} {last : Option Show} (h : Operates d e last)
      (hq : e.settleFlusher.panel.latch.newsSince e.panel.latch = []) :
      Operates d e.settleFlusher last
  | line {e : Device} {last : Option Show} (h : Operates d e last) : Operates d e.settleLine last
  | indicator {e : Device} {last : Option Show} (h : Operates d e last) :
      Operates d e.showNews (e.nextShow?.or last)
  | clock {e : Device} {last : Option Show} (h : Operates d e last) : Operates d e.advance last

/-! ### What every step keeps -/

/-- Nothing is published while the indicator shows a value. -/
def Unplanned (d : Device) : Prop :=
  ∀ i, d.indicator = some i → ∀ x ∈ i.plan, x.publishes = []

/-- The indicator waits for news. -/
def Waits (d : Device) : Prop := ∀ i, d.indicator = some i → i.seen = some d.panel.feed.version

/-- The indicator has shown the value of the feed: it was shown last, and it is what a recording
indicator has recorded last, and what the file is driven with that has taken it. -/
structure HasShown (d : Device) (s : Store) (i : Indicator) (x : Show) : Prop where
  value : x.value = d.panel.feed.value
  record : i.output = .record → i.shows.getLast?.map (·.2) = some d.panel.feed.value
  file : ∀ path, i.output = .file path → s.Spares path → x.taken = true →
    Files.read d.files path = .ok (Indicator.fileContent d.panel.feed.value)

/-- The feed agrees with the latch, and an indicator that has seen the state of the feed has shown
its value. -/
structure Mirrored (s : Store) (d : Device) (last : Option Show) : Prop where
  store : d.panel.latch.backing.store = s
  agrees : d.panel.feed.value = d.panel.latch.read
  unplanned : d.Unplanned
  behind : ∀ i seen, d.indicator = some i → i.seen = some seen → seen ≤ d.panel.feed.version
  shown : ∀ i, d.indicator = some i → i.seen = some d.panel.feed.version →
    ∃ x, last = some x ∧ d.HasShown s i x

variable {s : Store} {d e : Device} {last : Option Show}

/-- **What happens to the panel is news for the indicator if it changes the feed.** -/
theorem Mirrored.of_step (h : d.Mirrored s last) (hs : e.panel.latch.backing.store = s)
    (ha : e.panel.feed.value = e.panel.latch.read)
    (hc : e.panel.feed = d.panel.feed ∨ d.panel.feed.version < e.panel.feed.version)
    (hi : e.indicator = d.indicator)
    (hfile : ∀ i path content, d.indicator = some i → i.output = .file path → s.Spares path →
      Files.read d.files path = .ok content → Files.read e.files path = .ok content) :
    e.Mirrored s last where
  store := hs
  agrees := ha
  unplanned i hi' := h.unplanned i (hi ▸ hi')
  behind i seen hi' hseen := by
    have hle := h.behind i seen (hi ▸ hi') hseen
    rcases hc with hf | hf
    · rwa [hf]
    · exact Nat.le_trans hle (Nat.le_of_lt hf)
  shown i hi' hseen := by
    rw [hi] at hi'
    rcases hc with hf | hf
    · rw [hf] at hseen
      obtain ⟨x, hx, hshown⟩ := h.shown i hi' hseen
      refine ⟨x, hx, ?_, ?_, fun path ho hspares ht => ?_⟩ <;> rw [hf]
      · exact hshown.value
      · exact hshown.record
      · exact hfile i path _ hi' ho hspares (hshown.file path ho hspares ht)
    · -- the indicator cannot have seen a state that is new
      exact absurd (h.behind i _ hi' hseen) (Nat.not_le.2 hf)

theorem Mirrored.of_advances (h : d.Mirrored s last) (hp : d.panel.Advances e.panel)
    (hi : e.indicator = d.indicator) : e.Mirrored s last :=
  h.of_step (hp.store.trans h.store) (hp.agrees h.agrees) hp.counts hi
    fun _ path _ _ _ hspares hr => (hp.files path (h.store ▸ hspares)).read hr

theorem Mirrored.aside (h : d.Mirrored s last) {c : Command} (hc : c.isAside = true)
    (hp : ∀ value, c ≠ .publish value) (hi : d.SparesIndicator (d.perform c).2) :
    (d.perform c).2.Mirrored s last := by
  obtain ⟨hcell, hstore, -⟩ := d.leftAlone_perform hc
  have hfeed : (d.perform c).2.panel.feed = d.panel.feed ∧
      (d.perform c).2.indicator = d.indicator := by
    cases c with
    | edge | fire | reset | flush | flushOnce | request | save | waitUntil | reboot => cases hc
    | publish value => exact absurd rfl (hp value)
    | _ => exact ⟨rfl, rfl⟩
  refine h.of_step (hstore.trans h.store) ?_ (.inl hfeed.1) hfeed.2
    fun i path _ hi' ho _ hr => (hi i path hi' ho).trans hr
  rw [hfeed.1, Latch.read, hcell]
  exact h.agrees

theorem Mirrored.reboot (h : d.Mirrored s last) : d.reboot.Mirrored s last where
  store := h.store
  agrees := rfl
  unplanned i hi := by
    obtain ⟨i', hi', rfl⟩ := Option.map_eq_some_iff.1 hi
    exact h.unplanned i' hi'
  behind i seen hi hseen := by
    obtain ⟨i', hi', rfl⟩ := Option.map_eq_some_iff.1 hi
    cases hseen
  shown i hi hseen := by
    obtain ⟨i', hi', rfl⟩ := Option.map_eq_some_iff.1 hi
    cases hseen

/-! ### The indicator -/

/-- What is left by the indicator showing `x`, which makes it `i`. -/
structure ShowsNews (d : Device) (x : Show) (i : Indicator) (e : Device) : Prop where
  store : e.panel.latch.backing.store = d.panel.latch.backing.store
  read : e.panel.latch.read = d.panel.latch.read
  feed : e.panel.feed = d.panel.feed
  indicator : e.indicator = some i
  unplanned : ∀ y ∈ i.plan, y.publishes = []
  seen : i.seen = some d.panel.feed.version
  shown : ∀ s, e.HasShown s i x

/-- **The indicator waits for news, or shows the value of the feed** and then has seen its state. -/
theorem showNews_cases (h : d.Unplanned) :
    (d.nextShow? = none ∧ d.showNews = d ∧ d.Waits) ∨
      ∃ x i, d.nextShow? = some x ∧ d.ShowsNews x i d.showNews := by
  unfold Device.showNews nextShow?
  cases hi : d.indicator with
  | none => exact .inl ⟨rfl, rfl, fun i hi' => by cases hi.symm.trans hi'⟩
  | some i =>
    by_cases hseen : i.seen = some d.panel.feed.version
    · dsimp only
      rw [if_pos hseen, if_pos hseen]
      refine .inl ⟨rfl, rfl, fun i' hi' => ?_⟩
      cases hi.symm.trans hi'
      exact hseen
    · simp only [if_neg hseen]
      refine .inr ⟨⟨d.panel.feed.value, i.output.takes d.files d.panel.feed.value⟩, ?_⟩
      obtain ⟨output, plan, shows, seen⟩ := i
      have hplan : ∀ x ∈ plan, x.publishes = [] := h _ hi
      cases output with
      | log => exact ⟨_, rfl, rfl, rfl, rfl, rfl, hplan, rfl, fun _ => ⟨rfl, nofun, nofun⟩⟩
      | file path =>
        have hdrive := Output.read_of_takes d.files path d.panel.feed.value
        dsimp only
        generalize Indicator.drive d.files path d.panel.feed.value = r at hdrive ⊢
        obtain ⟨files, ns⟩ := r
        refine ⟨_, rfl, rfl, rfl, rfl, rfl, hplan, rfl,
          fun _ => ⟨rfl, nofun, fun path' hr _ ht => ?_⟩⟩
        cases hr
        exact hdrive ht
      | record =>
        dsimp only
        have hnone := Indicator.nextShowing_publishes
          (i := ⟨.record, plan, shows, some d.panel.feed.version⟩) hplan
        rw [hnone]
        exact ⟨_, rfl, rfl, rfl, rfl, rfl, fun x hx => hplan x (List.mem_of_mem_tail hx), rfl,
          fun _ => ⟨rfl, fun _ => congrArg (Option.map Prod.snd) List.getLast?_concat, nofun⟩⟩

theorem Mirrored.showNews (h : d.Mirrored s last) :
    d.showNews.Mirrored s (d.nextShow?.or last) := by
  rcases showNews_cases h.unplanned with ⟨hnone, hsame, -⟩ | ⟨x, i, hx, hshows⟩
  · rw [hnone, hsame]
    exact h
  · have heq {i'} (hi' : d.showNews.indicator = some i') : i = i' :=
      Option.some.inj (hshows.indicator.symm.trans hi')
    rw [hx]
    refine ⟨hshows.store.trans h.store, ?_, fun i' hi' => ?_, fun i' seen hi' hseen => ?_,
      fun i' hi' _ => ?_⟩
    · rw [hshows.feed, hshows.read]
      exact h.agrees
    · exact heq hi' ▸ hshows.unplanned
    · obtain rfl := heq hi'
      rw [hshows.feed]
      exact Nat.le_of_eq (Option.some.inj (hseen.symm.trans hshows.seen))
    · exact ⟨x, rfl, heq hi' ▸ hshows.shown s⟩

theorem Unplanned.waits_showNews (h : d.Unplanned) : d.showNews.Waits := by
  rcases showNews_cases h with ⟨-, hsame, hwaits⟩ | ⟨x, i, -, hshows⟩
  · rwa [hsame]
  · intro i' hi'
    rw [hshows.feed, ← Option.some.inj (hshows.indicator.symm.trans hi')]
    exact hshows.seen

/-- **No step takes the feed or a waiting indicator out of agreement with the latch.** -/
theorem Operates.mirrored (h : d.Operates e last) (hd : d.Mirrored s none) : e.Mirrored s last := by
  induction h with
  | start => exact hd
  | fire _ ih => exact ih.of_advances (Panel.advances_fire _) rfl
  | request _ r ih => exact ih.of_advances (Panel.advances_handle r _) rfl
  | flush _ hq ih => exact ih.of_advances (Panel.advances_of_flush rfl rfl hq) rfl
  | flushOnce _ hq ih => exact ih.of_advances (Panel.advances_flushOnce hq) rfl
  | aside _ hc hp hi ih => exact ih.aside hc hp hi
  | reboot _ ih => exact ih.reboot
  | @flusher e _ _ hq ih =>
    rcases e.settleFlusher_cases with ⟨ns, f, he⟩ | ⟨ns, f, he⟩ <;> rw [he] at hq ⊢
    · exact ih.of_advances (e.panel.advances_say ns) rfl
    · exact ih.of_advances
        ((e.panel.advances_say ns).trans (Panel.advances_flushOnce (p := e.panel.say ns) hq)) rfl
  | @line e _ _ ih =>
    rcases e.settleLine_cases with ⟨ns, l, he⟩ | ⟨ns, l, he⟩ <;> rw [he]
    · exact ih.of_advances (e.panel.advances_say ns) rfl
    · exact ih.of_advances ((e.panel.advances_say ns).trans (e.panel.say ns).advances_fire) rfl
  | indicator _ ih => exact ih.showNews
  | clock _ ih => exact ih.of_advances ⟨id, .inl rfl, rfl, fun _ _ => .refl _ _⟩ rfl

/-! ### Waiting -/

theorem Operates.settleIndicator (h : d.Operates e last) (hd : d.Mirrored s none) :
    ∃ last', d.Operates e.settleIndicator last' ∧ e.settleIndicator.Waits := by
  have hshow : ∀ n, ∃ last', d.Operates (Nat.repeat Device.showNews n e) last' := by
    intro n
    induction n with
    | zero => exact ⟨last, h⟩
    | succ n ih =>
      obtain ⟨last', h'⟩ := ih
      exact ⟨_, h'.indicator⟩
  -- one look settles it, and the indicator looks at least once
  obtain ⟨last', h'⟩ := hshow ((e.indicator.map (·.plan.length)).getD 0 + 1)
  exact ⟨_, h'.indicator, (h'.mirrored hd).unplanned.waits_showNews⟩

theorem Operates.tick (h : d.Operates e last) (hd : d.Mirrored s none)
    (hq : e.settleFlusher.panel.latch.newsSince e.panel.latch = []) :
    ∃ last', d.Operates e.tick last' ∧ e.tick.Waits := by
  obtain ⟨last', h', hwaits⟩ := (h.flusher hq).line.settleIndicator hd
  exact ⟨last', h'.clock, hwaits⟩

/-- **What a device does while it waits are steps of it**, and they leave its indicator waiting. -/
theorem Operates.wait (h : d.Operates e last) (hd : d.Mirrored s none) {n : Nat}
    (hq : ∀ m < n, (e.wait m).settleFlusher.panel.latch.newsSince (e.wait m).panel.latch = []) :
    ∃ last', d.Operates (e.wait n) last' ∧ (0 < n → (e.wait n).Waits) := by
  induction n with
  | zero => exact ⟨last, h, nofun⟩
  | succ n ih =>
    obtain ⟨last', h', -⟩ := ih fun m hm => hq m (Nat.lt_succ_of_lt hm)
    obtain ⟨last'', h'', hwaits⟩ := h'.tick hd (hq n (Nat.lt_succ_self n))
    exact ⟨last'', h'', fun _ => hwaits⟩

/-! ### Devices that have just started -/

theorem mirrored_seed (b : Backing) (flusher : Option Flusher) (line : Option LinePoller)
    {indicator : Option Indicator}
    (hi : ∀ i, indicator = some i → i.seen = none ∧ ∀ x ∈ i.plan, x.publishes = []) :
    (seed b flusher line indicator).Mirrored b.store none where
  store := rfl
  agrees := rfl
  unplanned i h := (hi i h).2
  behind i seen h hseen := by cases (hi i h).1.symm.trans hseen
  shown i h hseen := by cases (hi i h).1.symm.trans hseen

/-- **The indicator follows the latch.**  Whatever a device has done since it was started: its feed
agrees with its latch, and an indicator that waits for news has shown last what the latch reads.  If
it keeps a record, that is in the record, and if it drives a file that the store does not use, and
the file has taken the value, the file reads `1` or `0` accordingly, and a line end. -/
theorem shown_of_operates {b : Backing} {flusher : Option Flusher} {line : Option LinePoller}
    {indicator : Option Indicator}
    (hi : ∀ i, indicator = some i → i.seen = none ∧ ∀ x ∈ i.plan, x.publishes = [])
    (h : (seed b flusher line indicator).Operates e last) :
    e.panel.feed.value = e.panel.latch.read ∧
      ∀ i, e.indicator = some i → i.seen = some e.panel.feed.version →
        ∃ x, last = some x ∧ x.value = e.panel.latch.read ∧
          (i.output = .record → i.shows.getLast?.map (·.2) = some e.panel.latch.read) ∧
          ∀ path, i.output = .file path → b.store.Spares path → x.taken = true →
            Files.read e.files path =
              .ok (if e.panel.latch.read = true then [49, 10] else [48, 10]) := by
  have hm := h.mirrored (mirrored_seed b flusher line hi)
  refine ⟨hm.agrees, fun i hi' hseen => ?_⟩
  obtain ⟨x, hx, hshown⟩ := hm.shown i hi' hseen
  rw [← hm.agrees]
  exact ⟨x, hx, hshown.value, hshown.record, hshown.file⟩

/-- A reset request is overtaken by an edge while it saves, and the save panics; the trigger is
still shown.  A second request resets the latch, and that is shown. -/
theorem shown_of_operates_panicking_reset :
    let r : Surface.Request := ⟨"GET".toList, "/reset".toList, []⟩
    let d := seed (.inMemory (some true) none [⟨[.edge], .panic⟩]) none none
      (some ⟨.file "led".toList, [], [], none⟩)
    let e := (d.showNews.perform (.request r)).2
    let e' := (e.showNews.perform (.request r)).2.showNews
    (e.panel.feed.value = e.panel.latch.read ∧ e.panel.latch.read = true) ∧
      Files.read e.showNews.files "led".toList = .ok [49, 10] ∧
      (e'.panel.feed.value = e'.panel.latch.read ∧ e'.panel.latch.read = false) ∧
      Files.read e'.files "led".toList = .ok [48, 10] := by
  intro r d e e'
  have hi : ∀ i, d.indicator = some i → i.seen = none ∧ ∀ x ∈ i.plan, x.publishes = [] := by
    intro i hi
    cases hi
    exact ⟨rfl, nofun⟩
  have h : d.Operates e (d.nextShow?.or none) := Operates.start.indicator.request r
  have h' : d.Operates e' _ := (h.indicator.request r).indicator
  refine ⟨⟨(shown_of_operates hi h).1, rfl⟩, ?_, ?_⟩
  · obtain ⟨-, hshown⟩ := shown_of_operates hi h.indicator
    obtain ⟨x, hx, -, -, hfile⟩ := hshown ⟨.file "led".toList, [], [], some 0⟩ rfl rfl
    cases hx
    exact hfile _ rfl trivial rfl
  · obtain ⟨hfeed, hshown⟩ := shown_of_operates hi h'
    obtain ⟨x, hx, -, -, hfile⟩ := hshown ⟨.file "led".toList, [], [], some 1⟩ rfl rfl
    cases hx
    exact ⟨⟨hfeed, rfl⟩, hfile _ rfl trivial rfl⟩

end Device

end TriggerLatch
