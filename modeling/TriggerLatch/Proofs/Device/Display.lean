import TriggerLatch.Proofs.Device.Shown
import TriggerLatch.Proofs.Device.Timetable
import TriggerLatch.Proofs.Feed.Watched

/-!
# The indicator never misses the latest value

An indicator shows the value of the feed, and shows it again whenever the feed has changed since it
last looked.  Anything may be published before, between and during its shows, and its shows may
panic.  `Device.Runs` takes down what happens, one step at a time; commands and the passing of
time are such steps (`Device.runs_performAll`).  **The latest value is never missed**
(`Device.shows_latest_value`): the indicator is a watcher of the feed (`Feed.Watched`), whatever
else the device does, and after any wait it has nothing left to show.
-/

namespace TriggerLatch

namespace Indicator

/-- What is published during the next show. -/
def meanwhile (i : Indicator) : List Bool :=
  match i.output with
  | .record => i.nextShowing.publishes
  | .log | .file _ => []

/-- The indicator once it has shown the value of this feed. -/
def shown (i : Indicator) (now : Nat) (f : Feed) : Indicator :=
  match i.output with
  | .record =>
    { i with
      plan := i.plan.tail
      shows := i.shows ++ [(now, f.value)]
      seen := some f.version }
  | .log | .file _ => { i with seen := some f.version }

/-- The same indicator, but none of the shows to come panics. -/
def calm (i : Indicator) : Indicator :=
  { i with plan := i.plan.map fun x => { x with panics := false } }

variable (i : Indicator) (now : Nat) (f : Feed)

theorem shown_output : (i.shown now f).output = i.output := by
  unfold shown
  split <;> rfl

theorem shown_seen : (i.shown now f).seen = some f.version := by
  unfold shown
  split <;> rfl

theorem calm_seen : i.calm.seen = i.seen := rfl

theorem calm_meanwhile : i.calm.meanwhile = i.meanwhile := by
  obtain ⟨output, plan, shows, seen⟩ := i
  cases plan <;> rfl

theorem calm_shown : (i.shown now f).calm = i.calm.shown now f := by
  obtain ⟨output, plan, shows, seen⟩ := i
  cases output with
  | record => cases plan <;> rfl
  | log | file => rfl

end Indicator

theorem Panel.feed_fire (p : Panel) : ∃ bs, p.fire.2.feed = p.feed.publishAll bs := by
  unfold fire
  cases p.latch.recordEdge with
  | mk latched latch =>
    cases latched with
    | true => exact ⟨[true], rfl⟩
    | false => exact ⟨[], rfl⟩

theorem Panel.feed_flushOnce (p : Panel) : p.flushOnce.2.feed = p.feed := by
  unfold flushOnce
  split <;> rfl

theorem Surface.feed_handle (r : Request) (p : Panel) :
    ∃ bs, (handle r p).2.feed = p.feed.publishAll bs := by
  rw [handle_panel]
  split
  · exact ⟨[_], rfl⟩
  · exact ⟨[], rfl⟩

namespace Device

open FeedEvent

variable {d d' e e' : Device} {i : Indicator} {es es' : List FeedEvent}

/-! ### Looking at the feed -/

/-- What happens when the indicator looks at the feed. -/
def lookEvents (d : Device) : List FeedEvent :=
  match d.indicator with
  | none => []
  | some i =>
    if i.seen = some d.panel.feed.version then []
    else .shown d.panel.feed.value :: i.meanwhile.map .published

/-- How many shows to come are planned. -/
def planned (d : Device) : Nat := (d.indicator.map (·.plan.length)).getD 0

theorem waits_of_none (hi : d.indicator = none) : d.Waits := by
  intro i hi'
  cases hi.symm.trans hi'

theorem waits_iff (hi : d.indicator = some i) :
    d.Waits ↔ i.seen = some d.panel.feed.version := by
  refine ⟨fun h => h i hi, fun h i' hi' => ?_⟩
  cases hi.symm.trans hi'
  exact h

theorem Waits.look (h : d.Waits) : d.lookEvents = [] ∧ d.showNews = d := by
  unfold lookEvents showNews
  cases hi : d.indicator with
  | none => exact ⟨rfl, rfl⟩
  | some i => exact ⟨if_pos (h i hi), if_pos (h i hi)⟩

/-- **If there is news, the value of the feed is shown**, and its state is remembered, which it has
before anything is published during the show. -/
theorem look_of_news (hi : d.indicator = some i) (hnews : i.seen ≠ some d.panel.feed.version) :
    d.lookEvents = [.shown d.panel.feed.value] ++ i.meanwhile.map .published ∧
      d.showNews.panel.feed = d.panel.feed.publishAll i.meanwhile ∧
      d.showNews.indicator = some (i.shown d.now d.panel.feed) ∧ d.showNews.now = d.now := by
  obtain ⟨output, plan, shows, seen⟩ := i
  simp only [lookEvents, showNews, hi, if_neg hnews]
  cases output <;> exact ⟨rfl, rfl, rfl, rfl⟩

theorem waits_showNews_or (d : Device) : d.showNews.Waits ∨ d.showNews.planned + 1 ≤ d.planned := by
  by_cases hw : d.Waits
  · rw [hw.look.2]
    exact .inl hw
  · obtain ⟨i, hi, hnews⟩ : ∃ i, d.indicator = some i ∧ i.seen ≠ some d.panel.feed.version := by
      simpa [Waits] using hw
    obtain ⟨-, hfeed, hindicator, -⟩ := look_of_news hi hnews
    cases hm : i.meanwhile with
    | nil =>
      refine .inl fun i' hi' => ?_
      obtain rfl := Option.some.inj (hindicator.symm.trans hi')
      rw [hfeed, hm, i.shown_seen]
      rfl
    | cons b bs =>
      -- only during a planned show something is published
      obtain ⟨output, plan, shows, seen⟩ := i
      cases output with
      | log | file => cases hm
      | record =>
        cases plan with
        | nil => cases hm
        | cons x plan =>
          refine .inr ?_
          rw [planned, planned, hindicator, hi]
          exact Nat.le_refl _

/-- **However many values are published during the shows, the indicator ends up waiting.** -/
theorem waits_settleIndicator (d : Device) : d.settleIndicator.Waits := by
  have hlooks : ∀ n, (Nat.repeat showNews n d).Waits ∨
      (Nat.repeat showNews n d).planned + n ≤ d.planned := by
    intro n
    induction n with
    | zero => exact .inr (Nat.le_refl _)
    | succ n ih =>
      rw [Nat.repeat]
      rcases ih with hw | hle
      · rw [hw.look.2]
        exact .inl hw
      · rcases (Nat.repeat showNews n d).waits_showNews_or with hw | hlt
        · exact .inl hw
        · exact .inr (by omega)
  refine (hlooks (d.planned + 2)).resolve_right fun hle => ?_
  omega

/-! ### What happens to the feed -/

/-- These values are published, and the indicator is left alone. -/
structure Publishes (d : Device) (bs : List Bool) (e : Device) : Prop where
  feed : e.panel.feed = d.panel.feed.publishAll bs
  indicator : e.indicator = d.indicator

/-- The device gets from `d` to another state, and this happens to its feed on the way. -/
inductive Runs (d : Device) : Device → List FeedEvent → Prop
  | start : Runs d d []
  /-- Something other than the indicator does something, and may publish. -/
  | publish {e e' : Device} {es : List FeedEvent} (h : Runs d e es) {bs : List Bool}
      (hp : e.Publishes bs e') : Runs d e' (es ++ bs.map .published)
  /-- The indicator looks at the feed. -/
  | look {e : Device} {es : List FeedEvent} (h : Runs d e es) :
      Runs d e.showNews (es ++ e.lookEvents)

theorem Runs.trans (h : d.Runs e es) (h' : e.Runs e' es') :
    d.Runs e' (es ++ es') := by
  induction h' with
  | start =>
    rw [List.append_nil]
    exact h
  | publish _ hp ih =>
    rw [← List.append_assoc]
    exact ih.publish hp
  | look _ ih =>
    rw [← List.append_assoc]
    exact ih.look

theorem Publishes.waits {bs : List Bool} (h : d.Publishes bs e) (hw : d.Waits)
    (hbs : ∀ b ∈ bs, b = d.panel.feed.value) : e.Waits := by
  intro i hi
  rw [h.feed, Feed.publishAll_same hbs]
  exact hw i (h.indicator ▸ hi)

theorem Publishes.runs {bs : List Bool} (h : d.Publishes bs e) :
    d.Runs e (bs.map .published) := .publish .start h

/-- **The indicator watches the feed**, and if it keeps a record, that is what was shown. -/
theorem Runs.watched (h : d.Runs e es) (hi : d.indicator = some i) (hseen : i.seen = none) :
    ∃ i', e.indicator = some i' ∧ d.panel.feed.Watched es e.panel.feed i'.seen ∧
      i'.output = i.output ∧
      (i.output = .record → i'.shows.map (·.2) = i.shows.map (·.2) ++ shows es) := by
  induction h with
  | start => exact ⟨i, hi, hseen ▸ .start, rfl, fun _ => (List.append_nil _).symm⟩
  | @publish e e' es _ bs hp ih =>
    obtain ⟨i', hi', hwatched, houtput, hrecord⟩ := ih
    refine ⟨i', hp.indicator.trans hi', ?_, houtput, ?_⟩
    · rw [hp.feed]
      exact hwatched.publishAll bs
    · rw [shows_append, shows_published, List.append_nil]
      exact hrecord
  | @look e es _ ih =>
    obtain ⟨i', hi', hwatched, houtput, hrecord⟩ := ih
    by_cases hnews : i'.seen = some e.panel.feed.version
    · obtain ⟨hnone, hsame⟩ := ((waits_iff hi').2 hnews).look
      rw [hnone, hsame, List.append_nil]
      exact ⟨i', hi', hwatched, houtput, hrecord⟩
    · obtain ⟨hlook, hfeed, hindicator, -⟩ := look_of_news hi' hnews
      rw [hlook, ← List.append_assoc]
      refine ⟨_, hindicator, ?_, (i'.shown_output _ _).trans houtput, fun ho => ?_⟩
      · rw [hfeed, i'.shown_seen]
        exact (hwatched.look hnews).publishAll _
      · rw [shows_append, shows_append, shows_published, List.append_nil, ← List.append_assoc,
          ← hrecord ho, Indicator.shown, houtput, ho]
        exact List.map_append

/-! ### Panics -/

/-- The devices differ in nothing that matters to their feeds and indicators, except for the shows
to come that panic. -/
structure SameButPanics (d d' : Device) : Prop where
  feed : d'.panel.feed = d.panel.feed
  now : d'.now = d.now
  indicator : d'.indicator.map (·.calm) = d.indicator.map (·.calm)

theorem SameButPanics.look (h : d.SameButPanics d') :
    d'.lookEvents = d.lookEvents ∧ d.showNews.SameButPanics d'.showNews := by
  have hindicator := h.indicator
  cases hi : d.indicator with
  | none =>
    have hi' : d'.indicator = none := by simpa [hi] using hindicator
    obtain ⟨hlook, hsame⟩ := (waits_of_none hi).look
    obtain ⟨hlook', hsame'⟩ := (waits_of_none hi').look
    rw [hlook, hlook', hsame, hsame']
    exact ⟨rfl, h⟩
  | some i =>
    obtain ⟨i', hi', hcalm⟩ : ∃ i', d'.indicator = some i' ∧ i'.calm = i.calm := by
      simpa [hi] using hindicator
    have hseen : i'.seen = i.seen := by
      rw [← i'.calm_seen, hcalm, i.calm_seen]
    have hmeanwhile : i'.meanwhile = i.meanwhile := by
      rw [← i'.calm_meanwhile, hcalm, i.calm_meanwhile]
    by_cases hnews : i.seen = some d.panel.feed.version
    · have hnews' : i'.seen = some d'.panel.feed.version := by
        rw [hseen, h.feed]
        exact hnews
      obtain ⟨hlook, hsame⟩ := ((waits_iff hi).2 hnews).look
      obtain ⟨hlook', hsame'⟩ := ((waits_iff hi').2 hnews').look
      rw [hlook, hlook', hsame, hsame']
      exact ⟨rfl, h⟩
    · have hnews' : i'.seen ≠ some d'.panel.feed.version := by
        rw [hseen, h.feed]
        exact hnews
      obtain ⟨hlook, hf, hs, hn⟩ := look_of_news hi hnews
      obtain ⟨hlook', hf', hs', hn'⟩ := look_of_news hi' hnews'
      refine ⟨?_, ?_, hn'.trans (h.now.trans hn.symm), ?_⟩
      · rw [hlook, hlook', h.feed, hmeanwhile]
      · rw [hf, hf', h.feed, hmeanwhile]
      · rw [hs, hs', Option.map_some, Option.map_some, Indicator.calm_shown, Indicator.calm_shown,
          hcalm, h.feed, h.now]

/-- **A show that panics makes no difference** to what is shown. -/
theorem Runs.of_sameButPanics (h : d.Runs e es) (hd : d.SameButPanics d') :
    ∃ e', d'.Runs e' es ∧ e.SameButPanics e' := by
  induction h with
  | start => exact ⟨d', .start, hd⟩
  | @publish e e₁ es _ bs hp ih =>
    obtain ⟨e', h', he⟩ := ih
    -- the same is done to the other device, which keeps its own indicator
    refine ⟨{ e₁ with indicator := e'.indicator }, h'.publish ⟨?_, rfl⟩, rfl, rfl, ?_⟩
    · rw [he.feed]
      exact hp.feed
    · rw [hp.indicator]
      exact he.indicator
  | @look e es _ ih =>
    obtain ⟨e', h', he⟩ := ih
    obtain ⟨hlook, hshow⟩ := he.look
    refine ⟨e'.showNews, ?_, hshow⟩
    rw [← hlook]
    exact h'.look

/-! ### What a device does -/

theorem publishes_settleFlusher (d : Device) : d.Publishes [] d.settleFlusher := by
  rcases d.settleFlusher_cases with ⟨ns, f, h⟩ | ⟨ns, f, h⟩ <;> rw [h]
  · exact ⟨rfl, rfl⟩
  · exact ⟨(d.panel.say ns).feed_flushOnce, rfl⟩

theorem publishes_settleLine (d : Device) : ∃ bs, d.Publishes bs d.settleLine := by
  rcases d.settleLine_cases with ⟨ns, l, h⟩ | ⟨ns, l, h⟩ <;> rw [h]
  · exact ⟨[], rfl, rfl⟩
  · obtain ⟨bs, hbs⟩ := (d.panel.say ns).feed_fire
    exact ⟨bs, hbs, rfl⟩

theorem runs_settleIndicator (d : Device) : ∃ es, d.Runs d.settleIndicator es := by
  refine d.settleIndicator_induct (P := fun e => ∃ es, d.Runs e es) ⟨[], .start⟩ ?_
  rintro e ⟨es, h⟩
  exact ⟨_, h.look⟩

theorem runs_tick (d : Device) : ∃ es, d.Runs d.tick es := by
  obtain ⟨bs, hline⟩ := d.settleFlusher.publishes_settleLine
  obtain ⟨es, hindicator⟩ := d.settleFlusher.settleLine.runs_settleIndicator
  have hsettle := (d.publishes_settleFlusher.runs.trans hline.runs).trans hindicator
  have hadvance : d.settle.Publishes [] d.tick := ⟨rfl, rfl⟩
  exact ⟨_, hsettle.publish hadvance⟩

theorem runs_wait (d : Device) (n : Nat) : ∃ es, d.Runs (d.wait n) es := by
  refine d.wait_induct (P := fun e => ∃ es, d.Runs e es) ⟨[], .start⟩ ?_ n
  rintro e ⟨es, h⟩
  obtain ⟨es', h'⟩ := e.runs_tick
  exact ⟨_, h.trans h'⟩

theorem waits_waitUntil (d : Device) {t : Nat} (ht : d.now < t) : (d.waitUntil t).Waits := by
  obtain ⟨n, hn⟩ := Nat.exists_eq_succ_of_ne_zero (Nat.sub_ne_zero_of_lt ht)
  rw [waitUntil, hn]
  exact (d.wait n).settleFlusher.settleLine.waits_settleIndicator

theorem publishes_perform (d : Device) {c : Command} (hc : c ≠ .reboot)
    (hw : ∀ t, c ≠ .waitUntil t) : ∃ bs, d.Publishes bs (d.perform c).2 := by
  cases c with
  | reboot => exact absurd rfl hc
  | waitUntil t => exact absurd rfl (hw t)
  | fire =>
    obtain ⟨bs, hbs⟩ := d.panel.feed_fire
    exact ⟨bs, hbs, rfl⟩
  | flushOnce => exact ⟨[], d.panel.feed_flushOnce, rfl⟩
  | request r =>
    obtain ⟨bs, hbs⟩ := Surface.feed_handle r d.panel
    exact ⟨bs, hbs, rfl⟩
  | publish value => exact ⟨[value], rfl, rfl⟩
  | _ => exact ⟨[], rfl, rfl⟩

/-- **Every command but a restart is made of such steps.** -/
theorem runs_perform (d : Device) {c : Command} (hc : c ≠ .reboot) :
    ∃ es, d.Runs (d.perform c).2 es := by
  by_cases hw : ∃ t, c = .waitUntil t
  · obtain ⟨t, rfl⟩ := hw
    exact d.runs_wait _
  · obtain ⟨bs, hbs⟩ := d.publishes_perform hc fun t ht => hw ⟨t, ht⟩
    exact ⟨_, hbs.runs⟩

theorem runs_performAll (d : Device) {cs : List Command} (hcs : .reboot ∉ cs) :
    ∃ es, d.Runs (d.performAll cs) es := by
  induction cs generalizing d with
  | nil => exact ⟨[], .start⟩
  | cons c cs ih =>
    obtain ⟨es, h⟩ := d.runs_perform fun hc => hcs (hc ▸ List.mem_cons_self)
    obtain ⟨es', h'⟩ := ih (d.perform c).2 fun hmem => hcs (List.mem_cons_of_mem _ hmem)
    exact ⟨_, h.trans h'⟩

/-! ### The latest value -/

/-- **The indicator never misses the latest value.**  Whatever is published before, between and
during the shows, and whichever of them panic:

* a show, the first one included, is of the value that the feed has when it starts;
* between two shows the feed has changed, so there is at most one show more than there are changes;
* an indicator that waits has shown the value of the feed last, and does not show it again because
  it is published again;
* if it keeps a record, that is what was shown;
* once it has looked it waits, however much is published meanwhile;
* a device whose shows panic elsewhere goes through the same events;
* anything but a restart may be done to the device, and after any wait the indicator waits too. -/
theorem shows_latest_value (hi : d.indicator = some i) (hseen : i.seen = none) :
    (∀ e es, d.Runs e es →
      (∀ before w after, es = before ++ .shown w :: after →
        w = valueAfter d.panel.feed.value before) ∧
      (∀ before w mid u after, es = (before ++ .shown w :: mid) ++ .shown u :: after →
        0 < changes w mid) ∧
      (shows es).length ≤ 1 + changes d.panel.feed.value es ∧
      (e.Waits → (shows es).getLast? = some e.panel.feed.value ∧
        ∀ bs e', e.Publishes bs e' → (∀ b ∈ bs, b = e.panel.feed.value) → e'.showNews = e') ∧
      (i.output = .record → ∃ i', e.indicator = some i' ∧
        i'.shows.map (·.2) = i.shows.map (·.2) ++ shows es) ∧
      (∃ es', d.Runs e.settleIndicator (es ++ es') ∧ e.settleIndicator.Waits) ∧
      ∀ d', d.SameButPanics d' → ∃ e', d'.Runs e' es ∧ e.SameButPanics e') ∧
    ∀ cs, .reboot ∉ cs → ∀ t, (d.performAll cs).now < t → ∃ es,
      d.Runs (d.performAll (cs ++ [.waitUntil t])) es ∧
        (d.performAll (cs ++ [.waitUntil t])).Waits := by
  refine ⟨fun e es h => ?_, fun cs hcs t ht => ?_⟩
  · obtain ⟨i', hi', hwatched, -, hrecord⟩ := h.watched hi hseen
    refine ⟨fun _ _ _ => hwatched.current, fun _ _ _ _ _ => hwatched.news,
      hwatched.length_shows_le, fun hw => ⟨hwatched.getLast?_shows (hw i' hi'), ?_⟩,
      fun ho => ⟨i', hi', hrecord ho⟩, ?_, fun d' => h.of_sameButPanics⟩
    · exact fun bs e' hp hbs => (hp.waits hw hbs).look.2
    · obtain ⟨es', h'⟩ := e.runs_settleIndicator
      exact ⟨es', h.trans h', e.waits_settleIndicator⟩
  · have hall : .reboot ∉ cs ++ [.waitUntil t] := by simpa using hcs
    obtain ⟨es, h⟩ := d.runs_performAll hall
    refine ⟨es, h, ?_⟩
    rw [performAll_append]
    exact (d.performAll cs).waits_waitUntil ht

/-- Before the first show the trigger is published, and during it the feed goes away and back, so it
is shown once more; published again, it is not.  Then the trigger is reset, and an edge comes during
that show.  The shows of both values panic, and it is no different if they do not. -/
theorem shows_latest_value_panicking_shows :
    let i : Indicator := ⟨.record, [⟨[false, true], true⟩, ⟨[], false⟩, ⟨[true], true⟩], [], none⟩
    let d := seed (.inMemory none none []) none none (some i)
    let cs : List Command := [.publish true, .waitUntil 1, .publish true, .waitUntil 2,
      .publish false]
    let e := d.performAll (cs ++ [.waitUntil 9])
    let d' := seed (.inMemory none none []) none none (some i.calm)
    e.indicator.map (·.shows) = some [(0, true), (0, true), (2, false), (2, true)] ∧
      e.panel.feed = ⟨true, 5⟩ ∧ e.Waits ∧
      ∃ es, d.Runs e es ∧ shows es = [true, true, false, true] ∧ 4 ≤ 1 + changes false es ∧
        ∃ e', d'.Runs e' es ∧ e.SameButPanics e' := by
  intro i d cs e d'
  have hrecord :
      e.indicator.map (·.shows) = some [(0, true), (0, true), (2, false), (2, true)] := by
    decide +kernel
  have hlatest := shows_latest_value (d := d) (i := i) rfl rfl
  obtain ⟨es, h, hwaits⟩ := hlatest.2 cs (by simp [cs]) 9 (by decide +kernel)
  obtain ⟨-, -, hcount, -, hshows, -, hpanics⟩ := hlatest.1 e es h
  obtain ⟨i', hi', hes⟩ := hshows rfl
  have hes' : shows es = [true, true, false, true] := by
    rw [hi'] at hrecord
    have hi'shows : i'.shows = [(0, true), (0, true), (2, false), (2, true)] :=
      Option.some.inj hrecord
    rw [hi'shows] at hes
    exact hes.symm
  refine ⟨hrecord, by decide +kernel, hwaits, es, h, hes', ?_, hpanics d' ⟨rfl, rfl, rfl⟩⟩
  rw [hes'] at hcount
  exact hcount

end Device

end TriggerLatch
