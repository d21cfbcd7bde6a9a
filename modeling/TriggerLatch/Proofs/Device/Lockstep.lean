import TriggerLatch.Proofs.Device.Durable
import TriggerLatch.Proofs.Latch.Companions
import TriggerLatch.Proofs.Surface.Agreement

/-!
# Devices in lockstep

Two devices with paired latches are given the same commands, or scripts that are paired item by
item.  **They stay paired, and their answers are** (`Pairing.Devices.run`): the cells, the feeds,
the save logs and the tasks are the same throughout; what differs are the answers of calls whose
save has ended in a panic on one side, and the line that each of these puts in the log.

The commands are those that reach the store through the latch (`Command.isIndirect`).
-/

namespace TriggerLatch

/-- The command reaches the store through the latch alone, or asks it for what it holds; and it
touches no other file. -/
def Command.isIndirect : Command → Bool
  | edge | fire | read | debug | reset | flush | flushOnce | request _ | publish _ | receive
  | setLoadError _ | load | waitUntil _ | reboot => true
  | _ => false

/-- What a device answers to a row of commands. -/
def Device.replies (d : Device) : List Command → List Reply
  | [] => []
  | c :: cs => (d.perform c).1 :: (d.perform c).2.replies cs

theorem Surface.handle_response_congr {p p' : Panel} (h : p'.latch.read = p.latch.read)
    (r : Request) : (handle r p').1 = (handle r p).1 := by
  unfold handle
  split
  · rfl
  · next route _ =>
    split
    · cases route with
      | status => simp only [serve, h]
      | reset | health => rfl
    · rfl

namespace Pairing

variable (P : Pairing)

/-- Two notices say the same, or one tells of a panic and the other of the error that stands for
it. -/
inductive Notices : Notice → Notice → Prop
  | same (n : Notice) : Notices n n
  | flush {e : StoreError} (h : P.Soft e) :
    Notices (.flushPanicked panicReason) (.flushFailed (.store e))
  | reset {e : StoreError} (h : P.Soft e) :
    Notices (.resetPanicked panicReason) (.resetNotPersisted (.store e))

/-- Two answers are the same, or those of calls that have ended so. -/
inductive Replies : Reply → Reply → Prop
  | same (r : Reply) : Replies r r
  | flush {r r' : Ending (Except PersistError FlushOutcome)} (h : P.Endings .store r r') :
    Replies (.flush r) (.flush r')
  | reset {r r' : Ending (Except PersistError Unit)} (h : P.Endings .store r r') :
    Replies (.reset r) (.reset r')

/-- Two commands are the same, or replace the scripts by paired ones. -/
inductive Commands : Command → Command → Prop
  | same {c : Command} (h : c.isIndirect = true) : Commands c c
  | setScript {s s' : List SaveItem} (h : List.Forall₂ P.item s s') :
    Commands (.setScript s) (.setScript s')

/-- Two panels show the same, and their latches are paired. -/
structure Panels (p p' : Panel) : Prop where
  latch : P.Latches p.latch p'.latch
  feed : p'.feed = p.feed
  notices : List.Forall₂ P.Notices p.notices p'.notices

/-- The files are the same on both sides, whatever is done to them. -/
def SharesFiles : Prop := ∀ {s s' m m'}, P.home s m s' m' →
  m'.files = m.files ∧ ∀ files, P.home s { m with files } s' { m' with files }

/-- Two devices with paired panels run the same tasks; and unless they have the same files, no line
is sampled, and the indicator drives no file. -/
structure Devices (d d' : Device) : Prop where
  panel : P.Panels d.panel d'.panel
  receiver : d'.receiver = d.receiver
  flusher : d'.flusher = d.flusher
  line : d'.line = d.line
  indicator : d'.indicator = d.indicator
  files : P.SharesFiles ∨ d.line = none ∧ d.DrivesNoFile

variable {P} {p p' : Panel} {d d' : Device}

/-! ### Panels -/

theorem notices_refl (ns : List Notice) : List.Forall₂ P.Notices ns ns :=
  List.forall₂_same.2 fun n _ => .same n

theorem Latches.read {l l' : Latch} (h : P.Latches l l') : l'.read = l.read :=
  congrArg Cell.triggered h.cell

theorem Panels.say (h : P.Panels p p') {ns ns' : List Notice} (hn : List.Forall₂ P.Notices ns ns') :
    P.Panels (p.say ns) (p'.say ns') :=
  ⟨h.latch, h.feed, List.rel_append h.notices hn⟩

theorem Panels.fire (h : P.Panels p p') : p'.fire.1 = p.fire.1 ∧ P.Panels p.fire.2 p'.fire.2 := by
  cases hr : p.latch.read with
  | true =>
    rw [Panel.fire_of_read hr, Panel.fire_of_read (h.latch.read.trans hr)]
    exact ⟨rfl, h⟩
  | false =>
    rw [Panel.fire_of_idle hr, Panel.fire_of_idle (h.latch.read.trans hr), h.feed]
    exact ⟨rfl, h.latch.recordEdge.2, rfl, (h.say (notices_refl [.triggerLatched])).notices⟩

/-- **A flush that panics and one that fails** say different things, and come to the same. -/
theorem Panels.flushOnce (h : P.Panels p p') :
    p'.flushOnce.1 = p.flushOnce.1 ∧ P.Panels p.flushOnce.2 p'.flushOnce.2 := by
  obtain ⟨hends, hlatch⟩ := h.latch.flush
  unfold Panel.flushOnce
  generalize p.latch.flush = r at hends hlatch ⊢
  generalize p'.latch.flush = r' at hends hlatch ⊢
  obtain ⟨r, l⟩ := r
  obtain ⟨r', l'⟩ := r'
  have hpanel : P.Panels { p with latch := l } { p' with latch := l' } :=
    ⟨hlatch, h.feed, h.notices⟩
  cases hends with
  | same =>
    match r with
    | .returned (.ok _) => exact ⟨rfl, hpanel⟩
    | .returned (.error _) => exact ⟨rfl, hpanel.say (notices_refl _)⟩
    | .panicked _ => exact ⟨rfl, hpanel.say (notices_refl _)⟩
    | .blocked => exact ⟨rfl, hpanel⟩
  | softened he => exact ⟨rfl, hpanel.say (.cons (.flush he) .nil)⟩

theorem notices_reset {r r' : Ending (Except PersistError Unit)} (h : P.Endings .store r r') :
    List.Forall₂ P.Notices (Surface.resetNotices r) (Surface.resetNotices r') := by
  cases h with
  | same => exact notices_refl _
  | softened he => exact .cons (.reset he) .nil

theorem Panels.resetPanel (h : P.Panels p p') :
    P.Panels (Surface.resetPanel p) (Surface.resetPanel p') := by
  obtain ⟨hends, hlatch⟩ := h.latch.reset
  refine ⟨hlatch, ?_, ?_⟩
  · simp only [Surface.resetPanel, h.feed, hlatch.read]
  · simp only [Surface.resetPanel, h.latch.read]
    exact List.rel_append (List.rel_append h.notices (notices_reset hends)) (notices_refl _)

theorem Panels.handle (h : P.Panels p p') (r : Surface.Request) :
    (Surface.handle r p').1 = (Surface.handle r p).1 ∧
      P.Panels (Surface.handle r p).2 (Surface.handle r p').2 := by
  refine ⟨Surface.handle_response_congr h.latch.read r, ?_⟩
  rw [Surface.handle_panel, Surface.handle_panel]
  split
  · exact h.resetPanel
  · exact h

/-! ### Tasks -/

theorem Devices.now (h : P.Devices d d') : d'.now = d.now :=
  congrArg Clock.millis h.panel.latch.backing.clock

theorem Devices.withPanel (h : P.Devices d d') {q q' : Panel} (hq : P.Panels q q') :
    P.Devices (d.withPanel q) (d'.withPanel q') :=
  { h with panel := hq }

theorem Devices.withLatch (h : P.Devices d d') {l l' : Latch} (hl : P.Latches l l') :
    P.Devices (d.withLatch l) (d'.withLatch l') :=
  h.withPanel ⟨hl, h.panel.feed, h.panel.notices⟩

theorem Devices.withBacking (h : P.Devices d d') {b b' : Backing} (hb : P.Backings b b') :
    P.Devices (d.withBacking b) (d'.withBacking b') :=
  h.withLatch { h.panel.latch with backing := hb }

theorem Devices.withFlusher (h : P.Devices d d') (f : Option Flusher) :
    P.Devices { d with flusher := f } { d' with flusher := f } :=
  { h with flusher := rfl }

theorem Devices.withLine (h : P.Devices d d') (hs : P.SharesFiles) (l : Option LinePoller) :
    P.Devices { d with line := l } { d' with line := l } :=
  { h with line := rfl, files := .inl hs }

theorem Devices.withFiles (h : P.Devices d d') (hs : P.SharesFiles) (files : Files.Tree) :
    P.Devices (d.withFiles files) (d'.withFiles files) :=
  h.withBacking { h.panel.latch.backing with home := (hs h.panel.latch.backing.home).2 files }

theorem Devices.say (h : P.Devices d d') (ns : List Notice) : P.Devices (d.say ns) (d'.say ns) :=
  h.withPanel (h.panel.say (notices_refl ns))

theorem Devices.startFlusher (h : P.Devices d d') (f : Flusher) :
    (d'.startFlusher f).2 = (d.startFlusher f).2 ∧
      P.Devices (d.startFlusher f).1 (d'.startFlusher f).1 := by
  obtain ⟨period, task⟩ := f
  cases task with
  | unstarted =>
    refine ⟨?_, h.say _⟩
    simp only [Device.startFlusher, h.now]
  | due | failed | ended => exact ⟨rfl, h⟩

theorem Devices.settleFlusher (h : P.Devices d d') :
    P.Devices d.settleFlusher d'.settleFlusher := by
  unfold Device.settleFlusher
  rw [h.flusher]
  cases d.flusher with
  | none => exact h
  | some f =>
    obtain ⟨hsame, hstarted⟩ := h.startFlusher f
    simp only
    generalize d.startFlusher f = r at hsame hstarted ⊢
    generalize d'.startFlusher f = r' at hsame hstarted ⊢
    obtain ⟨e, g⟩ := r
    obtain ⟨e', g'⟩ := r'
    obtain rfl : g' = g := hsame
    simp only [hstarted.now]
    split
    · split
      · exact (hstarted.withPanel hstarted.panel.flushOnce.2).withFlusher _
      · exact hstarted.withFlusher _
    · exact hstarted.withFlusher _

theorem Devices.startLine (h : P.Devices d d') (l : LinePoller) :
    (d'.startLine l).2 = (d.startLine l).2 ∧ P.Devices (d.startLine l).1 (d'.startLine l).1 := by
  obtain ⟨path, period, task, sampler⟩ := l
  cases task with
  | unstarted =>
    refine ⟨?_, h.say _⟩
    simp only [Device.startLine, h.now]
  | due | failed | ended => exact ⟨rfl, h⟩

theorem Devices.sampleLine (h : P.Devices d d') (hs : P.SharesFiles) (l : LinePoller) :
    (d'.sampleLine l).2 = (d.sampleLine l).2 ∧
      P.Devices (d.sampleLine l).1 (d'.sampleLine l).1 := by
  have hfiles : d'.files = d.files := (hs h.panel.latch.backing.home).1
  unfold Device.sampleLine
  simp only [hfiles]
  refine ⟨trivial, ?_⟩
  split
  · exact (h.say _).withPanel (h.say _).panel.fire.2
  · exact h.say _

theorem Devices.settleLine (h : P.Devices d d') : P.Devices d.settleLine d'.settleLine := by
  unfold Device.settleLine
  rw [h.line]
  rcases h.files with hs | ⟨hnone, -⟩
  · cases d.line with
    | none => exact h
    | some l =>
      obtain ⟨hsame, hstarted⟩ := h.startLine l
      simp only
      generalize d.startLine l = r at hsame hstarted ⊢
      generalize d'.startLine l = r' at hsame hstarted ⊢
      obtain ⟨e, k⟩ := r
      obtain ⟨e', k'⟩ := r'
      obtain rfl : k' = k := hsame
      obtain ⟨hsampler, hsampled⟩ := hstarted.sampleLine hs k'
      simp only [hstarted.now, hsampler]
      split
      · split
        · exact hsampled.withLine hs _
        · exact hstarted.withLine hs _
      · exact hstarted.withLine hs _
  · rw [hnone]
    exact h

theorem Devices.withIndicator (h : P.Devices d d') {i j : Indicator} (hi : d.indicator = some i)
    (ho : j.output = i.output) :
    P.Devices { d with indicator := some j } { d' with indicator := some j } := by
  refine { h with indicator := rfl, files := h.files.imp_right ?_ }
  rintro ⟨hnone, hdrives⟩
  refine ⟨hnone, fun path hpath => hdrives path ?_⟩
  rw [hi, Option.map_some, ← ho]
  exact hpath

theorem Devices.showNews (h : P.Devices d d') : P.Devices d.showNews d'.showNews := by
  unfold Device.showNews
  rw [h.indicator, h.panel.feed, h.now]
  cases hi : d.indicator with
  | none => exact h
  | some i =>
    simp only
    split
    · exact h
    · split
      · exact Devices.say (h.withIndicator hi (by rfl)) _
      · next path ho =>
        rcases h.files with hs | ⟨-, hdrives⟩
        · have hfiles : d'.files = d.files := (hs h.panel.latch.backing.home).1
          rw [hfiles]
          exact Devices.say (Devices.withFiles (h.withIndicator hi (by rfl)) hs _) _
        · exact absurd (by rw [hi, Option.map_some, ho]) (hdrives path)
      · refine Devices.say (Devices.withPanel (h.withIndicator hi (by rfl)) ?_) _
        exact ⟨h.panel.latch, by rfl, h.panel.notices⟩

theorem Devices.settleIndicator (h : P.Devices d d') :
    P.Devices d.settleIndicator d'.settleIndicator := by
  have hshows : ∀ n,
      P.Devices (Nat.repeat Device.showNews n d) (Nat.repeat Device.showNews n d') := by
    intro n
    induction n with
    | zero => exact h
    | succ n ih => exact ih.showNews
  unfold Device.settleIndicator
  rw [h.indicator]
  exact hshows _

theorem Devices.advance (h : P.Devices d d') : P.Devices d.advance d'.advance := by
  have hb := h.panel.latch.backing
  have hclock := congrArg (fun c : Clock => { c with millis := c.millis + 1 }) hb.clock
  exact h.withBacking ⟨hb.home, hb.loadError, hb.script, hb.saves, hclock⟩

theorem Devices.wait (h : P.Devices d d') (millis : Nat) :
    P.Devices (d.wait millis) (d'.wait millis) := by
  induction millis with
  | zero => exact h
  | succ n ih => exact ih.settleFlusher.settleLine.settleIndicator.advance

/-- **Restarted on what they have kept, two devices are in lockstep again.** -/
theorem Devices.reboot (h : P.Devices d d') : P.Devices d.reboot d'.reboot := by
  have hlatch := Latches.seed h.panel.latch.backing
  refine ⟨⟨hlatch, congrArg Feed.start hlatch.read, ?_⟩, rfl, ?_, ?_, ?_, h.files.imp_right ?_⟩
  · simp only [Device.reboot, h.panel.latch.backing.seedNotices]
    exact List.rel_append h.panel.notices (notices_refl _)
  · simp only [Device.reboot, h.flusher]
  · simp only [Device.reboot, h.line]
  · simp only [Device.reboot, h.indicator]
  · rintro ⟨hnone, hdrives⟩
    refine ⟨by simp only [Device.reboot, hnone, Option.map_none], fun path hpath => ?_⟩
    refine hdrives path ?_
    rw [← hpath]
    simp only [Device.reboot, Option.map_map]
    rfl

/-! ### Commands -/

theorem Replies.of_eq {r r' : Reply} (h : r' = r) : P.Replies r r' := h ▸ .same r'

theorem Commands.refl (hi : ∀ i, P.item i i) {c : Command}
    (h : c.isIndirect = true ∨ ∃ s, c = .setScript s) : P.Commands c c := by
  rcases h with h | ⟨s, rfl⟩
  · exact .same h
  · exact .setScript (List.forall₂_same.2 fun i _ => hi i)

/-- **Two devices given the same command stay in lockstep.** -/
theorem Devices.perform (h : P.Devices d d') {c c' : Command} (hc : P.Commands c c') :
    P.Replies (d.perform c).1 (d'.perform c').1 ∧ P.Devices (d.perform c).2 (d'.perform c').2 := by
  have hb := h.panel.latch.backing
  cases hc with
  | setScript hs => exact ⟨.same _, h.withBacking ⟨hb.home, hb.loadError, hs, hb.saves, hb.clock⟩⟩
  | @same c hc =>
    cases c with
    | edge =>
      obtain ⟨hlatched, hlatch⟩ := h.panel.latch.recordEdge
      exact ⟨.of_eq (congrArg Reply.flag hlatched), h.withLatch hlatch⟩
    | fire =>
      obtain ⟨hlatched, hpanel⟩ := h.panel.fire
      exact ⟨.of_eq (congrArg Reply.flag hlatched), h.withPanel hpanel⟩
    | read => exact ⟨.of_eq (congrArg Reply.flag h.panel.latch.read), h⟩
    | debug =>
      have hdebug : d'.panel.latch.debug = d.panel.latch.debug := by
        unfold Latch.debug
        rw [h.panel.latch.cell]
      exact ⟨.of_eq (congrArg Reply.debug hdebug), h⟩
    | reset =>
      obtain ⟨hends, hlatch⟩ := h.panel.latch.reset
      exact ⟨.reset hends, h.withLatch hlatch⟩
    | flush =>
      obtain ⟨hends, hlatch⟩ := h.panel.latch.flush
      exact ⟨.flush hends, h.withLatch hlatch⟩
    | flushOnce =>
      obtain ⟨hsame, hpanel⟩ := h.panel.flushOnce
      exact ⟨.of_eq (congrArg Reply.flushOnce hsame), h.withPanel hpanel⟩
    | request r =>
      obtain ⟨hsame, hpanel⟩ := h.panel.handle r
      exact ⟨.of_eq (congrArg Reply.response hsame), h.withPanel hpanel⟩
    | publish value =>
      have hfeed : d'.panel.feed.publish value = d.panel.feed.publish value := by
        rw [h.panel.feed]
      exact ⟨.of_eq (congrArg (Reply.flag ∘ Feed.value) hfeed),
        h.withPanel ⟨h.panel.latch, hfeed, h.panel.notices⟩⟩
    | receive =>
      refine ⟨.of_eq ?_, { h with receiver := congrArg Feed.version h.panel.feed }⟩
      simp only [Device.perform, h.panel.feed, h.receiver]
    | setLoadError e => exact ⟨.same _, h.withBacking ⟨hb.home, rfl, hb.script, hb.saves, hb.clock⟩⟩
    | load => exact ⟨.of_eq (congrArg Reply.loaded hb.load), h⟩
    | waitUntil time =>
      refine ⟨.same _, ?_⟩
      simp only [Device.perform, Device.waitUntil, h.now]
      exact h.wait _
    | reboot => exact ⟨.same _, h.reboot⟩
    | setScript | save | peek | listFiles | place | discard | makeDirectory | lookAt => cases hc

/-- **In lockstep all the way**, whatever the commands are. -/
theorem Devices.run (h : P.Devices d d') {cs cs' : List Command}
    (hc : List.Forall₂ P.Commands cs cs') :
    List.Forall₂ P.Replies (d.replies cs) (d'.replies cs') ∧
      P.Devices (d.performAll cs) (d'.performAll cs') := by
  induction hc generalizing d d' with
  | nil => exact ⟨.nil, h⟩
  | cons hcommand _ ih =>
    obtain ⟨hreply, hstep⟩ := h.perform hcommand
    obtain ⟨hreplies, hrun⟩ := ih hstep
    exact ⟨.cons hreply hreplies, hrun⟩

theorem Devices.seed {b b' : Backing} (h : P.Backings b b') (flusher : Option Flusher)
    {line : Option LinePoller} {indicator : Option Indicator}
    (hf : P.SharesFiles ∨
      line = none ∧ ∀ path, indicator.map (·.output) ≠ some (.file path)) :
    P.Devices (.seed b flusher line indicator) (.seed b' flusher line indicator) := by
  have hlatch := Latches.seed h
  refine ⟨⟨hlatch, congrArg Feed.start hlatch.read, ?_⟩, rfl, rfl, rfl, rfl, hf⟩
  simp only [Device.seed, Panel.seed, h.seedNotices]
  exact notices_refl _

end Pairing

end TriggerLatch
