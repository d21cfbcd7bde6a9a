import TriggerLatch.Device.Command
import TriggerLatch.Proofs.Latch.Durable
import TriggerLatch.Proofs.Latch.History

/-!
# What a device does to its latch

A device reaches its latch in few ways.  The commands that call the latch, the flusher and the
sampled line each make one call of it or none (`Latch.Called`); every other command, the indicator
and the time leave its cell, its store and its log of saves alone (`Latch.LeftAlone`).  So whatever
holds of every call of the latch holds of the device, and no proof about devices has to open what
the device does besides.
-/

namespace TriggerLatch

namespace Latch

variable {l l' : Latch}

/-- The latch has been called once, or not at all; the call itself counts as these occurrences. -/
inductive Called (l : Latch) : List Occurrence → Latch → Prop
  | edge : Called l [.edge l.recordEdge.1] l.recordEdge.2
  | reset : Called l [.reset] l.reset.2
  | flush : Called l [] l.flush.2
  | none : Called l [] l

theorem Called.sound {os : List Occurrence} (h : l.Called os l') (hl : l.Sound) : l'.Sound := by
  cases h with
  | edge => exact hl.recordEdge
  | reset => exact hl.reset
  | flush => exact hl.flush
  | none => exact hl

theorem Called.follows {os : List Occurrence} (h : l.Called os l') : l.Follows os l' := by
  cases h with
  | edge => exact l.follows_recordEdge
  | reset => exact l.follows_reset
  | flush => exact l.follows_flush
  | none => exact follows_of_same rfl rfl

/-- Something happened, but not to the cell, the store and the log of saves. -/
structure LeftAlone (l l' : Latch) : Prop where
  cell : l'.cell = l.cell
  store : l'.backing.store = l.backing.store
  saves : l'.backing.saves = l.backing.saves

theorem LeftAlone.refl (l : Latch) : l.LeftAlone l := ⟨rfl, rfl, rfl⟩

theorem LeftAlone.sound (h : l.LeftAlone l') (hl : l.Sound)
    (hk : l'.backing.kept = l.backing.kept) : l'.Sound :=
  hl.congr h.cell h.store hk

theorem LeftAlone.follows (h : l.LeftAlone l') : l.Follows [] l' := follows_of_same h.cell h.saves

end Latch

namespace Panel

variable (p : Panel)

theorem fire_spec : p.fire.1 = p.latch.recordEdge.1 ∧ p.fire.2.latch = p.latch.recordEdge.2 := by
  unfold fire
  cases h : p.latch.recordEdge with
  | mk latched latch => cases latched <;> exact ⟨rfl, rfl⟩

theorem flushOnce_latch : p.flushOnce.2.latch = p.latch.flush.2 := by
  unfold flushOnce
  split <;> next h => simp only [h, say]

end Panel

namespace Surface

/-- The request asks for a reset, by a method that a reset is served with. -/
def Request.asksForReset (r : Request) : Prop :=
  Route.ofPath? r.path = some .reset ∧ Route.reset.methods.contains r.method = true

instance (r : Request) : Decidable r.asksForReset :=
  inferInstanceAs (Decidable (_ ∧ _))

/-- **A request resets the panel if it asks for that**, and does nothing else to it. -/
theorem handle_panel (r : Request) (p : Panel) :
    (handle r p).2 = if r.asksForReset then resetPanel p else p := by
  unfold handle
  cases ho : Route.ofPath? r.path with
  | none =>
    rw [if_neg]
    rintro ⟨h, -⟩
    cases ho.symm.trans h
  | some route =>
    by_cases hm : route.methods.contains r.method = true
    · simp only [if_pos hm]
      cases route with
      | reset =>
        rw [if_pos ⟨ho, hm⟩]
        rfl
      | status | health =>
        rw [if_neg]
        · rfl
        · rintro ⟨h, -⟩
          cases ho.symm.trans h
    · simp only [if_neg hm]
      rw [if_neg]
      rintro ⟨h, h'⟩
      cases ho.symm.trans h
      exact hm h'

theorem handle_latch (r : Request) (p : Panel) :
    (handle r p).2.latch = if r.asksForReset then p.latch.reset.2 else p.latch := by
  rw [handle_panel]
  split <;> rfl

end Surface

namespace Command

/-- The command calls the latch. -/
def isCall : Command → Bool
  | edge | fire | reset | flush | flushOnce | request _ => true
  | _ => false

/-- The command leaves the latch alone, but it may change what is around it. -/
def isAside : Command → Bool
  | read | debug | publish _ | receive | setScript _ | setLoadError _ | load | peek | listFiles _
  | place _ _ | discard _ | makeDirectory _ | lookAt _ => true
  | _ => false

/-- What a command is to the latch, apart from the saves that it makes. -/
def occurrences : Command → Reply → List Occurrence
  | edge, .flag latched => [.edge latched]
  | fire, .flag latched => [.edge latched]
  | reset, _ => [.reset]
  | request r, _ => if r.asksForReset then [.reset] else []
  | _, _ => []

end Command

namespace Device

open Latch

variable (d : Device)

/-- **A command that calls the latch makes one call**, or none. -/
theorem called_perform {c : Command} (h : c.isCall = true) :
    d.panel.latch.Called (c.occurrences (d.perform c).1) (d.perform c).2.panel.latch := by
  cases c with
  | edge => exact .edge
  | fire =>
    obtain ⟨hb, hl⟩ := d.panel.fire_spec
    show d.panel.latch.Called [.edge d.panel.fire.1] d.panel.fire.2.latch
    rw [hb, hl]
    exact .edge
  | reset => exact .reset
  | flush => exact .flush
  | flushOnce =>
    show d.panel.latch.Called [] d.panel.flushOnce.2.latch
    rw [d.panel.flushOnce_latch]
    exact .flush
  | request r =>
    show d.panel.latch.Called (if r.asksForReset then [.reset] else [])
      (Surface.handle r d.panel).2.latch
    rw [Surface.handle_latch]
    split
    · exact .reset
    · exact .none
  | _ => cases h

theorem leftAlone_perform {c : Command} (h : c.isAside = true) :
    d.panel.latch.LeftAlone (d.perform c).2.panel.latch := by
  cases c with
  | edge | fire | reset | flush | flushOnce | request | save | waitUntil | reboot => cases h
  | _ => exact ⟨rfl, rfl, rfl⟩

/-! ### Tasks -/

theorem startFlusher_spec (f : Flusher) :
    ∃ p, (d.startFlusher f).1 = d.withPanel p ∧ p.latch = d.panel.latch := by
  unfold startFlusher
  split
  · exact ⟨_, rfl, rfl⟩
  · exact ⟨d.panel, rfl, rfl⟩

/-- **The flusher flushes the latch or does nothing to it**, and touches no other task. -/
theorem settleFlusher_spec :
    ∃ p f, d.settleFlusher = { d.withPanel p with flusher := f } ∧
      d.panel.latch.Called [] p.latch := by
  unfold settleFlusher
  cases d.flusher with
  | none => exact ⟨d.panel, d.flusher, rfl, .none⟩
  | some f =>
    obtain ⟨p, hp, hl⟩ := d.startFlusher_spec f
    simp only [hp]
    split
    · split
      · refine ⟨p.flushOnce.2, _, rfl, ?_⟩
        rw [p.flushOnce_latch, hl]
        exact .flush
      · exact ⟨p, _, rfl, hl ▸ .none⟩
    · exact ⟨p, _, rfl, hl ▸ .none⟩

theorem startLine_spec (l : LinePoller) :
    ∃ p, (d.startLine l).1 = d.withPanel p ∧ p.latch = d.panel.latch := by
  unfold startLine
  split
  · exact ⟨_, rfl, rfl⟩
  · exact ⟨d.panel, rfl, rfl⟩

theorem sampleLine_spec (l : LinePoller) :
    ∃ p os, (d.sampleLine l).1 = d.withPanel p ∧ d.panel.latch.Called os p.latch := by
  unfold sampleLine
  simp only
  split
  · refine ⟨_, [.edge d.panel.latch.recordEdge.1], rfl, ?_⟩
    rw [(Panel.fire_spec _).2]
    exact .edge
  · exact ⟨_, [], rfl, .none⟩

/-- **The line is an edge of the latch or does nothing to it**, and touches no other task. -/
theorem settleLine_spec :
    ∃ p l os, d.settleLine = { d.withPanel p with line := l } ∧
      d.panel.latch.Called os p.latch := by
  unfold settleLine
  cases d.line with
  | none => exact ⟨d.panel, d.line, [], rfl, .none⟩
  | some l =>
    obtain ⟨p, hp, hl⟩ := d.startLine_spec l
    simp only [hp]
    split
    · split
      · obtain ⟨p', os, hp', hc⟩ := (d.withPanel p).sampleLine_spec (d.startLine l).2
        simp only [hp']
        exact ⟨p', _, os, rfl, hl ▸ hc⟩
      · exact ⟨p, _, [], rfl, hl ▸ .none⟩
    · exact ⟨p, _, [], rfl, hl ▸ .none⟩

/-- **The indicator leaves the latch alone**, and goes on showing values as it did. -/
theorem showNews_spec :
    ∃ p i, d.showNews = { d.withPanel p with indicator := i } ∧ d.panel.latch.LeftAlone p.latch ∧
      i.map (·.output) = d.indicator.map (·.output) := by
  unfold showNews
  cases hi : d.indicator with
  | none => exact ⟨d.panel, d.indicator, rfl, .refl _, by rw [hi]⟩
  | some i =>
    simp only
    split
    · exact ⟨d.panel, d.indicator, rfl, .refl _, by rw [hi]⟩
    · split <;> exact ⟨_, _, rfl, ⟨rfl, rfl, rfl⟩, rfl⟩

theorem leftAlone_advance : d.panel.latch.LeftAlone d.advance.panel.latch := ⟨rfl, rfl, rfl⟩

/-! ### One look and one tick after the other -/

/-- What each look of the indicator keeps is kept until it waits. -/
theorem settleIndicator_induct {P : Device → Prop} (h : P d) (hlook : ∀ e, P e → P e.showNews) :
    P d.settleIndicator := by
  have hlooks : ∀ n, P (Nat.repeat showNews n d) := by
    intro n
    induction n with
    | zero => exact h
    | succ n ih => exact hlook _ ih
  exact hlooks _

/-- What each tick keeps is kept while the device waits. -/
theorem wait_induct {P : Device → Prop} (h : P d) (htick : ∀ e, P e → P e.tick) (n : Nat) :
    P (d.wait n) := by
  induction n with
  | zero => exact h
  | succ n ih => exact htick _ ih

end Device

end TriggerLatch
