import TriggerLatch.Config.Reader
import TriggerLatch.Config.Writer
import TriggerLatch.Proofs.Except
import TriggerLatch.Proofs.Net.Written

/-!
# Configurations and the environments that describe them

A configuration is `Describable` if its texts are trimmed and not empty and its numbers are positive
and within their limits.  Whatever an environment describes is so (`describable_of_ofEnvironment`),
the defaults included, and a configuration that is so is what its own environment describes
(`ofEnvironment_toEnvironment`).  So **a configuration that was read, written out and read again is
the same** (`reads_back`), and an environment that describes it is found for every describable
configuration and for no other (`exists_ofEnvironment_iff`).
-/

namespace TriggerLatch

/-- The text counts as it stands: there is nothing to trim, and something left. -/
structure Text.Stands (t : Text) : Prop where
  trimmed : t.trim = t
  ne_nil : t ≠ []

namespace Environment

variable {env : Environment} {v : Variable} {t : Text}

theorem stands_of_get? (h : env.get? v = some t) : t.Stands := by
  obtain ⟨raw, -, rfl, hne⟩ := get?_eq_some_iff.1 h
  exact ⟨raw.trim_trim, hne⟩

theorem get?_of_stands (h : env v = some t) (ht : t.Stands) : env.get? v = some t :=
  get?_eq_some_iff.2 ⟨t, h, ht.trimmed, ht.ne_nil⟩

theorem get?_of_none (h : env v = none) : env.get? v = none := by
  rw [get?, h, Option.bind_none]

end Environment

theorem Decimal.stands_digits (n : Nat) : (Decimal.digits n).Stands where
  trimmed := Text.trim_of_not_isBlank (Decimal.isBlank_of_mem_digits n)
  ne_nil := Decimal.digits_ne_nil n

namespace Config

/-- A number that a variable may hold, up to a limit. -/
def InRange (limit n : Nat) : Prop := 0 < n ∧ n ≤ limit

/-- The configuration can be written down: its texts stand, its numbers are in range. -/
structure Describable (c : Config) : Prop where
  stateDir : c.stateDir.Stands
  namespaceName : c.key.namespaceName.Stands
  name : c.key.name.Stands
  flushInterval : InRange maxNumber c.flushInterval
  line : ∀ path ∈ c.trigger.path?, path.Stands
  period : ∀ period ∈ c.trigger.period?, InRange maxNumber period
  indicatorPath : ∀ path ∈ c.indicatorPath, path.Stands
  linkInterface : ∀ interface ∈ c.linkInterface, interface.Stands
  attachAttempts : InRange maxCount c.policy.attachAttempts
  attachRetry : InRange maxNumber c.policy.attachRetry
  checkInterval : InRange maxNumber c.policy.checkInterval
  lostAfter : InRange maxCount c.policy.lostAfter

variable {env : Environment} {v : Variable} {default n : Nat} {c : Config}

/-! ### Reading one variable -/

/-- **What is read as a positive number**: the default, or what the text is read as, if that is not
zero. -/
theorem positive_eq_ok_iff :
    positive env v default = .ok n ↔
      (env.get? v = none ∧ n = default) ∨
        ∃ t, env.get? v = some t ∧ Decimal.read maxNumber t = .ok n ∧ 0 < n := by
  unfold positive
  cases env.get? v with
  | none => simp [eq_comm]
  | some t =>
    cases hread : Decimal.read maxNumber t with
    | error e => simp [hread]
    | ok m =>
      cases m with
      | zero => simp [hread]; omega
      | succ m => simp [hread]; grind

theorem count_eq_ok_iff :
    count env v default = .ok n ↔ positive env v default = .ok n ∧ n ≤ maxCount := by
  rw [count, bind_eq_ok_iff]
  constructor
  · rintro ⟨m, hm, h⟩
    split at h
    · next hle =>
      obtain rfl := Except.ok.inj h
      exact ⟨hm, hle⟩
    · cases h
  · rintro ⟨hn, hle⟩
    exact ⟨n, hn, if_pos hle⟩

theorem inRange_of_positive (h : positive env v default = .ok n)
    (hdefault : InRange maxNumber default) : InRange maxNumber n := by
  rcases positive_eq_ok_iff.1 h with ⟨-, rfl⟩ | ⟨t, -, hread, hpos⟩
  · exact hdefault
  · exact ⟨hpos, Decimal.le_of_read hread⟩

theorem inRange_of_count (h : count env v default = .ok n)
    (hdefault : InRange maxNumber default) : InRange maxCount n := by
  obtain ⟨hpositive, hle⟩ := count_eq_ok_iff.1 h
  exact ⟨(inRange_of_positive hpositive hdefault).1, hle⟩

theorem positive_of_digits (h : env v = some (Decimal.digits n)) (hn : InRange maxNumber n) :
    positive env v default = .ok n :=
  positive_eq_ok_iff.2 (.inr ⟨_, Environment.get?_of_stands h (Decimal.stands_digits n),
    Decimal.read_digits hn.2, hn.1⟩)

theorem count_of_digits (h : env v = some (Decimal.digits n)) (hn : InRange maxCount n) :
    count env v default = .ok n :=
  count_eq_ok_iff.2 ⟨positive_of_digits h ⟨hn.1, Nat.le_trans hn.2 (by decide)⟩, hn.2⟩

/-- **What the source of edges is read as.** -/
theorem triggerOf_eq_ok_iff {trigger : Trigger} :
    triggerOf env = .ok trigger ↔
      env.get? .triggerLine = trigger.path? ∧
        ∀ period ∈ trigger.period?,
          positive env .triggerPoll standardPollPeriod = .ok period := by
  unfold triggerOf
  cases env.get? .triggerLine with
  | none => cases trigger <;> simp [Trigger.path?, Trigger.period?]
  | some path =>
    simp only [bind_eq_ok_iff]
    cases trigger with
    | signal => simp [Trigger.path?]
    | line path' period =>
      simp [Trigger.path?, Trigger.period?]
      grind

/-! ### Reading all of them -/

/-- Each part of the configuration is what its variable says. -/
structure Describes (env : Environment) (c : Config) : Prop where
  trigger : triggerOf env = .ok c.trigger
  listen : listenOf env = .ok c.listen
  flushInterval : positive env .flushInterval standardFlushInterval = .ok c.flushInterval
  attachAttempts :
    count env .attachAttempts Policy.standard.attachAttempts = .ok c.policy.attachAttempts
  attachRetry : positive env .attachRetry Policy.standard.attachRetry = .ok c.policy.attachRetry
  checkInterval :
    positive env .linkCheck Policy.standard.checkInterval = .ok c.policy.checkInterval
  lostAfter : count env .linkLostAfter Policy.standard.lostAfter = .ok c.policy.lostAfter
  stateDir : (env.get? .stateDir).getD standardStateDir = c.stateDir
  namespaceName :
    (env.get? .storeNamespace).getD StoreKey.standard.namespaceName = c.key.namespaceName
  name : (env.get? .storeKey).getD StoreKey.standard.name = c.key.name
  indicatorPath : env.get? .indicatorPath = c.indicatorPath
  linkInterface : env.get? .linkInterface = c.linkInterface

/-- **An environment is read part by part.** -/
theorem ofEnvironment_eq_ok_iff : ofEnvironment env = .ok c ↔ Describes env c := by
  simp only [ofEnvironment, bind_eq_ok_iff]
  constructor
  · rintro ⟨_, htrigger, _, hlisten, _, hflush, _, hattempts, _, hretry, _, hcheck, _, hlost, hc⟩
    obtain rfl := Except.ok.inj hc
    exact ⟨htrigger, hlisten, hflush, hattempts, hretry, hcheck, hlost, rfl, rfl, rfl, rfl, rfl⟩
  · rintro ⟨htrigger, hlisten, hflush, hattempts, hretry, hcheck, hlost, hdir, hnamespace, hname,
      hindicator, hinterface⟩
    refine ⟨_, htrigger, _, hlisten, _, hflush, _, hattempts, _, hretry, _, hcheck, _, hlost, ?_⟩
    rw [hdir, hnamespace, hname, hindicator, hinterface]

theorem stands_getD {default t : Text} (hdefault : default.Stands)
    (h : (env.get? v).getD default = t) : t.Stands := by
  cases hv : env.get? v with
  | none =>
    rw [hv] at h
    exact h ▸ hdefault
  | some t' =>
    rw [hv] at h
    exact h ▸ Environment.stands_of_get? hv

/-- **Whatever an environment describes can be written down**, the defaults included. -/
theorem describable_of_ofEnvironment (h : ofEnvironment env = .ok c) : c.Describable := by
  have hd := ofEnvironment_eq_ok_iff.1 h
  obtain ⟨hline, hperiod⟩ := triggerOf_eq_ok_iff.1 hd.trigger
  exact
    { stateDir := stands_getD ⟨by decide, by decide⟩ hd.stateDir
      namespaceName := stands_getD ⟨by decide, by decide⟩ hd.namespaceName
      name := stands_getD ⟨by decide, by decide⟩ hd.name
      flushInterval := inRange_of_positive hd.flushInterval ⟨by decide, by decide⟩
      line := fun path hp => Environment.stands_of_get? (hline.trans hp)
      period := fun period hp => inRange_of_positive (hperiod period hp) ⟨by decide, by decide⟩
      indicatorPath := fun path hp => Environment.stands_of_get? (hd.indicatorPath.trans hp)
      linkInterface := fun i hi => Environment.stands_of_get? (hd.linkInterface.trans hi)
      attachAttempts := inRange_of_count hd.attachAttempts ⟨by decide, by decide⟩
      attachRetry := inRange_of_positive hd.attachRetry ⟨by decide, by decide⟩
      checkInterval := inRange_of_positive hd.checkInterval ⟨by decide, by decide⟩
      lostAfter := inRange_of_count hd.lostAfter ⟨by decide, by decide⟩ }

/-! ### Writing and reading back -/

theorem get?_eq_of_stands {t? : Option Text} (h : env v = t?) (ht : ∀ t ∈ t?, t.Stands) :
    env.get? v = t? := by
  cases t? with
  | none => exact Environment.get?_of_none h
  | some t => exact Environment.get?_of_stands h (ht t rfl)

end Config

theorem Endpoint.display_ne_nil (e : Endpoint) : e.display ≠ [] := by
  cases e with
  | v4 i port => exact List.append_ne_nil_of_right_ne_nil _ (List.cons_ne_nil _ _)
  | v6 i scope port => exact List.cons_ne_nil _ _

theorem Endpoint.stands_display (e : Endpoint) : e.display.Stands where
  trimmed := Text.trim_of_not_isBlank e.isBlank_of_mem_display
  ne_nil := e.display_ne_nil

namespace Config

variable {env : Environment} {c : Config}

/-- **A configuration that can be written down is what its own environment describes.** -/
theorem ofEnvironment_toEnvironment (h : c.Describable) :
    ofEnvironment c.toEnvironment = .ok c := by
  refine ofEnvironment_eq_ok_iff.2 ?_
  exact
    { trigger := triggerOf_eq_ok_iff.2 ⟨get?_eq_of_stands rfl h.line, fun period hp =>
        positive_of_digits (by rw [toEnvironment, hp]; rfl) (h.period period hp)⟩
      listen := by
        rw [listenOf, Environment.get?_of_stands rfl c.listen.stands_display]
        simp only [Endpoint.ofText?_display]
      flushInterval := positive_of_digits rfl h.flushInterval
      attachAttempts := count_of_digits rfl h.attachAttempts
      attachRetry := positive_of_digits rfl h.attachRetry
      checkInterval := positive_of_digits rfl h.checkInterval
      lostAfter := count_of_digits rfl h.lostAfter
      stateDir := by rw [Environment.get?_of_stands rfl h.stateDir]; rfl
      namespaceName := by rw [Environment.get?_of_stands rfl h.namespaceName]; rfl
      name := by rw [Environment.get?_of_stands rfl h.name]; rfl
      indicatorPath := get?_eq_of_stands rfl h.indicatorPath
      linkInterface := get?_eq_of_stands rfl h.linkInterface }

/-- Some environment describes a configuration exactly if it can be written down. -/
theorem exists_ofEnvironment_iff : (∃ env, ofEnvironment env = .ok c) ↔ c.Describable :=
  ⟨fun ⟨_, h⟩ => describable_of_ofEnvironment h, fun h => ⟨_, ofEnvironment_toEnvironment h⟩⟩

/-- **A configuration that was read, written out and read again is the same.** -/
theorem reads_back (h : ofEnvironment env = .ok c) : ofEnvironment c.toEnvironment = .ok c :=
  ofEnvironment_toEnvironment (describable_of_ofEnvironment h)

/-- Blanks around the values, an address in another spelling than its own, a plus sign and zeros in
front of numbers, the largest number there is, and an interface that is blank. -/
theorem reads_back_spelled_otherwise :
    let env := Environment.ofList
      [("DOORMON_LISTEN_ADDR", "\u00a0[0:0:0:0:0:FFFF:102:304%007]:00080\u3000".toList),
        ("DOORMON_STATE_DIR", " /data ".toList),
        ("DOORMON_FLUSH_INTERVAL_MS", "+0018446744073709551615".toList),
        ("DOORMON_TRIGGER_LINE", "gpio 2".toList),
        ("DOORMON_LINK_INTERFACE", "\u2003".toList),
        ("DOORMON_LINK_LOST_AFTER", "4294967295".toList)]
    let c : Config :=
      { Config.standard with
        listen := .v6 ⟨[0, 0, 0, 0, 0, 0xFFFF, 0x102, 0x304], rfl⟩ 7 80
        stateDir := "/data".toList
        flushInterval := 18446744073709551615
        trigger := .line "gpio 2".toList 10
        policy.lostAfter := 4294967295 }
    ofEnvironment env = .ok c ∧
      c.toEnvironment .listenAddr = some "[::ffff:1.2.3.4%7]:80".toList ∧
      c.toEnvironment .triggerPoll = some "10".toList ∧
      ofEnvironment c.toEnvironment = .ok c := by
  intro env c
  have hread : ofEnvironment env = .ok c := rfl
  exact ⟨hread, by decide +kernel, by decide +kernel, reads_back hread⟩

end Config

end TriggerLatch
