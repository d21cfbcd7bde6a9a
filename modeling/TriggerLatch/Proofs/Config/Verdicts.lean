import TriggerLatch.Proofs.Config.RoundTrip

/-!
# Which environments describe a configuration

Six variables and, where a line is set, its sampling period are examined one after the other
(`Environment.examined`).  A variable that is set is `Proper` if it holds what it has to hold: an
address, or a number from one up to its limit; otherwise it `Offends`, each kind of offence with an
error of its own.

**A configuration is described exactly if every examined variable is proper; it then has what the
environment says and the documented defaults for the rest, and otherwise the first offence is
reported** (`ofEnvironment_decides`).  That a reader reports the first offence among some variables
is `Examines`, and readers put one after the other keep that (`Examines.bind`).
-/

namespace TriggerLatch

/-! ### Numbers -/

namespace Decimal

/-- The text is a number: at least one digit, with a plus sign in front or none. -/
def Denotes (t : Text) (n : Nat) : Prop :=
  ∃ ds, (t = ds ∨ t = '+' :: ds) ∧ ds ≠ [] ∧ (∀ c ∈ ds, Decimal.isDigit c = true) ∧
    Decimal.value ds = n

theorem denotes_cons_iff {c : Char} {r : Text} {n : Nat} :
    Denotes (c :: r) n ↔
      (c = '+' ∧ r ≠ [] ∧ (∀ x ∈ r, Decimal.isDigit x = true) ∧ Decimal.value r = n) ∨
        ((∀ x ∈ c :: r, Decimal.isDigit x = true) ∧ Decimal.value (c :: r) = n) := by
  constructor
  · rintro ⟨ds, rfl | h, hne, hd, hn⟩
    · exact .inr ⟨hd, hn⟩
    · obtain ⟨rfl, rfl⟩ := List.cons.inj h
      exact .inl ⟨rfl, hne, hd, hn⟩
  · rintro (⟨rfl, hne, hd, hn⟩ | ⟨hd, hn⟩)
    · exact ⟨r, .inr rfl, hne, hd, hn⟩
    · exact ⟨c :: r, .inl rfl, List.cons_ne_nil c r, hd, hn⟩

/-- **What is read**: the numbers up to the limit. -/
theorem read_eq_ok_iff {limit n : Nat} {t : Text} :
    read limit t = .ok n ↔ Denotes t n ∧ n ≤ limit := by
  have hplus : ¬ Decimal.isDigit '+' = true := by decide
  cases t with
  | nil => simp [read, Denotes]
  | cons c r =>
    rw [denotes_cons_iff]
    by_cases hc : c = '+'
    · subst hc
      cases r with
      | nil => simp [read, hplus]
      | cons c' r' =>
        rw [read, readFrom_eq_ok_iff (Nat.zero_le _)]
        · simp [Radix.value, hplus, and_assoc]
        · exact List.cons_ne_nil c' r'
    · rw [read, readFrom_eq_ok_iff (Nat.zero_le _)]
      · simp [Radix.value, hc, and_assoc]
      · exact List.cons_ne_nil c r
      · grind
      · grind

theorem Denotes.unique {t : Text} {n m : Nat} (h : Denotes t n) (h' : Denotes t m) : n = m := by
  have hn : read (n + m) t = .ok n := read_eq_ok_iff.2 ⟨h, by omega⟩
  have hm : read (n + m) t = .ok m := read_eq_ok_iff.2 ⟨h', by omega⟩
  exact Except.ok.inj (hn.symm.trans hm)

end Decimal

/-! ### Variables -/

namespace Variable

open Config

/-- The largest number that the variable may hold, if it holds a number. -/
def limit? : Variable → Option Nat
  | flushInterval | triggerPoll | attachRetry | linkCheck => some maxNumber
  | attachAttempts | linkLostAfter => some maxCount
  | _ => none

theorem limit_le {v : Variable} {limit : Nat} (h : v.limit? = some limit) : limit ≤ maxNumber := by
  cases v <;> cases h <;> decide

end Variable

namespace Environment

open Config

/-- The variables that are examined, in this order. -/
def examined (env : Environment) : List Variable :=
  (if env.get? .triggerLine = none then [] else [.triggerPoll]) ++
    [.listenAddr, .flushInterval, .attachAttempts, .attachRetry, .linkCheck, .linkLostAfter]

/-- The variable is unset, or it holds what it has to hold. -/
def Proper (env : Environment) (v : Variable) : Prop :=
  ∀ t, env.get? v = some t →
    (v = .listenAddr → ∃ e, Endpoint.ofText? t = some e) ∧
      ∀ limit, v.limit? = some limit → ∃ n, Decimal.Denotes t n ∧ InRange limit n

/-- What is wrong with a variable, and the error that it is reported as. -/
inductive Offends (env : Environment) : Variable → Error → Prop
  | address {t : Text} (set : env.get? .listenAddr = some t)
      (unread : Endpoint.ofText? t = none) :
      Offends env .listenAddr (.invalid .listenAddr t .notAnAddress)
  | unread {v : Variable} {limit : Nat} {t : Text} {e : Decimal.ReadError}
      (number : v.limit? = some limit) (set : env.get? v = some t)
      (unread : Decimal.read maxNumber t = .error e) : Offends env v (.invalid v t (.number e))
  | zero {v : Variable} {limit : Nat} {t : Text} (number : v.limit? = some limit)
      (set : env.get? v = some t) (reads : Decimal.Denotes t 0) : Offends env v (.zero v)
  /-- A number that can be read and is beyond the limit is reported as it is written. -/
  | tooLarge {v : Variable} {limit n : Nat} {t : Text} (number : v.limit? = some limit)
      (set : env.get? v = some t) (reads : Decimal.Denotes t n) (readable : n ≤ maxNumber)
      (beyond : limit < n) : Offends env v (.invalid v (Decimal.digits n) (.number .tooLarge))

/-- The first of the variables that is not proper offends in this way. -/
def FirstOffence (env : Environment) (vs : List Variable) (e : Error) : Prop :=
  ∃ before v after, vs = before ++ v :: after ∧ (∀ u ∈ before, env.Proper u) ∧ env.Offends v e

end Environment

namespace Config

/-- What a number is: what its variable holds, and the default where that is unset. -/
def NumberFrom (env : Environment) (v : Variable) (default n : Nat) : Prop :=
  (env.get? v = none ∧ n = default) ∨ ∃ t, env.get? v = some t ∧ Decimal.Denotes t n

/-- Each part of the configuration is what its variable says, or the documented default. -/
structure TakenFrom (env : Environment) (c : Config) : Prop where
  listen : (env.get? .listenAddr = none ∧ c.listen = .v4 ⟨0, 0, 0, 0⟩ 8080) ∨
    ∃ t, env.get? .listenAddr = some t ∧ Endpoint.ofText? t = some c.listen
  stateDir : c.stateDir = (env.get? .stateDir).getD "/var/lib/doormon".toList
  namespaceName : c.key.namespaceName = (env.get? .storeNamespace).getD "doormon".toList
  name : c.key.name = (env.get? .storeKey).getD "triggered".toList
  flushInterval : NumberFrom env .flushInterval 1000 c.flushInterval
  line : c.trigger.path? = env.get? .triggerLine
  period : ∀ period ∈ c.trigger.period?, NumberFrom env .triggerPoll 10 period
  indicatorPath : c.indicatorPath = env.get? .indicatorPath
  linkInterface : c.linkInterface = env.get? .linkInterface
  attachAttempts : NumberFrom env .attachAttempts 5 c.policy.attachAttempts
  attachRetry : NumberFrom env .attachRetry 2000 c.policy.attachRetry
  checkInterval : NumberFrom env .linkCheck 5000 c.policy.checkInterval
  lostAfter : NumberFrom env .linkLostAfter 3 c.policy.lostAfter

end Config

/-! ### Offences -/

namespace Environment

open Config

variable {env : Environment} {v : Variable} {e e' : Error}

theorem proper_of_unset (h : env.get? v = none) : env.Proper v :=
  fun _ ht => nomatch h.symm.trans ht

theorem proper_of_number {t : Text} {n limit : Nat} (hget : env.get? v = some t)
    (hv : v.limit? = some limit) (hn : Decimal.Denotes t n) (hrange : InRange limit n) :
    env.Proper v := by
  intro t' ht'
  obtain rfl := Option.some.inj (hget.symm.trans ht')
  refine ⟨?_, fun limit' hlimit' => ?_⟩
  · rintro rfl
    cases hv
  · obtain rfl := Option.some.inj (hv.symm.trans hlimit')
    exact ⟨n, hn, hrange⟩

theorem proper_of_address {t : Text} {a : Endpoint} (hget : env.get? .listenAddr = some t)
    (ha : Endpoint.ofText? t = some a) : env.Proper .listenAddr := by
  intro t' ht'
  obtain rfl := Option.some.inj (hget.symm.trans ht')
  exact ⟨fun _ => ⟨a, ha⟩, nofun⟩

theorem Offends.not_proper (h : env.Offends v e) : ¬ env.Proper v := by
  intro hp
  cases h with
  | address set unread =>
    obtain ⟨e, he⟩ := (hp _ set).1 rfl
    cases unread.symm.trans he
  | unread number set unread =>
    obtain ⟨n, hn, hpos, hle⟩ := (hp _ set).2 _ number
    have hread := Decimal.read_eq_ok_iff.2 ⟨hn, Nat.le_trans hle (Variable.limit_le number)⟩
    cases unread.symm.trans hread
  | zero number set reads =>
    obtain ⟨n, hn, hpos, hle⟩ := (hp _ set).2 _ number
    exact Nat.ne_of_gt hpos (hn.unique reads)
  | tooLarge number set reads readable beyond =>
    obtain ⟨n, hn, hpos, hle⟩ := (hp _ set).2 _ number
    obtain rfl := hn.unique reads
    exact Nat.not_lt.2 hle beyond

theorem Offends.of_reads {t : Text} {n : Nat} (h : env.Offends v e) (set : env.get? v = some t)
    (hv : v ≠ .listenAddr) (reads : Decimal.Denotes t n) (readable : n ≤ maxNumber) :
    (n = 0 ∧ e = .zero v) ∨
      (0 < n ∧ e = .invalid v (Decimal.digits n) (.number .tooLarge)) := by
  cases h with
  | address => exact absurd rfl hv
  | unread number set' unread =>
    obtain rfl := Option.some.inj (set.symm.trans set')
    cases unread.symm.trans (Decimal.read_eq_ok_iff.2 ⟨reads, readable⟩)
  | zero number set' reads' =>
    obtain rfl := Option.some.inj (set.symm.trans set')
    exact .inl ⟨reads.unique reads', rfl⟩
  | tooLarge number set' reads' readable' beyond =>
    obtain rfl := Option.some.inj (set.symm.trans set')
    obtain rfl := reads.unique reads'
    exact .inr ⟨Nat.zero_lt_of_lt beyond, rfl⟩

theorem Offends.unique (h : env.Offends v e) (h' : env.Offends v e') : e = e' := by
  have hnumber {limit : Nat} (number : v.limit? = some limit) : v ≠ .listenAddr := by
    rintro rfl
    cases number
  cases h with
  | address set unread =>
    cases h' with
    | address set' unread' =>
      obtain rfl := Option.some.inj (set.symm.trans set')
      rfl
    | unread number | zero number | tooLarge number => exact absurd rfl (hnumber number)
  | unread number set unread =>
    cases h' with
    | address => exact absurd rfl (hnumber number)
    | unread number' set' unread' =>
      obtain rfl := Option.some.inj (set.symm.trans set')
      obtain rfl := Except.error.inj (unread.symm.trans unread')
      rfl
    | zero _ set' reads =>
      obtain rfl := Option.some.inj (set.symm.trans set')
      cases unread.symm.trans (Decimal.read_eq_ok_iff.2 ⟨reads, Nat.zero_le _⟩)
    | tooLarge _ set' reads readable =>
      obtain rfl := Option.some.inj (set.symm.trans set')
      cases unread.symm.trans (Decimal.read_eq_ok_iff.2 ⟨reads, readable⟩)
  | zero number set reads =>
    rcases h'.of_reads set (hnumber number) reads (Nat.zero_le _) with ⟨-, rfl⟩ | ⟨hpos, -⟩
    · rfl
    · exact absurd hpos (Nat.lt_irrefl 0)
  | tooLarge number set reads readable beyond =>
    rcases h'.of_reads set (hnumber number) reads readable with ⟨rfl, -⟩ | ⟨-, rfl⟩
    · exact absurd beyond (Nat.not_lt_zero _)
    · rfl

theorem firstOffence_singleton : env.FirstOffence [v] e ↔ env.Offends v e := by
  constructor
  · rintro ⟨before, u, after, h, -, ho⟩
    cases before with
    | nil =>
      obtain ⟨rfl, -⟩ := List.cons.inj h
      exact ho
    | cons w ws => simp at h
  · exact fun h => ⟨[], v, [], rfl, nofun, h⟩

theorem firstOffence_append {us vs : List Variable} :
    env.FirstOffence (us ++ vs) e ↔
      env.FirstOffence us e ∨ ((∀ u ∈ us, env.Proper u) ∧ env.FirstOffence vs e) := by
  constructor
  · rintro ⟨before, v, after, h, hbefore, ho⟩
    rcases List.append_eq_append_iff.1 h with ⟨rest, rfl, hvs⟩ | ⟨rest, rfl, hrest⟩
    · exact .inr ⟨fun u hu => hbefore u (List.mem_append_left _ hu), rest, v, after, hvs,
        fun u hu => hbefore u (List.mem_append_right _ hu), ho⟩
    · cases rest with
      | nil =>
        rw [List.append_nil]
        exact .inr ⟨hbefore, [], v, after, hrest.symm, nofun, ho⟩
      | cons w ws =>
        obtain ⟨rfl, -⟩ := List.cons.inj hrest
        exact .inl ⟨before, v, ws, rfl, hbefore, ho⟩
  · rintro (⟨before, v, after, rfl, hbefore, ho⟩ | ⟨hus, before, v, after, rfl, hbefore, ho⟩)
    · exact ⟨before, v, after ++ vs, by simp, hbefore, ho⟩
    · refine ⟨us ++ before, v, after, by simp, fun u hu => ?_, ho⟩
      rcases List.mem_append.1 hu with hu | hu
      · exact hus u hu
      · exact hbefore u hu

end Environment

/-! ### Readers -/

namespace Config

variable {env : Environment} {v : Variable} {us vs : List Variable} {α β : Type}

/-- What is read depends on these variables: there is a result exactly if all of them are proper,
and otherwise the first offence among them is reported. -/
structure Examines (env : Environment) (vs : List Variable) (x : Except Error α) : Prop where
  ok_iff : (∃ a, x = .ok a) ↔ ∀ v ∈ vs, env.Proper v
  error_iff : ∀ e, x = .error e ↔ env.FirstOffence vs e

theorem examines_ok (env : Environment) (a : α) : Examines env [] (.ok a : Except Error α) where
  ok_iff := ⟨fun _ => nofun, fun _ => ⟨a, rfl⟩⟩
  error_iff e := by
    refine ⟨nofun, ?_⟩
    rintro ⟨before, v, after, h, -⟩
    simp at h

theorem examines_of_proper (h : env.Proper v) (a : α) :
    Examines env [v] (.ok a : Except Error α) where
  ok_iff := ⟨fun _ => by simpa using h, fun _ => ⟨a, rfl⟩⟩
  error_iff e := by
    rw [Environment.firstOffence_singleton]
    exact ⟨nofun, fun ho => absurd h ho.not_proper⟩

theorem examines_of_offends {e : Error} (h : env.Offends v e) :
    Examines env [v] (.error e : Except Error α) where
  ok_iff := ⟨nofun, fun hp => absurd (hp v List.mem_cons_self) h.not_proper⟩
  error_iff e' := by
    rw [Environment.firstOffence_singleton]
    constructor
    · intro he
      obtain rfl := Except.error.inj he
      exact h
    · exact fun h' => congrArg _ (h.unique h')

/-- **Two readers one after the other** examine the variables of the first, then those of the
second. -/
theorem Examines.bind {x : Except Error α} {f : α → Except Error β} (hx : Examines env us x)
    (hf : ∀ a, Examines env vs (f a)) : Examines env (us ++ vs) (x >>= f) := by
  cases hxa : x with
  | error e =>
    -- the second reader is not come to
    have hnot : ¬ ∀ u ∈ us, env.Proper u := by
      intro hp
      obtain ⟨a, ha⟩ := hx.ok_iff.2 hp
      cases hxa.symm.trans ha
    refine ⟨⟨nofun, fun hp => absurd (fun u hu => hp u (List.mem_append_left _ hu)) hnot⟩,
      fun e' => ?_⟩
    rw [Environment.firstOffence_append, ← hx.error_iff, hxa]
    exact ⟨fun h => .inl (congrArg _ (Except.error.inj h)), fun h => h.elim
      (fun h => congrArg _ (Except.error.inj h)) fun h => absurd h.1 hnot⟩
  | ok a =>
    -- whatever is wrong is wrong with the variables of the second
    have hall : ∀ u ∈ us, env.Proper u := hx.ok_iff.1 ⟨a, hxa⟩
    have hnone : ∀ e, ¬ env.FirstOffence us e := by
      intro e he
      cases hxa.symm.trans ((hx.error_iff e).2 he)
    refine ⟨(hf a).ok_iff.trans ⟨fun hp u hu => ?_, fun hp v hv => ?_⟩, fun e => ?_⟩
    · exact (List.mem_append.1 hu).elim (hall u) (hp u)
    · exact hp v (List.mem_append_right _ hv)
    · rw [Environment.firstOffence_append]
      refine ((hf a).error_iff e).trans ⟨fun h => .inr ⟨hall, h⟩, fun h => ?_⟩
      exact h.elim (fun h => absurd h (hnone e)) And.right

/-- **What reading a number comes to**: the default, the number that is there, or an offence. -/
theorem positive_cases {limit : Nat} (default : Nat) (hv : v.limit? = some limit) :
    (env.get? v = none ∧ positive env v default = .ok default) ∨
      (∃ t n, env.get? v = some t ∧ Decimal.Denotes t n ∧ InRange maxNumber n ∧
        positive env v default = .ok n) ∨
      ∃ e, env.Offends v e ∧ positive env v default = .error e := by
  unfold positive
  cases hget : env.get? v with
  | none => exact .inl ⟨rfl, rfl⟩
  | some t =>
    cases hread : Decimal.read maxNumber t with
    | error e =>
      refine .inr (.inr ⟨_, .unread hv hget hread, ?_⟩)
      simp only [hread]
    | ok n =>
      obtain ⟨hn, hle⟩ := Decimal.read_eq_ok_iff.1 hread
      cases n with
      | zero =>
        refine .inr (.inr ⟨_, .zero hv hget hn, ?_⟩)
        simp only [hread]
      | succ n =>
        refine .inr (.inl ⟨t, n + 1, rfl, hn, ⟨Nat.succ_pos n, hle⟩, ?_⟩)
        simp only [hread]

theorem examines_positive (default : Nat) (hv : v.limit? = some maxNumber) :
    Examines env [v] (positive env v default) := by
  rcases positive_cases default hv with ⟨hget, h⟩ | ⟨t, n, hget, hn, hrange, h⟩ | ⟨e, ho, h⟩ <;>
    rw [h]
  · exact examines_of_proper (Environment.proper_of_unset hget) _
  · exact examines_of_proper (Environment.proper_of_number hget hv hn hrange) _
  · exact examines_of_offends ho

theorem examines_count {default : Nat} (hdefault : default ≤ maxCount)
    (hv : v.limit? = some maxCount) : Examines env [v] (count env v default) := by
  rcases positive_cases default hv with ⟨hget, h⟩ | ⟨t, n, hget, hn, hrange, h⟩ | ⟨e, ho, h⟩
  · rw [count_eq_ok_iff.2 ⟨h, hdefault⟩]
    exact examines_of_proper (Environment.proper_of_unset hget) _
  · by_cases hle : n ≤ maxCount
    · rw [count_eq_ok_iff.2 ⟨h, hle⟩]
      exact examines_of_proper (Environment.proper_of_number hget hv hn ⟨hrange.1, hle⟩) _
    · have hcount : count env v default =
          .error (.invalid v (Decimal.digits n) (.number .tooLarge)) := by
        rw [count, h]
        exact if_neg hle
      rw [hcount]
      exact examines_of_offends (.tooLarge hv hget hn hrange.2 (Nat.lt_of_not_le hle))
  · rw [count, h]
    exact examines_of_offends ho

theorem examines_listenOf : Examines env [.listenAddr] (listenOf env) := by
  unfold listenOf
  cases hget : env.get? .listenAddr with
  | none => exact examines_of_proper (Environment.proper_of_unset hget) _
  | some t =>
    cases hread : Endpoint.ofText? t with
    | none =>
      simp only [hread]
      exact examines_of_offends (.address hget hread)
    | some e =>
      simp only [hread]
      exact examines_of_proper (Environment.proper_of_address hget hread) _

theorem examines_triggerOf :
    Examines env (if env.get? .triggerLine = none then [] else [.triggerPoll]) (triggerOf env) := by
  unfold triggerOf
  cases hline : env.get? .triggerLine with
  | none => exact examines_ok env _
  | some path => exact (examines_positive standardPollPeriod rfl).bind fun _ => examines_ok env _

/-- **The variables are examined in their order.** -/
theorem examines_ofEnvironment : Examines env env.examined (ofEnvironment env) :=
  examines_triggerOf.bind fun _ => examines_listenOf.bind fun _ =>
    (examines_positive _ rfl).bind fun _ => (examines_count (by decide) rfl).bind fun _ =>
      (examines_positive _ rfl).bind fun _ => (examines_positive _ rfl).bind fun _ =>
        (examines_count (by decide) rfl).bind fun _ => examines_ok env _

/-! ### What is accepted -/

theorem numberFrom_of_positive {default n : Nat} (h : positive env v default = .ok n) :
    NumberFrom env v default n := by
  rcases positive_eq_ok_iff.1 h with h | ⟨t, hget, hread, -⟩
  · exact .inl h
  · exact .inr ⟨t, hget, (Decimal.read_eq_ok_iff.1 hread).1⟩

theorem numberFrom_of_count {default n : Nat} (h : count env v default = .ok n) :
    NumberFrom env v default n :=
  numberFrom_of_positive (count_eq_ok_iff.1 h).1

theorem listenOf_eq_ok {a : Endpoint} (h : listenOf env = .ok a) :
    (env.get? .listenAddr = none ∧ a = standardListen) ∨
      ∃ t, env.get? .listenAddr = some t ∧ Endpoint.ofText? t = some a := by
  unfold listenOf at h
  cases hget : env.get? .listenAddr with
  | none =>
    rw [hget] at h
    exact .inl ⟨rfl, (Except.ok.inj h).symm⟩
  | some t =>
    simp only [hget] at h
    cases hread : Endpoint.ofText? t with
    | none => simp [hread] at h
    | some a' =>
      simp only [hread] at h
      exact .inr ⟨t, rfl, (Except.ok.inj h) ▸ hread⟩

theorem takenFrom_of_ofEnvironment {c : Config} (h : ofEnvironment env = .ok c) :
    TakenFrom env c := by
  have hd := ofEnvironment_eq_ok_iff.1 h
  obtain ⟨hline, hperiod⟩ := triggerOf_eq_ok_iff.1 hd.trigger
  exact
    { listen := listenOf_eq_ok hd.listen
      stateDir := hd.stateDir.symm
      namespaceName := hd.namespaceName.symm
      name := hd.name.symm
      flushInterval := numberFrom_of_positive hd.flushInterval
      line := hline.symm
      period := fun period hp => numberFrom_of_positive (hperiod period hp)
      indicatorPath := hd.indicatorPath.symm
      linkInterface := hd.linkInterface.symm
      attachAttempts := numberFrom_of_count hd.attachAttempts
      attachRetry := numberFrom_of_positive hd.attachRetry
      checkInterval := numberFrom_of_positive hd.checkInterval
      lostAfter := numberFrom_of_count hd.lostAfter }

/-- **An environment describes a configuration, or its first offence is reported.**  It describes
one exactly if every variable that is examined is proper.  The configuration then has what the
variables hold, and the documented defaults for those that are unset; in particular no interval and
no count is zero.  Otherwise the error is that of the first variable, in the order in which they are
examined, that is not proper. -/
theorem ofEnvironment_decides (env : Environment) :
    ((∃ c, ofEnvironment env = .ok c) ↔ ∀ v ∈ env.examined, env.Proper v) ∧
      (∀ c, ofEnvironment env = .ok c → TakenFrom env c ∧ c.Describable) ∧
      ∀ e, ofEnvironment env = .error e ↔ env.FirstOffence env.examined e :=
  ⟨examines_ofEnvironment.ok_iff,
    fun _ h => ⟨takenFrom_of_ofEnvironment h, describable_of_ofEnvironment h⟩,
    examines_ofEnvironment.error_iff⟩

/-- A line with a sampling period, a flush interval as long as there is, and then one attempt too
many, which is reported without the sign and the zero before it.  The interval between checks, which
is none, is not come to. -/
theorem ofEnvironment_decides_too_many_attempts :
    let env := Environment.ofList
      [("DOORMON_TRIGGER_LINE", "gpio".toList), ("DOORMON_TRIGGER_POLL_MS", " 25\n".toList),
        ("DOORMON_LISTEN_ADDR", "\u2003".toList),
        ("DOORMON_FLUSH_INTERVAL_MS", "18446744073709551615".toList),
        ("DOORMON_ATTACH_ATTEMPTS", "+04294967296".toList), ("DOORMON_LINK_CHECK_MS", "0".toList)]
    let e := Error.invalid .attachAttempts "4294967296".toList (.number .tooLarge)
    ofEnvironment env = .error e ∧ env.FirstOffence env.examined e ∧
      ¬ ∀ v ∈ env.examined, env.Proper v := by
  intro env e
  have hdigits : Decimal.digits 4294967296 = "4294967296".toList := by decide +kernel
  have hread : ofEnvironment env =
      .error (.invalid .attachAttempts (Decimal.digits 4294967296) (.number .tooLarge)) := rfl
  rw [hdigits] at hread
  obtain ⟨hok, -, herror⟩ := ofEnvironment_decides env
  refine ⟨hread, (herror e).1 hread, fun hproper => ?_⟩
  obtain ⟨c, hc⟩ := hok.2 hproper
  cases hread.symm.trans hc

end Config

end TriggerLatch
