import Mathlib.Data.List.DropRight
import TriggerLatch.Monitor.Settings

/-!
# Normal forms of base addresses

A base address is in normal form when there is a scheme in it, nothing blank at either end and no
slash at its end; **the addresses that normalising leaves as they are are exactly these**
(`BaseUrl.normalise_eq_self_iff`).

Normalising takes the blanks off first and the slashes behind the address then, each of them once.
So a blank that stands in front of those slashes comes to the end of the address and stays
(`BaseUrl.HidesBlank`).  **For a typed address that does not hide a blank so, and for no other,
normalising reaches the normal form** (`BaseUrl.ofAddress_normal_iff`).
-/

namespace TriggerLatch

namespace Text

/-! ### The ends of a text -/

/-- The text begins with a blank. -/
def beginsBlank (s : Text) : Bool := s.head?.any isBlank

/-- The text ends with a blank. -/
def endsBlank (s : Text) : Bool := s.getLast?.any isBlank

variable {s t : Text} {p : Char → Bool}

theorem rdropWhile_append (hs : s.getLast?.any p = false) (ht : ∀ c ∈ t, p c = true) :
    (s ++ t).rdropWhile p = s := by
  have hkept : s.reverse.dropWhile p = s.reverse := by
    rw [← List.head?_reverse] at hs
    cases hr : s.reverse with
    | nil => rfl
    | cons c r =>
      rw [hr] at hs
      exact List.dropWhile_cons_of_neg (by simpa using hs)
  rw [List.rdropWhile, List.reverse_append,
    List.dropWhile_append_of_pos fun c hc => ht c (List.mem_reverse.1 hc), hkept,
    List.reverse_reverse]

theorem any_getLast?_append (s : Text) (ht : t ≠ []) (p : Char → Bool) :
    (s ++ t).getLast?.any p = t.getLast?.any p := by
  rw [List.getLast?_append_of_ne_nil _ ht]

theorem rdropWhile_eq_self (hs : s.getLast?.any p = false) : s.rdropWhile p = s := by
  simpa using rdropWhile_append hs (t := []) (by simp)

theorem getLast?_rdropWhile (s : Text) (p : Char → Bool) :
    (s.rdropWhile p).getLast?.any p = false := by
  by_cases hne : s.rdropWhile p = []
  · rw [hne]
    rfl
  · rw [List.getLast?_eq_some_getLast hne]
    simpa using List.rdropWhile_last_not p s hne

theorem beginsBlank_trim (s : Text) : (trim s).beginsBlank = false := by
  cases h : trim s with
  | nil => rfl
  | cons c r =>
    obtain ⟨t, ht, -⟩ := exists_eq_trimEnd_append (trimStart s)
    have hc : isBlank c = false := not_isBlank_head_trimStart (s := s) (r := r ++ t) (by
      rw [ht, ← List.cons_append, ← h]
      rfl)
    simpa [beginsBlank] using hc

theorem endsBlank_trim (s : Text) : (trim s).endsBlank = false :=
  getLast?_rdropWhile (trimStart s) isBlank

/-- **A text is trimmed exactly if it neither begins nor ends with a blank.** -/
theorem trim_eq_self_iff : trim s = s ↔ s.beginsBlank = false ∧ s.endsBlank = false := by
  constructor
  · intro h
    rw [← h]
    exact ⟨beginsBlank_trim s, endsBlank_trim s⟩
  · rintro ⟨hbegin, hend⟩
    have hstart : trimStart s = s := by
      cases s with
      | nil => rfl
      | cons c r => exact List.dropWhile_cons_of_neg (by simpa [beginsBlank] using hbegin)
    rw [trim, hstart]
    exact rdropWhile_eq_self hend

theorem countP_trim_lt (h : trim s ≠ s) : (trim s).countP isBlank < s.countP isBlank := by
  obtain ⟨l, r, hs, hl, hr⟩ := eq_trim_surrounded s
  have hcount := congrArg (List.countP isBlank) hs
  rw [List.countP_append, List.countP_append, List.countP_eq_length.2 hl,
    List.countP_eq_length.2 hr] at hcount
  have hsome : l.length + r.length ≠ 0 := by
    intro hzero
    obtain rfl := List.length_eq_zero_iff.1 (Nat.eq_zero_of_add_eq_zero hzero).1
    obtain rfl := List.length_eq_zero_iff.1 (Nat.eq_zero_of_add_eq_zero hzero).2
    exact h (by simpa using hs.symm)
  omega

end Text

namespace BaseUrl

open Text

variable {s : Text}

/-! ### What is left of an address -/

theorem getLast?_ne_slash_iff : s.getLast? ≠ some '/' ↔ s.getLast?.any (· == '/') = false := by
  cases s.getLast? <;> simp

theorem dropSlashes_ends (s : Text) : (dropSlashes s).getLast? ≠ some '/' :=
  getLast?_ne_slash_iff.2 (getLast?_rdropWhile s _)

theorem dropSlashes_eq_self (h : s.getLast? ≠ some '/') : dropSlashes s = s :=
  rdropWhile_eq_self (getLast?_ne_slash_iff.1 h)

/-- What is left of an address before its scheme is looked for. -/
def bare (raw : Text) : Text := dropSlashes raw.trim

theorem normalise_eq (raw : Text) :
    normalise raw =
      if contains schemeMark (bare raw) then bare raw else defaultScheme ++ bare raw :=
  rfl

theorem baseUrl_ofAddress (raw : Text) :
    (Monitor.Settings.ofAddress raw).baseUrl = normalise raw := rfl

theorem bare_isPrefix (raw : Text) : bare raw <+: raw.trim := List.rdropWhile_prefix _ _

/-- **There is a scheme in every normalised address.** -/
theorem schemeMark_infix_normalise (raw : Text) : schemeMark <:+: normalise raw := by
  rw [normalise_eq]
  split
  · next h => exact contains_iff.1 h
  · exact ⟨"http".toList, bare raw, rfl⟩

theorem getLast?_normalise {raw : Text} (h : bare raw ≠ []) :
    (normalise raw).getLast? = (bare raw).getLast? := by
  rw [normalise_eq]
  split
  · rfl
  · rw [List.getLast?_append_of_ne_nil _ h]

theorem beginsBlank_bare (raw : Text) : (bare raw).beginsBlank = false := by
  cases hb : bare raw with
  | nil => rfl
  | cons c r =>
    obtain ⟨t, ht⟩ := bare_isPrefix raw
    have htrim := beginsBlank_trim raw
    rw [← ht, hb] at htrim
    simpa [beginsBlank] using htrim

theorem beginsBlank_normalise (raw : Text) : (normalise raw).beginsBlank = false := by
  rw [normalise_eq]
  split
  · exact beginsBlank_bare raw
  · rfl

theorem countP_normalise_le (raw : Text) :
    (normalise raw).countP isBlank ≤ raw.trim.countP isBlank := by
  have hbare : (bare raw).countP isBlank ≤ raw.trim.countP isBlank :=
    (bare_isPrefix raw).sublist.countP_le
  have hscheme : defaultScheme.countP isBlank = 0 := by decide
  rw [normalise_eq]
  split
  · exact hbare
  · rwa [List.countP_append, hscheme, Nat.zero_add]

/-- **The addresses that normalising leaves as they are.** -/
theorem normalise_eq_self_iff :
    normalise s = s ↔
      schemeMark <:+: s ∧ s.beginsBlank = false ∧ s.endsBlank = false ∧ s.getLast? ≠ some '/' := by
  constructor
  · intro h
    -- with a blank less the address would not be the same
    have htrim : s.trim = s := by
      by_contra hne
      have hlt := countP_trim_lt hne
      have hle := countP_normalise_le s
      rw [h] at hle
      omega
    obtain ⟨hbegin, hend⟩ := trim_eq_self_iff.1 htrim
    refine ⟨h ▸ schemeMark_infix_normalise s, hbegin, hend, ?_⟩
    by_cases hbare : bare s = []
    · -- only the default scheme would be left, and of that something is left
      have hs : s = defaultScheme := by
        rw [← h, normalise_eq, hbare]
        rfl
      subst hs
      exact absurd hbare (by decide)
    · rw [← h, getLast?_normalise hbare]
      exact dropSlashes_ends _
  · rintro ⟨hscheme, hbegin, hend, hslash⟩
    have hbare : bare s = s := by
      rw [bare, trim_eq_self_iff.2 ⟨hbegin, hend⟩, dropSlashes_eq_self hslash]
    rw [normalise_eq, hbare, if_pos (contains_iff.2 hscheme)]

/-! ### Hidden blanks -/

theorem exists_eq_bare_append (raw : Text) :
    ∃ slashes, raw.trim = bare raw ++ slashes ∧ ∀ c ∈ slashes, c = '/' :=
  ⟨raw.trim.rtakeWhile (· == '/'), (List.rdropWhile_append_rtakeWhile ..).symm,
    fun _ hc => by simpa using List.mem_rtakeWhile_imp hc⟩

theorem dropSlashes_append {slashes : Text} (hs : s.getLast? ≠ some '/')
    (h : ∀ c ∈ slashes, c = '/') : dropSlashes (s ++ slashes) = s :=
  rdropWhile_append (getLast?_ne_slash_iff.1 hs) fun c hc => beq_iff_eq.2 (h c hc)

theorem endsBlank_slashes {slashes : Text} (h : ∀ c ∈ slashes, c = '/') :
    slashes.endsBlank = false := by
  cases hl : slashes.getLast? with
  | none => rw [endsBlank, hl, Option.any_none]
  | some c =>
    obtain rfl := h c (List.mem_of_getLast? hl)
    rw [endsBlank, hl]
    rfl

/-- A blank stands right in front of the slashes at the end of the address; there may be more
blanks behind them. -/
def HidesBlank (raw : Text) : Prop :=
  ∃ front blank slashes blanks, raw = front ++ blank :: (slashes ++ blanks) ∧
    isBlank blank = true ∧ slashes ≠ [] ∧ (∀ c ∈ slashes, c = '/') ∧
    ∀ c ∈ blanks, isBlank c = true

theorem endsBlank_bare_iff {raw : Text} (h : bare raw ≠ []) :
    (bare raw).endsBlank = true ↔ HidesBlank raw := by
  obtain ⟨l, r, hraw, -, hr⟩ := eq_trim_surrounded raw
  obtain ⟨slashes, htrim, hslashes⟩ := exists_eq_bare_append raw
  constructor
  · intro hend
    obtain ⟨c, hc, hblank⟩ := (Option.any_eq_true _ _).1 hend
    obtain ⟨init, hinit⟩ := List.getLast?_eq_some_iff.1 hc
    refine ⟨l ++ init, c, slashes, r, ?_, hblank, ?_, hslashes, hr⟩
    · rw [hraw, htrim, hinit]
      simp
    · -- a text that is trimmed does not end in a blank
      rintro rfl
      rw [List.append_nil] at htrim
      rw [← htrim, endsBlank_trim] at hend
      cases hend
  · rintro ⟨front, blank, slashes', blanks, hraw', hblank, hne, hslashes', hblanks⟩
    have htrimmed : trim raw ≠ [] := fun hnil => h (List.prefix_nil.1 (hnil ▸ bare_isPrefix raw))
    have hbareEnd : (l ++ bare raw).getLast? = (bare raw).getLast? :=
      List.getLast?_append_of_ne_nil _ h
    have hblankEnd : (front ++ [blank]).getLast? ≠ some '/' := by
      rw [List.getLast?_concat]
      rintro ⟨⟩
      cases hblank
    -- the blanks behind come off both texts, and then the slashes
    have hslashed : front ++ [blank] ++ slashes' = l ++ trim raw := by
      have hleft : (front ++ [blank] ++ slashes').getLast?.any isBlank = false :=
        (any_getLast?_append _ hne _).trans (endsBlank_slashes hslashes')
      have hright : (l ++ trim raw).getLast?.any isBlank = false :=
        (any_getLast?_append _ htrimmed _).trans (endsBlank_trim raw)
      rw [← rdropWhile_append hleft hblanks, ← rdropWhile_append hright hr, ← hraw, hraw']
      simp
    have hsame : front ++ [blank] = l ++ bare raw := by
      rw [htrim, ← List.append_assoc] at hslashed
      rw [← dropSlashes_append hblankEnd hslashes', hslashed, dropSlashes_append _ hslashes]
      rw [hbareEnd]
      exact dropSlashes_ends _
    rw [endsBlank, ← hbareEnd, ← hsame, List.getLast?_concat]
    exact hblank

/-- **Normalising reaches the normal form**, unless the typed address hides a blank.  A scheme, a
beginning without blanks and an end without slashes are always reached. -/
theorem ofAddress_normal_iff (raw : Text) (h : dropSlashes raw.trim ≠ []) :
    let base := (Monitor.Settings.ofAddress raw).baseUrl
    (schemeMark <:+: base ∧ base.beginsBlank = false ∧ base.getLast? ≠ some '/') ∧
      (base.endsBlank = false ↔ ¬ HidesBlank raw) ∧
      ((Monitor.Settings.ofAddress base).baseUrl = base ↔ ¬ HidesBlank raw) := by
  intro base
  have hscheme : schemeMark <:+: base := schemeMark_infix_normalise raw
  have hbegin : base.beginsBlank = false := beginsBlank_normalise raw
  have hlast : base.getLast? = (bare raw).getLast? := getLast?_normalise h
  have hslash : base.getLast? ≠ some '/' := hlast ▸ dropSlashes_ends _
  have hend : base.endsBlank = false ↔ ¬ HidesBlank raw := by
    rw [endsBlank, hlast, ← endsBlank_bare_iff h, Bool.not_eq_true]
    rfl
  have hnormal : (Monitor.Settings.ofAddress base).baseUrl = base ↔ ¬ HidesBlank raw := by
    rw [baseUrl_ofAddress, normalise_eq_self_iff, ← hend]
    exact ⟨fun hn => hn.2.2.1, fun he => ⟨hscheme, hbegin, he, hslash⟩⟩
  exact ⟨⟨hscheme, hbegin, hslash⟩, hend, hnormal⟩

/-- Blanks around an address and slashes behind it hide nothing. -/
theorem ofAddress_normal_bare_host :
    let raw : Text := "\u3000door.local:8080// ".toList
    let base := (Monitor.Settings.ofAddress raw).baseUrl
    dropSlashes raw.trim ≠ [] ∧ base = "http://door.local:8080".toList ∧ ¬ HidesBlank raw ∧
      (Monitor.Settings.ofAddress base).baseUrl = base := by
  intro raw base
  have hne : dropSlashes raw.trim ≠ [] := by decide
  have hbase : base = "http://door.local:8080".toList := by decide
  obtain ⟨-, hends, hnormal⟩ := ofAddress_normal_iff raw hne
  have hhides : ¬ HidesBlank raw := hends.1 (by decide)
  exact ⟨hne, hbase, hhides, hnormal.2 hhides⟩

/-- **A blank in front of the last slash stays**, and normalising again takes it away. -/
theorem ofAddress_keeps_blank :
    let raw : Text := "door.local /".toList
    let base := (Monitor.Settings.ofAddress raw).baseUrl
    dropSlashes raw.trim ≠ [] ∧ base = "http://door.local ".toList ∧ base.endsBlank = true ∧
      (Monitor.Settings.ofAddress base).baseUrl = "http://door.local".toList ∧
      (Monitor.Settings.ofAddress base).baseUrl ≠ base := by
  decide

end BaseUrl

end TriggerLatch
