import TriggerLatch.Store.Record

/-!
# Written words of JSON

What the scanner makes of words that were written from plain text: a plain character stands for
itself in a string (`Scanner.run_plain`), a number in decimal is one token (`Scanner.run_digits`),
and both read back as fields (`textOf?_ascii`, `nat?_digits`).
-/

namespace TriggerLatch

theorem ascii_append (s t : Text) : ascii (s ++ t) = ascii s ++ ascii t := List.map_append

namespace Json

/-- The character stands for itself in a string. -/
def isPlain (c : Char) : Bool := 0x20 ≤ c.toNat && c.toNat < 0x80 && c != '"' && c != '\\'

theorem toNat_byte {c : Char} (h : c.toNat < 0x80) : (byte c).toNat = c.toNat := by
  rw [byte, UInt8.toNat_ofNat']
  omega

theorem byte_inj {c d : Char} (hc : c.toNat < 0x80) (hd : d.toNat < 0x80) (h : byte c = byte d) :
    c = d := by
  have h' := congrArg UInt8.toNat h
  rw [toNat_byte hc, toNat_byte hd] at h'
  exact Char.toNat_inj.1 h'

namespace Scanner

variable (ts : List Token)

theorem run_append_of_eq_some {s s' : Scanner} {b : Bytes} (h : s.run b = some s') (c : Bytes) :
    s.run (b ++ c) = s'.run c := by
  rw [run_append, h, Option.bind_some]

/-! ### Strings -/

theorem step_plain {c : Char} (h : isPlain c = true) (raw : Bytes) :
    step ⟨.string raw .outside, ts⟩ (byte c) = some ⟨.string (byte c :: raw) .outside, ts⟩ := by
  simp only [isPlain, Bool.and_eq_true, decide_eq_true_eq, bne_iff_ne] at h
  obtain ⟨⟨⟨hlo, hhi⟩, hquote⟩, hslash⟩ := h
  have h1 : byte c ≠ byte '"' := fun e => hquote (byte_inj hhi (by decide) e)
  have h2 : byte c ≠ byte '\\' := fun e => hslash (byte_inj hhi (by decide) e)
  have h3 : ¬ byte c < 0x20 := by
    rw [UInt8.lt_iff_toNat_lt, toNat_byte hhi]
    exact Nat.not_lt.2 hlo
  simp [step, stepString, h1, h2, h3]

theorem run_plain {s : Text} (h : ∀ c ∈ s, isPlain c = true) (raw : Bytes) :
    run ⟨.string raw .outside, ts⟩ (ascii s) =
      some ⟨.string ((ascii s).reverse ++ raw) .outside, ts⟩ := by
  induction s generalizing raw with
  | nil => rfl
  | cons c r ih =>
    have hc := step_plain ts (h c (by simp)) raw
    have hr := ih (fun d hd => h d (by simp [hd])) (byte c :: raw)
    simp only [run, ascii, List.map_cons, List.foldlM_cons] at hr ⊢
    rw [hc]
    simpa using hr

/-! ### Numbers -/

theorem begin?_digitChar {n : Nat} (h : n < 10) :
    begin? (byte (Decimal.digitChar n)) =
      some (.number [byte (Decimal.digitChar n)] (if n = 0 then .zero else .whole), []) := by
  have : ∀ n < 10, begin? (byte (Decimal.digitChar n)) =
      some (.number [byte (Decimal.digitChar n)] (if n = 0 then .zero else .whole), []) := by decide
  exact this n h

theorem next?_digitChar {n : Nat} (h : n < 10) :
    NumberPart.whole.next? (byte (Decimal.digitChar n)) = some .whole := by
  have : ∀ n < 10, NumberPart.whole.next? (byte (Decimal.digitChar n)) = some .whole := by decide
  exact this n h

/-- A number in decimal is scanned to its end; only a zero may not go on. -/
theorem run_digits (n : Nat) :
    run ⟨.between, ts⟩ (ascii (Decimal.digits n)) =
      some ⟨.number (ascii (Decimal.digits n)).reverse (if n = 0 then .zero else .whole), ts⟩ := by
  fun_induction Decimal.digits n with
  | case1 n h =>
    simp [run, ascii, step, beginAt, begin?_digitChar h]
  | case2 n h ih =>
    rw [Decimal.base_eq] at h ih ⊢
    have h10 : n % 10 < 10 := Nat.mod_lt _ (by decide)
    have hq : n / 10 ≠ 0 := by omega
    have hn : n ≠ 0 := by omega
    -- the digits in front are no single zero, so the last one may follow
    rw [ascii_append, run_append, ih, Option.bind_some, if_neg hq, if_neg hn]
    simp [run, ascii, step, next?_digitChar h10]

end Scanner

/-! ### Reading fields back -/

theorem decodeFrom_ascii {s : Text} (h : ∀ c ∈ s, c.toNat < 0x80) :
    Utf8.decodeFrom 0 0 0 (ascii s) = some s := by
  induction s with
  | nil => rfl
  | cons c r ih =>
    have hc : c.toNat < 0x80 := h c (by simp)
    have hr := ih fun d hd => h d (by simp [hd])
    have hl : Utf8.lead? (byte c) = some (0, c.toNat) := by
      simp [Utf8.lead?, toNat_byte hc, hc]
    have ho : Utf8.charOf? 0 c.toNat = some c := dif_pos ⟨c.valid, Nat.zero_le _⟩
    simp only [ascii, List.map_cons] at hr ⊢
    simp [Utf8.decodeFrom, hl, ho, hr]

theorem unescape_of_no_backslash {s : Text} (h : '\\' ∉ s) : unescape s = some s := by
  induction s with
  | nil => rw [unescape]
  | cons c r ih =>
    have hc : c ≠ '\\' := fun e => h (by simp [e])
    rw [unescape]
    · simp [hc, ih fun k => h (List.mem_cons_of_mem _ k)]
    all_goals (intros; simp_all)

theorem textOf?_ascii {s : Text} (h : ∀ c ∈ s, isPlain c = true) : textOf? (ascii s) = some s := by
  have h80 : ∀ c ∈ s, c.toNat < 0x80 := by
    intro c hc
    have := h c hc
    simp only [isPlain, Bool.and_eq_true, decide_eq_true_eq] at this
    exact this.1.1.2
  have hb : '\\' ∉ s := fun hc => absurd (h _ hc) (by decide)
  rw [textOf?, Utf8.decode, decodeFrom_ascii h80, Option.bind_some, unescape_of_no_backslash hb]

theorem isPlain_of_isDigit {c : Char} (h : Decimal.isDigit c = true) : isPlain c = true := by
  have hq : c ≠ '"' := by rintro rfl; exact absurd h (by decide)
  have hs : c ≠ '\\' := by rintro rfl; exact absurd h (by decide)
  rw [Decimal.isDigit_iff] at h
  simp only [isPlain, Bool.and_eq_true, decide_eq_true_eq, bne_iff_ne]
  exact ⟨⟨⟨by omega, by omega⟩, hq⟩, hs⟩

theorem isDigit_byte {c : Char} (h : Decimal.isDigit c = true) : isDigit (byte c) = true := by
  rw [Decimal.isDigit_iff] at h
  have hc : (byte c).toNat = c.toNat := toNat_byte (by omega)
  simp only [isDigit, Bool.and_eq_true, decide_eq_true_eq, UInt8.le_iff_toNat_le, hc]
  exact h

theorem ofNat_byte {c : Char} (h : c.toNat < 0x80) : Char.ofNat (byte c).toNat = c := by
  rw [toNat_byte h, Char.ofNat_toNat]

/-- **A number up to the limit reads back.** -/
theorem nat?_digits {limit n : Nat} (h : n ≤ limit) :
    (Item.number (ascii (Decimal.digits n))).nat? limit = some n := by
  have hd := Decimal.isDigit_of_mem_digits n
  have hall : (ascii (Decimal.digits n)).all isDigit = true := by
    simp only [ascii, List.all_map, List.all_eq_true]
    exact fun c hc => isDigit_byte (hd c hc)
  have hback : (ascii (Decimal.digits n)).map (fun b => Char.ofNat b.toNat) = Decimal.digits n := by
    have hc : ∀ c ∈ Decimal.digits n, Char.ofNat (byte c).toNat = c := by
      intro c hc
      have hrange := Decimal.isDigit_iff.1 (hd c hc)
      exact ofNat_byte (by omega)
    rw [ascii, List.map_map]
    exact (List.map_congr_left hc).trans (List.map_id _)
  simp [Item.nat?, hall, hback, Decimal.value_digits, h]

end Json

end TriggerLatch
