import TriggerLatch.Net.Endpoint.Reader

/-!
# Written socket addresses

The reader of socket addresses takes more than the canonical form: leading zeros of a port, every
way to leave out zero groups, an address of version 4 in place of two groups.  **What is written in
the canonical form reads back** (`Endpoint.ofText?_display`).

Each part is read back whatever follows it, as long as that cannot belong to the part.  The groups
of an address of version 6 are read one after the other; that an address of version 4 is looked for
in front of each of them does no harm, as no dot follows a group (`takeIp4_eq_none`).
-/

namespace TriggerLatch

namespace Net

/-! ### Numbers -/

theorem takeDigits_append {isDigit : Char → Bool} (width : Option Nat) {ds r : Text}
    (hd : ∀ c ∈ ds, isDigit c = true) (hne : ds ≠ []) (hw : ∀ w ∈ width, ds.length ≤ w)
    (hr : ∀ c ∈ r.head?, isDigit c = false) :
    takeDigits isDigit width (ds ++ r) = some (ds, r) := by
  have htake : r.takeWhile isDigit = [] := by cases r <;> simp_all
  have hdrop : r.dropWhile isDigit = r := by cases r <;> simp_all
  have hwidth : width.any (· < ds.length) = false := by
    cases width with
    | none => rfl
    | some w => simpa using hw w rfl
  rw [takeDigits, List.takeWhile_append_of_pos hd, List.dropWhile_append_of_pos hd, htake, hdrop,
    List.append_nil]
  simp [hne, hwidth]

theorem takeDecimal_append {limit n : Nat} {r : Text} (h : n ≤ limit)
    (hr : ∀ c ∈ r.head?, Decimal.isDigit c = false) :
    takeDecimal limit (Decimal.digits n ++ r) = some (n, r) := by
  have htake := takeDigits_append none (Decimal.isDigit_of_mem_digits n)
    (Decimal.digits_ne_nil n) nofun hr
  simp [takeDecimal, htake, Decimal.value_digits, h]

theorem takeOctet_append (a : UInt8) {r : Text} (hr : ∀ c ∈ r.head?, Decimal.isDigit c = false) :
    takeOctet (Decimal.digits a.toNat ++ r) = some (a, r) := by
  have hlt : a.toNat < 256 := a.toNat_lt
  have hwidth : (Decimal.digits a.toNat).length ≤ 3 :=
    Decimal.length_digits_le (by decide) (Nat.lt_trans hlt (by decide))
  have htake := takeDigits_append (some 3) (Decimal.isDigit_of_mem_digits a.toNat)
    (Decimal.digits_ne_nil _) (fun w hw => Option.mem_some.1 hw ▸ hwidth) hr
  have hzero : ¬ ((Decimal.digits a.toNat).head? = some '0' ∧
      1 < (Decimal.digits a.toNat).length) := by
    rintro ⟨hhead, hlong⟩
    rw [Decimal.eq_zero_of_head?_digits hhead, Radix.digits] at hlong
    exact absurd hlong (by decide)
  simp [takeOctet, htake, hzero, Decimal.value_digits, hlt]

theorem takeGroup_append (g : UInt16) {r : Text} (hr : ∀ c ∈ r.head?, Hex.isDigit c = false) :
    takeGroup (Hex.digits g.toNat ++ r) = some (g, r) := by
  have hwidth : (Hex.digits g.toNat).length ≤ 4 :=
    Hex.length_digits_le (by decide) g.toNat_lt
  have htake := takeDigits_append (some 4) (Hex.isDigit_of_mem_digits g.toNat)
    (Hex.digits_ne_nil _) (fun w hw => Option.mem_some.1 hw ▸ hwidth) hr
  simp [takeGroup, htake, Hex.value_digits]

@[simp] theorem takeChar_cons (c : Char) (r : Text) : takeChar c (c :: r) = some r := if_pos rfl

/-! ### Addresses of version 4 -/

theorem takeIp4_append (i : Ip4) {r : Text} (hr : ∀ c ∈ r.head?, Decimal.isDigit c = false) :
    takeIp4 (i.display ++ r) = some (i, r) := by
  have hdot (s : Text) : ∀ c ∈ ('.' :: s).head?, Decimal.isDigit c = false := by
    rintro c hc
    obtain rfl := Option.mem_some.1 hc
    decide
  simp only [Ip4.display, List.append_assoc, List.cons_append]
  rw [takeIp4]
  -- one octet after the other, with its dot
  refine Option.bind_eq_some_iff.2 ⟨_, takeOctet_append i.a (hdot _), ?_⟩
  refine Option.bind_eq_some_iff.2 ⟨_, takeChar_cons _ _, ?_⟩
  refine Option.bind_eq_some_iff.2 ⟨_, takeOctet_append i.b (hdot _), ?_⟩
  refine Option.bind_eq_some_iff.2 ⟨_, takeChar_cons _ _, ?_⟩
  refine Option.bind_eq_some_iff.2 ⟨_, takeOctet_append i.c (hdot _), ?_⟩
  refine Option.bind_eq_some_iff.2 ⟨_, takeChar_cons _ _, ?_⟩
  exact Option.bind_eq_some_iff.2 ⟨_, takeOctet_append i.d hr, rfl⟩

theorem takeIp4_eq_none {s : Text} (h : (s.dropWhile Decimal.isDigit).head? ≠ some '.') :
    takeIp4 s = none := by
  rw [takeIp4, Option.bind_eq_bind, Option.bind_eq_none_iff]
  rintro ⟨a, r⟩ hoctet
  -- what follows the octet is what follows the digits
  have hrest : r = s.dropWhile Decimal.isDigit := by
    simp only [takeOctet, takeDigits, Option.bind_eq_bind, Option.bind_eq_some_iff] at hoctet
    obtain ⟨⟨ds, r'⟩, hdigits, hvalue⟩ := hoctet
    split at hdigits
    · cases hdigits
    · cases hdigits
      split at hvalue
      · cases hvalue
      · split at hvalue
        · cases hvalue
          rfl
        · cases hvalue
  have hnone : takeChar '.' r = none := by
    rw [hrest]
    generalize s.dropWhile Decimal.isDigit = t at h
    cases t with
    | nil => rfl
    | cons c t =>
      have hc : ¬ '.' = c := fun e => h (by rw [← e]; rfl)
      exact if_neg hc
  simp [hnone]

/-! ### Rows of groups -/

/-- What follows a group neither belongs to it nor makes its first digits an octet. -/
def EndsGroup (r : Text) : Prop := ∀ c ∈ r.head?, Hex.isDigit c = false ∧ c ≠ '.'

theorem endsGroup_cons {c : Char} (h : Hex.isDigit c = false) (hdot : c ≠ '.') (r : Text) :
    EndsGroup (c :: r) := by
  intro d hd
  obtain rfl := Option.mem_some.1 hd
  exact ⟨h, hdot⟩

/-- Groups as they stand behind another: each with its colon. -/
def groupsBehind : List UInt16 → Text
  | [] => []
  | g :: gs => ':' :: (Hex.digits g.toNat ++ groupsBehind gs)

theorem displayGroups_cons (g : UInt16) (gs : List UInt16) :
    Ip6.displayGroups (g :: gs) = Hex.digits g.toNat ++ groupsBehind gs := by
  induction gs generalizing g with
  | nil => rw [Ip6.displayGroups, groupsBehind, List.append_nil]
  | cons g' gs ih => rw [Ip6.displayGroups, ih, groupsBehind]; exact nofun

theorem endsGroup_behind (gs : List UInt16) {r : Text} (hr : EndsGroup r) :
    EndsGroup (groupsBehind gs ++ r) := by
  cases gs with
  | nil => exact hr
  | cons g gs => exact endsGroup_cons (by decide) (by decide) _

theorem isDigit_eq_false_of_hex {c : Char} (h : Hex.isDigit c = false) :
    Decimal.isDigit c = false := by
  rw [Bool.eq_false_iff]
  intro hdecimal
  have hrange := Decimal.isDigit_iff.1 hdecimal
  have hnone : (Hex.digitValue? c).isSome = false := h
  simp [Hex.digitValue?, hrange] at hnone

theorem head?_dropWhile_ne_dot {s r : Text} (hs : '.' ∉ s) (hr : EndsGroup r) :
    ((s ++ r).dropWhile Decimal.isDigit).head? ≠ some '.' := by
  induction s with
  | nil =>
    cases r with
    | nil => exact nofun
    | cons c r =>
      obtain ⟨hhex, hc⟩ := hr c rfl
      have hdigit : ¬ Decimal.isDigit c = true :=
        Bool.eq_false_iff.1 (isDigit_eq_false_of_hex hhex)
      rw [List.nil_append, List.dropWhile_cons_of_neg hdigit]
      exact fun e => hc (Option.some.inj e)
  | cons c s ih =>
    rw [List.cons_append, List.dropWhile_cons]
    split
    · exact ih fun h => hs (List.mem_cons_of_mem c h)
    · exact fun e => hs (Option.some.inj e ▸ List.mem_cons_self)

/-- A group is no beginning of an address of version 4. -/
theorem takeIp4_group (g : UInt16) {r : Text} (hr : EndsGroup r) :
    takeIp4 (Hex.digits g.toNat ++ r) = none := by
  refine takeIp4_eq_none (head?_dropWhile_ne_dot ?_ hr)
  exact fun hdot => absurd (Hex.isDigit_of_mem_digits _ _ hdot) (by decide)

/-- More groups behind a row. -/
def Groups.behind (gs : List UInt16) (more : Groups) : Groups :=
  { more with read := gs ++ more.read }

theorem takeGroups_succ (room : Nat) {isFirst : Bool} {s r : Text} (g : UInt16) (hr : EndsGroup r)
    (hs : takeSeparator isFirst s = some (Hex.digits g.toNat ++ r)) :
    takeGroups (room + 1) isFirst s = (takeGroups room false r).behind [g] := by
  have hgroup : takeGroup (Hex.digits g.toNat ++ r) = some (g, r) :=
    takeGroup_append g fun c hc => (hr c hc).1
  rw [takeGroups, hs]
  simp only [Option.bind_some, takeIp4_group g hr, hgroup, ite_self]
  rfl

theorem takeGroups_behind (room : Nat) (gs : List UInt16) {r : Text} (hr : EndsGroup r) :
    takeGroups (gs.length + room) false (groupsBehind gs ++ r) =
      (takeGroups room false r).behind gs := by
  induction gs with
  | nil => rw [List.length_nil, Nat.zero_add]; rfl
  | cons g gs ih =>
    have hsep : takeSeparator false (groupsBehind (g :: gs) ++ r) =
        some (Hex.digits g.toNat ++ (groupsBehind gs ++ r)) := by
      simp [takeSeparator, groupsBehind]
    rw [List.length_cons, Nat.add_right_comm, takeGroups_succ _ g (endsGroup_behind gs hr) hsep, ih]
    rfl

/-- **A row of groups is read back**, and the reader goes on behind it. -/
theorem takeGroups_displayGroups (room : Nat) (gs : List UInt16) {r : Text} (hr : EndsGroup r) :
    takeGroups (gs.length + room) true (Ip6.displayGroups gs ++ r) =
      (takeGroups room gs.isEmpty r).behind gs := by
  cases gs with
  | nil => rw [List.length_nil, Nat.zero_add]; rfl
  | cons g gs =>
    have hsep : takeSeparator true (Ip6.displayGroups (g :: gs) ++ r) =
        some (Hex.digits g.toNat ++ (groupsBehind gs ++ r)) := by
      rw [takeSeparator, if_pos rfl, displayGroups_cons, List.append_assoc]
    rw [List.length_cons, Nat.add_right_comm, takeGroups_succ _ g (endsGroup_behind gs hr) hsep,
      takeGroups_behind room gs hr]
    rfl

theorem takeGroups_stop (room : Nat) {isFirst : Bool} {s : Text}
    (h : ∀ r, takeSeparator isFirst s = some r → ∀ c ∈ r.head?, Hex.isDigit c = false) :
    takeGroups room isFirst s = ⟨[], false, s⟩ := by
  cases room with
  | zero => rfl
  | succ room =>
    cases hsep : takeSeparator isFirst s with
    | none => simp [takeGroups, hsep]
    | some r =>
      have hhex := h r hsep
      have hgroup : takeGroup r = none := by
        cases r with
        | nil => rfl
        | cons c r => simp [takeGroup, takeDigits, hhex c rfl]
      have hip4 : takeIp4 r = none := by
        cases r with
        | nil => rfl
        | cons c r =>
          simp [takeIp4, takeOctet, takeDigits, isDigit_eq_false_of_hex (hhex c rfl)]
      simp [takeGroups, hsep, hip4, hgroup]

/-! ### Addresses of version 6 -/

/-- What follows an address of version 6 neither belongs to its last group nor goes on with another
one. -/
def EndsAddress (r : Text) : Prop := EndsGroup r ∧ r.head? ≠ some ':'

theorem endsAddress_cons {c : Char} (h : Hex.isDigit c = false) (hdot : c ≠ '.') (hcolon : c ≠ ':')
    (r : Text) : EndsAddress (c :: r) :=
  ⟨endsGroup_cons h hdot r, fun e => hcolon (Option.some.inj e)⟩

theorem takeGroups_of_endsAddress (room : Nat) {isFirst : Bool} {r : Text} (hr : EndsAddress r) :
    takeGroups room isFirst r = ⟨[], false, r⟩ := by
  refine takeGroups_stop room fun t ht => ?_
  cases isFirst with
  | true =>
    obtain rfl := Option.some.inj ht
    exact fun c hc => (hr.1 c hc).1
  | false =>
    cases r with
    | nil => cases ht
    | cons c r =>
      have hc : ¬ ':' = c := fun e => hr.2 (e ▸ rfl)
      rw [takeSeparator, if_neg Bool.false_ne_true, takeChar, if_neg hc] at ht
      cases ht

theorem takeGroups_colons (room : Nat) (isFirst : Bool) (r : Text) :
    takeGroups room isFirst (':' :: ':' :: r) = ⟨[], false, ':' :: ':' :: r⟩ := by
  refine takeGroups_stop room fun t ht c hc => ?_
  have hcolon : t.head? = some ':' := by
    cases isFirst with
    | true => exact (Option.some.inj ht) ▸ rfl
    | false => exact (Option.some.inj ht) ▸ rfl
  obtain rfl := Option.some.inj (hcolon.symm.trans hc)
  decide

theorem ofGroups?_groups (i : Ip6) : ofGroups? i.groups = some i := dif_pos i.length_groups

theorem octets_eq (w : UInt16) :
    (w / 256).toUInt8.toUInt16 * 256 + w.toUInt8.toUInt16 = w := by
  apply UInt16.toNat_inj.1
  have hlt := w.toNat_lt
  simp only [UInt16.toNat_add, UInt16.toNat_mul, UInt8.toNat_toUInt16, UInt16.toNat_toUInt8,
    UInt16.toNat_div, UInt16.reduceToNat]
  omega

theorem groups_ofGroups (hi lo : UInt16) : (Ip4.ofGroups hi lo).groups = [hi, lo] := by
  rw [Ip4.groups, Ip4.ofGroups, octets_eq, octets_eq]

theorem eq_replicate_leadingZeros (gs : List UInt16) :
    gs = List.replicate (Ip6.leadingZeros gs) 0 ++ gs.drop (Ip6.leadingZeros gs) := by
  unfold Ip6.leadingZeros
  induction gs with
  | nil => rfl
  | cons g gs ih =>
    by_cases hg : g = 0
    · rw [List.takeWhile_cons_of_pos (by simp [hg]), List.length_cons, List.replicate_succ,
        List.drop_succ_cons, List.cons_append, ← ih, hg]
    · rw [List.takeWhile_cons_of_neg (by simpa using hg)]
      rfl

/-- **The longest run of zero groups is one**: it cuts the groups in three. -/
theorem longestZeroRun_spec (gs : List UInt16) :
    gs = gs.take (Ip6.longestZeroRun gs).1 ++
      (List.replicate (Ip6.longestZeroRun gs).2 0 ++
        gs.drop ((Ip6.longestZeroRun gs).1 + (Ip6.longestZeroRun gs).2)) := by
  induction gs with
  | nil => rfl
  | cons g gs ih =>
    rw [Ip6.longestZeroRun]
    generalize Ip6.longestZeroRun gs = run at ih
    obtain ⟨start, length⟩ := run
    by_cases h : Ip6.leadingZeros (g :: gs) < length
    · simp only [h, if_true]
      rw [Nat.add_right_comm, List.take_succ_cons, List.drop_succ_cons, List.cons_append, ← ih]
    · simp only [h, if_false]
      rw [Nat.zero_add]
      exact eq_replicate_leadingZeros _

/-- Two rows with two colons between them are read as an address, with zero groups in the middle. -/
theorem takeIp6_of_rows (i : Ip6) {front back : List UInt16} {endsInIp4 : Bool} {s t r : Text}
    (hfront : takeGroups 8 true s = ⟨front, false, ':' :: ':' :: t⟩) (hshort : front.length < 8)
    (hback : takeGroups (7 - front.length) true t = ⟨back, endsInIp4, r⟩)
    (hgroups : front ++ (List.replicate (8 - front.length - back.length) 0 ++ back) = i.groups) :
    takeIp6 s = some (i, r) := by
  rw [takeIp6, hfront]
  simp [Nat.ne_of_lt hshort, hback, hgroups, ofGroups?_groups]

/-- A row that ends in an address of version 4, as it is written behind its mark. -/
theorem takeIp6_mapped (i : Ip6) {v : Ip4} (hv : i.mapped? = some v) {r : Text}
    (hr : EndsAddress r) : takeIp6 ("::ffff:".toList ++ v.display ++ r) = some (i, r) := by
  have hmark : "::ffff:".toList ++ v.display ++ r =
      ':' :: ':' :: (Ip6.displayGroups [0xFFFF] ++ ':' :: (v.display ++ r)) := by
    have hffff : Ip6.displayGroups [0xFFFF] = "ffff".toList := by decide +kernel
    rw [hffff]
    rfl
  have hback : takeGroups 7 true (Ip6.displayGroups [0xFFFF] ++ ':' :: (v.display ++ r)) =
      ⟨0xFFFF :: v.groups, true, r⟩ := by
    have hrow := takeGroups_displayGroups 6 [0xFFFF]
      (endsGroup_cons (c := ':') (by decide) (by decide) (v.display ++ r))
    have hip4 : takeIp4 (v.display ++ r) = some (v, r) :=
      takeIp4_append v fun c hc => isDigit_eq_false_of_hex (hr.1 c hc).1
    have hrest : takeGroups 6 false (':' :: (v.display ++ r)) = ⟨v.groups, true, r⟩ := by
      simp [takeGroups, takeSeparator, hip4]
    exact hrow.trans (congrArg (Groups.behind [0xFFFF]) hrest)
  have hgroups : List.replicate 5 0 ++ 0xFFFF :: v.groups = i.groups := by
    unfold Ip6.mapped? at hv
    split at hv
    · next hi lo h =>
      obtain rfl := Option.some.inj hv
      rw [groups_ofGroups, h]
      rfl
    · cases hv
  rw [hmark]
  exact takeIp6_of_rows i (takeGroups_colons 8 true _) (by decide) hback hgroups

theorem takeIp6_full (i : Ip6) {r : Text} (hr : EndsAddress r) :
    takeIp6 (Ip6.displayGroups i.groups ++ r) = some (i, r) := by
  have hread : takeGroups 8 true (Ip6.displayGroups i.groups ++ r) = ⟨i.groups, false, r⟩ := by
    have hrow := takeGroups_displayGroups 0 i.groups hr.1
    rw [i.length_groups, takeGroups_of_endsAddress 0 hr] at hrow
    simpa [Groups.behind] using hrow
  rw [takeIp6, hread]
  simp [i.length_groups, ofGroups?_groups]

theorem takeIp6_compressed (i : Ip6) {front back : List UInt16} {length : Nat}
    (hrun : i.groups = front ++ (List.replicate length 0 ++ back)) (hlength : 0 < length) {r : Text}
    (hr : EndsAddress r) :
    takeIp6 (Ip6.displayGroups front ++ ':' :: ':' :: (Ip6.displayGroups back ++ r)) =
      some (i, r) := by
  have height : 8 = front.length + (length + back.length) := by
    rw [← i.length_groups, hrun]
    simp
  have hfront : takeGroups 8 true
      (Ip6.displayGroups front ++ ':' :: ':' :: (Ip6.displayGroups back ++ r)) =
        ⟨front, false, ':' :: ':' :: (Ip6.displayGroups back ++ r)⟩ := by
    have hrow := takeGroups_displayGroups (8 - front.length) front
      (endsGroup_cons (c := ':') (by decide) (by decide) (':' :: (Ip6.displayGroups back ++ r)))
    rw [takeGroups_colons, Nat.add_sub_of_le (by omega)] at hrow
    simpa [Groups.behind] using hrow
  have hback : takeGroups (7 - front.length) true (Ip6.displayGroups back ++ r) =
      ⟨back, false, r⟩ := by
    have hrow := takeGroups_displayGroups (7 - front.length - back.length) back hr.1
    rw [takeGroups_of_endsAddress _ hr, Nat.add_sub_of_le (by omega)] at hrow
    simpa [Groups.behind] using hrow
  have hzeros : 8 - front.length - back.length = length := by omega
  exact takeIp6_of_rows i hfront (by omega) hback (by rw [hzeros]; exact hrun.symm)

/-- **A written address of version 6 reads back.** -/
theorem takeIp6_append (i : Ip6) {r : Text} (hr : EndsAddress r) :
    takeIp6 (i.display ++ r) = some (i, r) := by
  rw [Ip6.display]
  cases hv : i.mapped? with
  | some v => exact takeIp6_mapped i hv hr
  | none =>
    have hrun := longestZeroRun_spec i.groups
    generalize Ip6.longestZeroRun i.groups = run at hrun
    obtain ⟨start, length⟩ := run
    simp only at hrun ⊢
    by_cases hshort : length < 2
    · rw [if_pos hshort]
      exact takeIp6_full i hr
    · rw [if_neg hshort, List.append_assoc, List.cons_append, List.cons_append]
      exact takeIp6_compressed i hrun (by omega) hr

/-! ### Ports and scopes -/

theorem takePort_display (port : UInt16) :
    takePort (':' :: Decimal.digits port.toNat) = some (port, []) := by
  have hle : port.toNat ≤ 65535 := Nat.le_of_lt_succ port.toNat_lt
  have htake : takeDecimal 65535 (Decimal.digits port.toNat) = some (port.toNat, []) := by
    simpa using takeDecimal_append (r := []) hle nofun
  simp [takePort, htake]

theorem takeScope_display (scope : UInt32) (r : Text) :
    takeScope ((if scope = 0 then [] else '%' :: Decimal.digits scope.toNat) ++ ']' :: r) =
      (scope, ']' :: r) := by
  by_cases hscope : scope = 0
  · rw [if_pos hscope, hscope]
    rfl
  · have hle : scope.toNat ≤ 4294967295 := Nat.le_of_lt_succ scope.toNat_lt
    have htake : takeDecimal 4294967295 (Decimal.digits scope.toNat ++ ']' :: r) =
        some (scope.toNat, ']' :: r) := by
      refine takeDecimal_append hle fun c hc => ?_
      obtain rfl := Option.mem_some.1 hc
      decide
    rw [if_neg hscope, List.cons_append, takeScope, takeChar_cons, Option.bind_some, htake]
    simp

theorem endsAddress_scope (scope : UInt32) (r : Text) :
    EndsAddress ((if scope = 0 then [] else '%' :: Decimal.digits scope.toNat) ++ ']' :: r) := by
  split
  · exact endsAddress_cons (by decide) (by decide) (by decide) _
  · exact endsAddress_cons (by decide) (by decide) (by decide) _

end Net

namespace Endpoint

open Net

theorem takeV4_display (i : Ip4) (port : UInt16) :
    takeV4 (v4 i port).display = some (v4 i port, []) := by
  have hip4 : takeIp4 (i.display ++ ':' :: Decimal.digits port.toNat) =
      some (i, ':' :: Decimal.digits port.toNat) := by
    refine takeIp4_append i fun c hc => ?_
    obtain rfl := Option.mem_some.1 hc
    decide
  rw [display, takeV4, hip4]
  simp [takePort_display]

theorem takeV6_display (i : Ip6) (scope : UInt32) (port : UInt16) :
    takeV6 (v6 i scope port).display = some (v6 i scope port, []) := by
  rw [display, takeV6]
  simp only [List.cons_append, List.append_assoc, takeChar_cons, Option.bind_eq_bind,
    Option.bind_some, takeIp6_append i (endsAddress_scope scope _), takeScope_display,
    takePort_display]

/-- **A socket address in canonical form reads back.** -/
theorem ofText?_display (e : Endpoint) : ofText? e.display = some e := by
  cases e with
  | v4 i port => rw [ofText?, takeV4_display]; rfl
  | v6 i scope port =>
    have hv4 : takeV4 (v6 i scope port).display = none := by
      have hip4 : takeIp4 (v6 i scope port).display = none := takeIp4_eq_none nofun
      rw [takeV4, hip4]
      rfl
    rw [ofText?, hv4, takeV6_display]
    rfl

end Endpoint

/-! ### No blanks are written -/

theorem Ip4.isBlank_of_mem_display (i : Ip4) : ∀ c ∈ i.display, isBlank c = false := by
  have hdot : isBlank '.' = false := by decide
  simp only [display, List.forall_mem_append, List.forall_mem_cons]
  exact ⟨⟨⟨Decimal.isBlank_of_mem_digits _, hdot, Decimal.isBlank_of_mem_digits _⟩, hdot,
    Decimal.isBlank_of_mem_digits _⟩, hdot, Decimal.isBlank_of_mem_digits _⟩

theorem Ip6.isBlank_of_mem_displayGroups (gs : List UInt16) :
    ∀ c ∈ displayGroups gs, isBlank c = false := by
  fun_induction displayGroups gs with
  | case1 => exact nofun
  | case2 g => exact Hex.isBlank_of_mem_digits _
  | case3 g gs hne ih =>
    simp only [List.forall_mem_append, List.forall_mem_cons]
    exact ⟨Hex.isBlank_of_mem_digits _, by decide, ih⟩

theorem Ip6.isBlank_of_mem_display (i : Ip6) : ∀ c ∈ i.display, isBlank c = false := by
  have hcolon : isBlank ':' = false := by decide
  unfold display
  split
  · next v _ =>
    rw [List.forall_mem_append]
    exact ⟨by simp [isBlank], v.isBlank_of_mem_display⟩
  · simp only
    split
    · exact isBlank_of_mem_displayGroups _
    · simp only [List.forall_mem_append, List.forall_mem_cons]
      exact ⟨isBlank_of_mem_displayGroups _, hcolon, hcolon, isBlank_of_mem_displayGroups _⟩

theorem Endpoint.isBlank_of_mem_display (e : Endpoint) : ∀ c ∈ e.display, isBlank c = false := by
  cases e with
  | v4 i port =>
    simp only [display, List.forall_mem_append, List.forall_mem_cons]
    exact ⟨i.isBlank_of_mem_display, by decide, Decimal.isBlank_of_mem_digits _⟩
  | v6 i scope port =>
    have hscope : ∀ c ∈ (if scope = 0 then [] else '%' :: Decimal.digits scope.toNat),
        isBlank c = false := by
      split
      · exact nofun
      · rw [List.forall_mem_cons]
        exact ⟨by decide, Decimal.isBlank_of_mem_digits _⟩
    simp only [display, List.forall_mem_append, List.forall_mem_cons]
    exact ⟨⟨⟨by decide, i.isBlank_of_mem_display⟩, hscope⟩, by decide, by decide,
      Decimal.isBlank_of_mem_digits _⟩

end TriggerLatch
