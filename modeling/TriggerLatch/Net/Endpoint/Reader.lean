import TriggerLatch.Net.Endpoint

/-!
# Reading socket addresses

`Endpoint.ofText?` reads an endpoint.  An octet has at most three digits and no leading zero, a
group at most four hexadecimal digits, a port any number of leading zeros.  In an address of
version 6 one `::` stands for one or more zero groups, and the last two groups may be written as an
address of version 4.
-/

namespace TriggerLatch

namespace Net

/-- Takes the digits in front of `s`: at least one, at most `width` of them. -/
def takeDigits (isDigit : Char → Bool) (width : Option Nat) (s : Text) : Option (Text × Text) :=
  let ds := s.takeWhile isDigit
  if ds.isEmpty || width.any (· < ds.length) then none else some (ds, s.dropWhile isDigit)

/-- A decimal number up to `limit`. -/
def takeDecimal (limit : Nat) (s : Text) : Option (Nat × Text) := do
  let (ds, r) ← takeDigits Decimal.isDigit none s
  if Decimal.value ds ≤ limit then some (Decimal.value ds, r) else none

/-- An octet: one to three digits without a leading zero. -/
def takeOctet (s : Text) : Option (UInt8 × Text) := do
  let (ds, r) ← takeDigits Decimal.isDigit (some 3) s
  if ds.head? = some '0' ∧ 1 < ds.length then none
  else if Decimal.value ds < 256 then some (UInt8.ofNat (Decimal.value ds), r) else none

/-- A group: one to four hexadecimal digits. -/
def takeGroup (s : Text) : Option (UInt16 × Text) := do
  let (ds, r) ← takeDigits Hex.isDigit (some 4) s
  some (UInt16.ofNat (Hex.value ds), r)

/-- One given character. -/
def takeChar (c : Char) : Text → Option Text
  | d :: r => if c = d then some r else none
  | [] => none

/-- Four octets with dots between them. -/
def takeIp4 (s : Text) : Option (Ip4 × Text) := do
  let (a, s) ← takeOctet s
  let s ← takeChar '.' s
  let (b, s) ← takeOctet s
  let s ← takeChar '.' s
  let (c, s) ← takeOctet s
  let s ← takeChar '.' s
  let (d, s) ← takeOctet s
  some (⟨a, b, c, d⟩, s)

/-- A row of groups: what was read, whether it ended in an address of version 4, and the rest. -/
structure Groups where
  read : List UInt16
  endsInIp4 : Bool
  rest : Text

/-- The colon in front of each group but the first. -/
def takeSeparator (isFirst : Bool) (s : Text) : Option Text :=
  if isFirst then some s else takeChar ':' s

/-- At most `room` groups with colons between them; where two fit, an address of version 4 may
stand for the last two. -/
def takeGroups : (room : Nat) → (isFirst : Bool) → Text → Groups
  | 0, _, s => ⟨[], false, s⟩
  | room + 1, isFirst, s =>
    match (if 0 < room then (takeSeparator isFirst s).bind takeIp4 else none) with
    | some (v, r) => ⟨v.groups, true, r⟩
    | none =>
      match (takeSeparator isFirst s).bind takeGroup with
      | none => ⟨[], false, s⟩
      | some (g, r) =>
        let more := takeGroups room false r
        { more with read := g :: more.read }

/-- Eight groups as an address. -/
def ofGroups? (gs : List UInt16) : Option Ip6 :=
  if h : gs.length = 8 then some ⟨gs, h⟩ else none

/-- An address of version 6. -/
def takeIp6 (s : Text) : Option (Ip6 × Text) :=
  let head := takeGroups 8 true s
  if head.read.length = 8 then (ofGroups? head.read).map fun i => (i, head.rest)
  else if head.endsInIp4 then none
  else do
    let r ← takeChar ':' head.rest
    let r ← takeChar ':' r
    let tail := takeGroups (7 - head.read.length) true r
    let zeros := List.replicate (8 - head.read.length - tail.read.length) 0
    let i ← ofGroups? (head.read ++ zeros ++ tail.read)
    some (i, tail.rest)

/-- The port behind an address. -/
def takePort (s : Text) : Option (UInt16 × Text) := do
  let r ← takeChar ':' s
  let (n, r) ← takeDecimal 65535 r
  some (UInt16.ofNat n, r)

/-- The scope of an address of version 6; without one it is zero. -/
def takeScope (s : Text) : UInt32 × Text :=
  match (takeChar '%' s).bind (takeDecimal 4294967295) with
  | some (n, r) => (UInt32.ofNat n, r)
  | none => (0, s)

end Net

namespace Endpoint

open Net

/-- An endpoint of version 4. -/
def takeV4 (s : Text) : Option (Endpoint × Text) := do
  let (i, r) ← takeIp4 s
  let (port, r) ← takePort r
  some (v4 i port, r)

/-- An endpoint of version 6. -/
def takeV6 (s : Text) : Option (Endpoint × Text) := do
  let r ← takeChar '[' s
  let (i, r) ← takeIp6 r
  let (scope, r) := takeScope r
  let r ← takeChar ']' r
  let (port, r) ← takePort r
  some (v6 i scope port, r)

/-- The endpoint that the whole text is. -/
def ofText? (s : Text) : Option Endpoint :=
  match (takeV4 s).or (takeV6 s) with
  | some (e, []) => some e
  | _ => none

end Endpoint

end TriggerLatch
