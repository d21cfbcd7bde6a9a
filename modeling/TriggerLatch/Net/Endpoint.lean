import TriggerLatch.Decimal.Natural
import TriggerLatch.Text.Hex

/-!
# Socket addresses

An endpoint is an address of the Internet protocol, version 4 or 6, with a port.  `Endpoint.display`
writes it in its canonical form; the longest run of two or more zero groups of a version 6
address, the first of equal ones, is written `::`.
-/

namespace TriggerLatch

/-- An address of version 4: four octets. -/
structure Ip4 where
  a : UInt8
  b : UInt8
  c : UInt8
  d : UInt8
  deriving DecidableEq, Repr

/-- An address of version 6: eight groups of sixteen bits. -/
structure Ip6 where
  groups : List UInt16
  length_groups : groups.length = 8
  deriving DecidableEq, Repr

/-- An address and a port; an address of version 6 may name a scope. -/
inductive Endpoint where
  | v4 (address : Ip4) (port : UInt16)
  | v6 (address : Ip6) (scope : UInt32) (port : UInt16)
  deriving DecidableEq, Repr

namespace Ip4

/-- Octets in decimal with dots between them. -/
def display (i : Ip4) : Text :=
  Decimal.digits i.a.toNat ++ '.' :: Decimal.digits i.b.toNat ++ '.' ::
    Decimal.digits i.c.toNat ++ '.' :: Decimal.digits i.d.toNat

/-- The octets as two groups of sixteen bits. -/
def groups (i : Ip4) : List UInt16 :=
  [i.a.toUInt16 * 256 + i.b.toUInt16, i.c.toUInt16 * 256 + i.d.toUInt16]

/-- The address whose octets make up two groups. -/
def ofGroups (hi lo : UInt16) : Ip4 :=
  ⟨(hi / 256).toUInt8, hi.toUInt8, (lo / 256).toUInt8, lo.toUInt8⟩

end Ip4

namespace Ip6

/-- Groups in hexadecimal with colons between them. -/
def displayGroups : List UInt16 → Text
  | [] => []
  | [g] => Hex.digits g.toNat
  | g :: r => Hex.digits g.toNat ++ ':' :: displayGroups r

/-- How many zero groups the list starts with. -/
def leadingZeros (gs : List UInt16) : Nat := (gs.takeWhile (· == 0)).length

/-- Where the longest run of zero groups begins, and its length; the first of equal ones. -/
def longestZeroRun : List UInt16 → Nat × Nat
  | [] => (0, 0)
  | g :: r =>
    let here := leadingZeros (g :: r)
    let (start, length) := longestZeroRun r
    if here < length then (start + 1, length) else (0, here)

/-- The version 4 address that the groups embed behind the mark `ffff`. -/
def mapped? (i : Ip6) : Option Ip4 :=
  match i.groups with
  | [0, 0, 0, 0, 0, 0xFFFF, hi, lo] => some (Ip4.ofGroups hi lo)
  | _ => none

/-- The canonical form. -/
def display (i : Ip6) : Text :=
  match i.mapped? with
  | some v => "::ffff:".toList ++ v.display
  | none =>
    let (start, length) := longestZeroRun i.groups
    if length < 2 then displayGroups i.groups
    else displayGroups (i.groups.take start) ++ ':' :: ':' ::
      displayGroups (i.groups.drop (start + length))

end Ip6

namespace Endpoint

/-- The canonical form: an address of version 6 stands in brackets, with its scope if that is
not zero. -/
def display : Endpoint → Text
  | v4 i port => i.display ++ ':' :: Decimal.digits port.toNat
  | v6 i scope port =>
    '[' :: i.display ++ (if scope = 0 then [] else '%' :: Decimal.digits scope.toNat) ++
      ']' :: ':' :: Decimal.digits port.toNat

end Endpoint

end TriggerLatch
