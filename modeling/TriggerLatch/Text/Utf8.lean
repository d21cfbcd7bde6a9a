import TriggerLatch.Text.Blank

/-!
# Text as bytes

`Utf8.encode` writes text in UTF-8 and `Utf8.decode` reads it; a byte string that is not the
shortest form of a row of characters does not read.
-/

namespace TriggerLatch

/-- The content of a file or of a message. -/
abbrev Bytes := List UInt8

namespace Utf8

/-- The bytes of one character. -/
def encodeChar (c : Char) : Bytes :=
  let n := c.toNat
  if n < 0x80 then [UInt8.ofNat n]
  else if n < 0x800 then [UInt8.ofNat (0xC0 + n / 0x40), UInt8.ofNat (0x80 + n % 0x40)]
  else if n < 0x10000 then
    [UInt8.ofNat (0xE0 + n / 0x1000), UInt8.ofNat (0x80 + n / 0x40 % 0x40),
      UInt8.ofNat (0x80 + n % 0x40)]
  else
    [UInt8.ofNat (0xF0 + n / 0x40000), UInt8.ofNat (0x80 + n / 0x1000 % 0x40),
      UInt8.ofNat (0x80 + n / 0x40 % 0x40), UInt8.ofNat (0x80 + n % 0x40)]

/-- The bytes of a text. -/
def encode (s : Text) : Bytes := s.flatMap encodeChar

/-- What a first byte announces: how many bytes follow, and the bits it holds itself. -/
def lead? (b : UInt8) : Option (Nat × Nat) :=
  let n := b.toNat
  if n < 0x80 then some (0, n)
  else if n < 0xC0 then none
  else if n < 0xE0 then some (1, n - 0xC0)
  else if n < 0xF0 then some (2, n - 0xE0)
  else if n < 0xF8 then some (3, n - 0xF0)
  else none

/-- The least code point that needs so many bytes behind the first. -/
def leastFor : Nat → Nat
  | 0 => 0
  | 1 => 0x80
  | 2 => 0x800
  | _ => 0x10000

/-- A byte behind the first, and the bits it holds. -/
def continuation? (b : UInt8) : Option Nat :=
  let n := b.toNat
  if 0x80 ≤ n ∧ n < 0xC0 then some (n - 0x80) else none

/-- The character with a code point, which must be one and not fit into fewer bytes. -/
def charOf? (following n : Nat) : Option Char :=
  if h : n.isValidChar ∧ leastFor following ≤ n then some (Char.ofNatAux n h.1) else none

/-- Reads on inside a character of which `left` more bytes are due: `following` is how many
followed the first byte in all, `acc` the bits so far. -/
def decodeFrom : (following left acc : Nat) → Bytes → Option Text
  | _, 0, _, [] => some []
  | _, _ + 1, _, [] => none
  | _, 0, _, b :: r => do
    let (k, bits) ← lead? b
    if k = 0 then
      let c ← charOf? 0 bits
      (decodeFrom 0 0 0 r).map (c :: ·)
    else decodeFrom k k bits r
  | k, left + 1, acc, b :: r => do
    let bits ← continuation? b
    let n := acc * 0x40 + bits
    if left = 0 then
      let c ← charOf? k n
      (decodeFrom 0 0 0 r).map (c :: ·)
    else decodeFrom k left n r

/-- The text that the bytes are. -/
def decode (b : Bytes) : Option Text := decodeFrom 0 0 0 b

theorem encode_append (s t : Text) : encode (s ++ t) = encode s ++ encode t := by
  simp [encode]

end Utf8

end TriggerLatch
