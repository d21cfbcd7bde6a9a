import TriggerLatch.Decimal.Natural
import TriggerLatch.Json.Document
import TriggerLatch.Text.Hex

/-!
# Fields of a document

A document is read for a fixed list of fields.  An object holds each of them exactly once, among
any others; an array holds them in order and nothing else (`Document.fields?`).  A field is then
read as a flag, a number or a text.
-/

namespace TriggerLatch.Json

/-- The character that an escape of one letter stands for. -/
def shortEscape? (c : Char) : Option Char :=
  if c = '"' ∨ c = '\\' ∨ c = '/' then some c
  else if c = 'b' then some '\x08'
  else if c = 'f' then some '\x0c'
  else if c = 'n' then some '\n'
  else if c = 'r' then some '\r'
  else if c = 't' then some '\t'
  else none

/-- What four hexadecimal digits are worth. -/
def unit? (a b c d : Char) : Option Nat := do
  let a ← Hex.digitValue? a
  let b ← Hex.digitValue? b
  let c ← Hex.digitValue? c
  let d ← Hex.digitValue? d
  some (((16 * a + b) * 16 + c) * 16 + d)

/-- The first half of a pair that stands for one character. -/
def isHighHalf (n : Nat) : Bool := 0xD800 ≤ n && n < 0xDC00

/-- The second half of such a pair. -/
def isLowHalf (n : Nat) : Bool := 0xDC00 ≤ n && n < 0xE000

/-- The text that a string stands for, once its escapes are resolved: halves of a pair come in
pairs. -/
def unescape : Text → Option Text
  | '\\' :: 'u' :: a :: b :: c :: d :: '\\' :: 'u' :: e :: f :: g :: h :: r => do
    let n ← unit? a b c d
    if isHighHalf n then
      let m ← unit? e f g h
      if isLowHalf m then
        (unescape r).map (Char.ofNat (0x10000 + (n - 0xD800) * 0x400 + (m - 0xDC00)) :: ·)
      else none
    else if isLowHalf n then none
    else (unescape ('\\' :: 'u' :: e :: f :: g :: h :: r)).map (Char.ofNat n :: ·)
  | '\\' :: 'u' :: a :: b :: c :: d :: r => do
    let n ← unit? a b c d
    if isHighHalf n || isLowHalf n then none else (unescape r).map (Char.ofNat n :: ·)
  | '\\' :: c :: r => do
    let c ← shortEscape? c
    (unescape r).map (c :: ·)
  | c :: r => if c = '\\' then none else (unescape r).map (c :: ·)
  | [] => some []

/-- The text of a string as written. -/
def textOf? (raw : Bytes) : Option Text := (Utf8.decode raw).bind unescape

namespace Item

/-- A flag. -/
def bool? : Item → Option Bool
  | bool b => some b
  | _ => none

/-- A natural number up to `limit`, written as plain digits. -/
def nat? (limit : Nat) : Item → Option Nat
  | number raw =>
    if raw.all isDigit then
      let n := Decimal.value (raw.map fun b => Char.ofNat b.toNat)
      if n ≤ limit then some n else none
    else none
  | _ => none

/-- A text. -/
def text? : Item → Option Text
  | string raw => textOf? raw
  | _ => none

end Item

namespace Document

/-- The one value behind a key. -/
def unique? (entries : List (Text × Item)) (name : Text) : Option Item :=
  match entries.filter (·.1 == name) with
  | [(_, item)] => some item
  | _ => none

/-- The values of the named fields, in the order of the names. -/
def fields? (names : List Text) (d : Document) : Option (List Item) :=
  match d.shape with
  | .square => if d.entries.length = names.length then some (d.entries.map (·.2)) else none
  | .curly => do
    let entries ← d.entries.mapM fun (raw, item) => (textOf? raw).map (·, item)
    names.mapM (unique? entries)

end Document

end TriggerLatch.Json
