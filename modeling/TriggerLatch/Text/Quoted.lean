import TriggerLatch.Text.Hex
import TriggerLatch.Text.Unprintable

/-!
# Quoted text

Text that is shown to a reader as a value stands in double quotes.  The quote and the backslash
get a backslash, line breaks, tabs and the zero character their short escapes, and every other
character without a visible form of its own is written by its code point.
-/

namespace TriggerLatch.Quoted

/-- The character has no visible form: an ASCII control character, or one of
`Unprintable.ranges`. -/
def isUnprintable (c : Char) : Bool :=
  let n := c.toNat
  n < 0x20 || (0x7F ≤ n && Unprintable.covers n)

/-- One character between the quotes. -/
def escape (c : Char) : String :=
  if c = '"' then "\\\""
  else if c = '\\' then "\\\\"
  else if c = '\n' then "\\n"
  else if c = '\r' then "\\r"
  else if c = '\t' then "\\t"
  else if c.toNat = 0 then "\\0"
  else if isUnprintable c then "\\u\x7b" ++ String.ofList (Hex.digits c.toNat) ++ "\x7d"
  else c.toString

/-- The text between quotes. -/
def quote (s : List Char) : String := "\"" ++ s.foldl (fun t c => t ++ escape c) "" ++ "\""

end TriggerLatch.Quoted
