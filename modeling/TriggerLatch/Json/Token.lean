import TriggerLatch.Text.Utf8

/-!
# Words of JSON

`Json.scan` cuts a byte string into tokens, one byte at a time: `Scanner.step` says what a byte does
to a scanner, and a text is scanned by a fold over its bytes.  Numbers and strings are kept as they
are written; their form is checked here, their meaning is left to who needs it.
-/

namespace TriggerLatch.Json

/-- The two kinds of brackets. -/
inductive Bracket where
  | square
  | curly
  deriving DecidableEq, Repr

/-- A word of JSON. -/
inductive Token where
  | opening (b : Bracket)
  | closing (b : Bracket)
  | comma
  | colon
  | null
  | bool (value : Bool)
  /-- A number as written. -/
  | number (raw : Bytes)
  /-- A string as written, without its quotes. -/
  | string (raw : Bytes)
  deriving DecidableEq, Repr

/-- Where inside an escape a string is. -/
inductive Escape where
  | outside
  /-- Behind the backslash. -/
  | begun
  /-- Behind `\u`, with so many digits to come. -/
  | digits (left : Nat)
  deriving DecidableEq, Repr

/-- Which part of a number was read last. -/
inductive NumberPart where
  | minus
  | zero
  | whole
  | point
  | fraction
  | mark
  | sign
  | exponent
  deriving DecidableEq, Repr

/-- What is being read. -/
inductive Reading where
  | between
  /-- A string; its bytes so far, last one first. -/
  | string (raw : Bytes) (escape : Escape)
  /-- A number; its bytes so far, last one first. -/
  | number (raw : Bytes) (part : NumberPart)
  /-- The rest of a word that stands for `token`. -/
  | word (left : Bytes) (token : Token)
  deriving DecidableEq, Repr

/-- A scanner: what it is reading, and the tokens before that, last one first. -/
structure Scanner where
  reading : Reading
  tokens : List Token
  deriving DecidableEq, Repr

/-- The byte of an ASCII character. -/
def byte (c : Char) : UInt8 := UInt8.ofNat c.toNat

/-- The byte is a decimal digit. -/
def isDigit (b : UInt8) : Bool := byte '0' ≤ b && b ≤ byte '9'

/-- The byte is a hexadecimal digit. -/
def isHexDigit (b : UInt8) : Bool :=
  isDigit b || (byte 'a' ≤ b && b ≤ byte 'f') || (byte 'A' ≤ b && b ≤ byte 'F')

/-- The byte may stand between tokens. -/
def isSpace (b : UInt8) : Bool :=
  b == byte ' ' || b == byte '\n' || b == byte '\r' || b == byte '\t'

/-- The byte may follow a backslash on its own. -/
def isShortEscape (b : UInt8) : Bool := "\"\\/bfnrt".toList.any fun c => byte c == b

namespace NumberPart

/-- The part that a byte continues a number with. -/
def next? (p : NumberPart) (b : UInt8) : Option NumberPart :=
  match p with
  | minus => if b = byte '0' then some zero else if isDigit b then some whole else none
  | zero => behindWhole b
  | whole => if isDigit b then some whole else behindWhole b
  | point => if isDigit b then some fraction else none
  | fraction => if isDigit b then some fraction else behindFraction b
  | mark =>
    if b = byte '+' ∨ b = byte '-' then some sign else if isDigit b then some exponent else none
  | sign | exponent => if isDigit b then some exponent else none
where
  behindFraction (b : UInt8) : Option NumberPart :=
    if b = byte 'e' ∨ b = byte 'E' then some mark else none
  behindWhole (b : UInt8) : Option NumberPart :=
    if b = byte '.' then some point else behindFraction b

/-- A number may end behind this part. -/
def mayEnd : NumberPart → Bool
  | zero | whole | fraction | exponent => true
  | minus | point | mark | sign => false

end NumberPart

/-- What a byte between tokens begins: nothing, a token of its own, or something longer. -/
def begin? (b : UInt8) : Option (Reading × List Token) :=
  let single (t : Token) : Option (Reading × List Token) := some (.between, [t])
  if isSpace b then some (.between, [])
  else if b = byte '\x7b' then single (.opening .curly)
  else if b = byte '\x7d' then single (.closing .curly)
  else if b = byte '[' then single (.opening .square)
  else if b = byte ']' then single (.closing .square)
  else if b = byte ',' then single .comma
  else if b = byte ':' then single .colon
  else if b = byte '"' then some (.string [] .outside, [])
  else if b = byte '-' then some (.number [b] .minus, [])
  else if b = byte '0' then some (.number [b] .zero, [])
  else if isDigit b then some (.number [b] .whole, [])
  else if b = byte 't' then some (.word ("rue".toList.map byte) (.bool true), [])
  else if b = byte 'f' then some (.word ("alse".toList.map byte) (.bool false), [])
  else if b = byte 'n' then some (.word ("ull".toList.map byte) .null, [])
  else none

namespace Scanner

/-- Before the first byte. -/
def start : Scanner := ⟨.between, []⟩

/-- A byte between tokens. -/
def beginAt (tokens : List Token) (b : UInt8) : Option Scanner :=
  (begin? b).map fun (reading, more) => ⟨reading, more ++ tokens⟩

/-- A byte of a string. -/
def stepString (tokens : List Token) (raw : Bytes) (escape : Escape) (b : UInt8) :
    Option Scanner :=
  let more (e : Escape) : Option Scanner := some ⟨.string (b :: raw) e, tokens⟩
  match escape with
  | .outside =>
    if b = byte '"' then some ⟨.between, .string raw.reverse :: tokens⟩
    else if b = byte '\\' then more .begun
    else if b < 0x20 then none
    else more .outside
  | .begun =>
    if b = byte 'u' then more (.digits 4) else if isShortEscape b then more .outside else none
  | .digits 0 => none
  | .digits (left + 1) =>
    if isHexDigit b then more (if left = 0 then .outside else .digits left) else none

/-- What the next byte does to a scanner. -/
def step (s : Scanner) (b : UInt8) : Option Scanner :=
  match s.reading with
  | .between => beginAt s.tokens b
  | .string raw escape => stepString s.tokens raw escape b
  | .number raw part =>
    match part.next? b with
    | some p => some ⟨.number (b :: raw) p, s.tokens⟩
    | none => if part.mayEnd then beginAt (.number raw.reverse :: s.tokens) b else none
  | .word [] _ => none
  | .word (c :: left) token =>
    if b = c then
      if left.isEmpty then some ⟨.between, token :: s.tokens⟩
      else some ⟨.word left token, s.tokens⟩
    else none

/-- The tokens, once there are no more bytes. -/
def finish? (s : Scanner) : Option (List Token) :=
  match s.reading with
  | .between => some s.tokens.reverse
  | .number raw part =>
    if part.mayEnd then some (Token.number raw.reverse :: s.tokens).reverse else none
  | _ => none

/-- What a row of bytes does to a scanner. -/
def run (s : Scanner) (b : Bytes) : Option Scanner := b.foldlM step s

theorem run_append (s : Scanner) (b c : Bytes) : s.run (b ++ c) = (s.run b).bind (run · c) := by
  simp only [run, List.foldlM_append]
  rfl

end Scanner

/-- The tokens of a byte string. -/
def scan (b : Bytes) : Option (List Token) := (Scanner.start.run b).bind Scanner.finish?

end TriggerLatch.Json
