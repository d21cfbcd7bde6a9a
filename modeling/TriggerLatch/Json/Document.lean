import TriggerLatch.Json.Token

/-!
# Documents of JSON

A document is an object or an array.  Only what stands directly in it is kept: whatever is nested
deeper is checked for its form and then passed over (`Item.nested`), to any depth, since the open
brackets are kept in a list.  A document is read by a fold over its tokens.
-/

namespace TriggerLatch.Json

/-- A value that stands directly in a document. -/
inductive Item where
  | null
  | bool (value : Bool)
  | number (raw : Bytes)
  | string (raw : Bytes)
  /-- An object or array. -/
  | nested
  deriving DecidableEq, Repr

/-- An object or array: its values in order, in an object behind their keys. -/
structure Document where
  shape : Bracket
  entries : List (Bytes × Item)
  deriving DecidableEq, Repr

/-- What may come next. -/
inductive Due where
  /-- A value. -/
  | value
  /-- The first value of an array, or its end. -/
  | firstValue
  /-- The first key of an object, or its end. -/
  | firstKey
  /-- A key. -/
  | key
  /-- The colon behind a key. -/
  | colon
  /-- A comma or the end of what is open. -/
  | separator
  deriving DecidableEq, Repr

/-- A document that is being read. -/
structure Reader where
  /-- The brackets that are open, innermost first. -/
  opened : List Bracket
  due : Due
  /-- The last key read directly in the document. -/
  key : Bytes
  /-- The shape of the document, once it has begun. -/
  shape : Option Bracket
  /-- What was read, last one first. -/
  entries : List (Bytes × Item)
  deriving DecidableEq, Repr

/-- Exactly one bracket is open: what comes now stands directly in the document. -/
def isOutermost : List Bracket → Bool
  | [_] => true
  | _ => false

namespace Reader

/-- Before the first token. -/
def start : Reader := ⟨[], .value, [], none, []⟩

/-- A value ends here; it is kept if it stands directly in the document. -/
def add (r : Reader) (item : Item) : Option Reader :=
  match r.opened with
  | [] => none
  | [_] => some { r with due := .separator, entries := (r.key, item) :: r.entries }
  | _ => some { r with due := .separator }

/-- A bracket opens. -/
def openBracket (r : Reader) (b : Bracket) : Reader :=
  { r with
    opened := b :: r.opened
    shape := r.shape.or (some b)
    due := match b with
      | .square => .firstValue
      | .curly => .firstKey }

/-- The innermost bracket closes. -/
def closeBracket (r : Reader) (b : Bracket) : Option Reader :=
  match r.opened with
  | [] => none
  | c :: outer =>
    if b = c then
      let r := { r with opened := outer, due := .separator }
      if isOutermost outer then r.add .nested else some r
    else none

/-- A value begins, or is there at once. -/
def value (r : Reader) : Token → Option Reader
  | .null => r.add .null
  | .bool b => r.add (.bool b)
  | .number raw => r.add (.number raw)
  | .string raw => r.add (.string raw)
  | .opening b => some (r.openBracket b)
  | _ => none

/-- A key is read; it is kept if it stands directly in the document. -/
def readKey (r : Reader) (raw : Bytes) : Reader :=
  { r with due := .colon, key := if isOutermost r.opened then raw else r.key }

/-- Behind a comma: a key in an object, a value in an array. -/
def afterComma (r : Reader) : Option Reader :=
  match r.opened with
  | [] => none
  | .curly :: _ => some { r with due := .key }
  | .square :: _ => some { r with due := .value }

/-- What the next token does to a reader. -/
def step (r : Reader) (t : Token) : Option Reader :=
  match r.due, t with
  | .value, t => r.value t
  | .firstValue, .closing .square => r.closeBracket .square
  | .firstValue, t => r.value t
  | .firstKey, .closing .curly => r.closeBracket .curly
  | .firstKey, .string raw => some (r.readKey raw)
  | .key, .string raw => some (r.readKey raw)
  | .colon, .colon => some { r with due := .value }
  | .separator, .comma => r.afterComma
  | .separator, .closing b => r.closeBracket b
  | _, _ => none

/-- The document, once there are no more tokens. -/
def finish? (r : Reader) : Option Document :=
  match r.opened, r.due, r.shape with
  | [], .separator, some shape => some ⟨shape, r.entries.reverse⟩
  | _, _, _ => none

/-- What a row of tokens does to a reader. -/
def run (r : Reader) (ts : List Token) : Option Reader := ts.foldlM step r

theorem run_append (r : Reader) (ts us : List Token) :
    r.run (ts ++ us) = (r.run ts).bind (run · us) := by
  simp only [run, List.foldlM_append]
  rfl

end Reader

/-- The document that a row of tokens is. -/
def Document.ofTokens? (ts : List Token) : Option Document :=
  (Reader.start.run ts).bind Reader.finish?

/-- The document that a byte string is. -/
def Document.ofBytes? (b : Bytes) : Option Document := (scan b).bind Document.ofTokens?

end TriggerLatch.Json
