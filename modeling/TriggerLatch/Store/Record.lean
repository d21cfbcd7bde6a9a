import TriggerLatch.Calendar.Timestamp.Reader
import TriggerLatch.Json.Field

/-!
# Records

What a store keeps of a latch: the value, when it was written, and the version of the record's own
form.  `Record.encode` writes a record and `Record.decode` reads one.
-/

namespace TriggerLatch

/-- The value of a latch as it is kept. -/
structure Record where
  schema : UInt32
  triggered : Bool
  savedAt : Timestamp
  deriving DecidableEq, Repr

/-- The bytes of ASCII text. -/
def ascii (s : Text) : Bytes := s.map Json.byte

/-- A flag as it is written. -/
def flagText (b : Bool) : Text := if b then "true".toList else "false".toList

namespace Record

/-- The version of the form in which records are written, and the only one accepted. -/
def currentSchema : UInt32 := 1

/-- The fields of a record, in the order in which they are written. -/
def fieldNames : List Text :=
  ["schema_version".toList, "triggered".toList, "saved_at".toList]

/-- The record of a value written now. -/
def current (now : Timestamp) (value : Bool) : Record := ⟨currentSchema, value, now⟩

/-- A record as text. -/
def display (r : Record) : Text :=
  "\x7b\"schema_version\":".toList ++ Decimal.digits r.schema.toNat ++
    ",\"triggered\":".toList ++ flagText r.triggered ++
    ",\"saved_at\":\"".toList ++ r.savedAt.display ++ "\"\x7d".toList

/-- A record as bytes. -/
def encode (r : Record) : Bytes := ascii r.display

/-- The record that a byte string is. -/
def decode (b : Bytes) : Option Record := do
  let d ← Json.Document.ofBytes? b
  match ← d.fields? fieldNames with
  | [schema, triggered, savedAt] => do
    let schema ← schema.nat? 4294967295
    let triggered ← triggered.bool?
    let savedAt ← savedAt.text?.bind Timestamp.ofText?
    some ⟨UInt32.ofNat schema, triggered, savedAt⟩
  | _ => none

end Record

end TriggerLatch
