import TriggerLatch.Store.Record

/-!
# Bodies of answers

The answers of the network surface that carry a value are objects with one flag: `triggered` in an
answer about the latch's state, `reset` in an answer to a reset.
-/

namespace TriggerLatch.Surface

/-- The object that holds one flag. -/
def flagBody (name : Text) (value : Bool) : Text :=
  "\x7b\"".toList ++ name ++ "\":".toList ++ flagText value ++ "\x7d".toList

/-- The flag that an object holds, among whatever else. -/
def readFlag (name : Text) (b : Bytes) : Option Bool := do
  let d ← Json.Document.ofBytes? b
  match ← d.fields? [name] with
  | [item] => item.bool?
  | _ => none

/-- The flag of an answer about the state. -/
def statusField : Text := "triggered".toList

/-- The flag of an answer to a reset. -/
def resetField : Text := "reset".toList

end TriggerLatch.Surface
