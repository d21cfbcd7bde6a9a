import TriggerLatch.Text.Utf8

/-!
# Requests and responses

What reaches the network surface and what leaves it.  Of a request's target only the path decides:
a query or fragment is cut off, and so are scheme and host where they are given.
-/

namespace TriggerLatch.Surface

/-- A request. -/
structure Request where
  method : Text
  target : Text
  body : Bytes
  deriving DecidableEq, Repr

/-- A response, with the headers that matter. -/
structure Response where
  status : Nat
  contentType : Option Text
  allow : Option Text
  contentLength : Option Nat
  body : Text
  deriving DecidableEq, Repr

/-- The character ends a path. -/
def endsPath (c : Char) : Bool := c == '?' || c == '#'

/-- What follows `://`, if the text holds that. -/
def behindScheme? : Text → Option Text
  | ':' :: '/' :: '/' :: r => some r
  | _ :: r => behindScheme? r
  | [] => none

/-- The path of a target; where the target holds a scheme and a host and nothing more, it is a
single slash. -/
def pathOf (target : Text) : Text :=
  match target with
  | '/' :: _ => target.takeWhile (!endsPath ·)
  | ['*'] => target
  | _ =>
    match behindScheme? target with
    | none => []
    | some r =>
      let rest := (r.takeWhile (!endsPath ·)).dropWhile (· != '/')
      if rest = [] then ['/'] else rest

/-- The path of a request. -/
def Request.path (r : Request) : Text := pathOf r.target

end TriggerLatch.Surface
