import TriggerLatch.Panel
import TriggerLatch.Surface.Body
import TriggerLatch.Surface.Request

/-!
# The network surface

Three paths are served: the state of the latch, its reset, and a sign of life.  A path that answers
`GET` answers `HEAD` with the same headers and no body.  Any other method is not allowed, any other
path not found, and neither touches anything.  A reset answers the same whatever became of its
write, and afterwards publishes what the latch reads.
-/

namespace TriggerLatch.Surface

/-- A path that is served. -/
inductive Route where
  | status
  | reset
  | health
  deriving DecidableEq, Repr

namespace Route

/-- The path of a route. -/
def path : Route → Text
  | status => "/status".toList
  | reset => "/reset".toList
  | health => "/health".toList

/-- The route of a path. -/
def ofPath? (p : Text) : Option Route := [status, reset, health].find? (·.path == p)

/-- The methods that a route serves. -/
def methods : Route → List Text
  | reset => ["GET".toList, "HEAD".toList, "POST".toList]
  | status | health => ["GET".toList, "HEAD".toList]

end Route

/-- The method that asks for the headers alone. -/
def headMethod : Text := "HEAD".toList

/-- Texts with commas between them. -/
def commaSeparated : List Text → Text
  | [] => []
  | [t] => t
  | t :: ts => t ++ ',' :: commaSeparated ts

/-- A body in JSON. -/
def jsonType : Text := "application/json".toList

/-- A body in plain text. -/
def textType : Text := "text/plain; charset=utf-8".toList

/-- A response that succeeds, to a request with this method. -/
def success (method : Text) (type body : Text) : Response where
  status := 200
  contentType := some type
  allow := none
  contentLength := some (Utf8.encode body).length
  body := if method = headMethod then [] else body

/-- The path is served, but not with this method. -/
def notAllowed (r : Route) : Response :=
  ⟨405, none, some (commaSeparated r.methods), some 0, []⟩

/-- The path is not served; one that does not begin with a slash is answered with a length. -/
def notFound (path : Text) : Response :=
  ⟨404, none, none, if path.head? = some '/' then none else some 0, []⟩

/-- What is said about a reset that ends so. -/
def resetNotices : Ending (Except PersistError Unit) → List Notice
  | .returned (.ok ()) => []
  | .returned (.error e) => [.resetNotPersisted e]
  | .panicked reason => [.resetPanicked reason]
  | .blocked => []

/-- A reset asked for over the network. -/
def resetPanel (p : Panel) : Panel :=
  let wasTriggered := p.latch.read
  let (r, latch) := p.latch.reset
  { latch
    feed := p.feed.publish latch.read
    notices := p.notices ++ resetNotices r ++ if wasTriggered then [.triggerReset] else [] }

/-- What a route does for a request with a method that it serves. -/
def serve (method : Text) (p : Panel) : Route → Response × Panel
  | .status => (success method jsonType (flagBody statusField p.latch.read), p)
  | .reset => (success method jsonType (flagBody resetField true), resetPanel p)
  | .health => (success method textType "OK".toList, p)

/-- **The answer to a request.** -/
def handle (r : Request) (p : Panel) : Response × Panel :=
  match Route.ofPath? r.path with
  | none => (notFound r.path, p)
  | some route =>
    if route.methods.contains r.method then serve r.method p route else (notAllowed route, p)

end TriggerLatch.Surface
