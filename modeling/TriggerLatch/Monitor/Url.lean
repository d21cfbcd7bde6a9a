import TriggerLatch.Monitor.BaseUrl

/-!
# Addresses of requests

A `Url` names a machine and what is asked of it.  The monitor makes one from a base address and a
path, and resolves the locations that answers name against it (`Url.resolve?`).
-/

namespace TriggerLatch

/-- The address of a request. -/
structure Url where
  scheme : Text
  authority : Text
  /-- The path and the query, beginning with a slash. -/
  target : Text
  deriving DecidableEq, Repr

namespace Url

/-- Everything up to the first `://`, and everything behind it. -/
def splitScheme : Text → Option (Text × Text)
  | ':' :: '/' :: '/' :: r => some ([], r)
  | c :: r => (splitScheme r).map fun (scheme, rest) => (c :: scheme, rest)
  | [] => none

/-- A target for what follows an authority; a fragment is cut off. -/
def targetOf (s : Text) : Text :=
  let s := s.takeWhile (· != '#')
  if s.head? = some '/' then s else '/' :: s

/-- The character ends an authority. -/
def endsAuthority (c : Char) : Bool := c == '/' || c == '?' || c == '#'

/-- The address written as `scheme://authority/path`; letters of the scheme are made small.  An
authority is not empty and holds no blanks. -/
def ofText? (s : Text) : Option Url := do
  let (scheme, rest) ← splitScheme s
  let authority := rest.takeWhile (!endsAuthority ·)
  if scheme = [] || authority = [] || authority.any isBlank then none
  else some ⟨scheme.map Char.toLower, authority, targetOf (rest.dropWhile (!endsAuthority ·))⟩

/-- The address can be asked. -/
def isHttp (u : Url) : Bool := u.scheme == "http".toList

/-- The path alone. -/
def path (u : Url) : Text := u.target.takeWhile (· != '?')

/-- The path up to its last slash. -/
def directory (u : Url) : Text := (u.path.reverse.dropWhile (· != '/')).reverse

/-- The address that a location names, seen from `u`. -/
def resolve? (u : Url) (location : Text) : Option Url :=
  match location with
  | '/' :: '/' :: r => ofText? (u.scheme ++ BaseUrl.schemeMark ++ r)
  | '/' :: _ => some { u with target := targetOf location }
  | '?' :: _ => some { u with target := targetOf (u.path ++ location) }
  | [] => some u
  | _ =>
    if BaseUrl.contains BaseUrl.schemeMark location then ofText? location
    else some { u with target := targetOf (u.directory ++ location) }

end Url

end TriggerLatch
