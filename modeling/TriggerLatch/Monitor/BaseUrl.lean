import TriggerLatch.Text.Blank

/-!
# Base addresses of devices

The monitor pastes request paths behind a base address.  `BaseUrl.normalise` makes one from what
a user types: blanks around it and slashes behind it go, and a text without `://` gets the scheme
`http://`.
-/

namespace TriggerLatch.BaseUrl

/-- What separates a scheme from the rest. -/
def schemeMark : Text := "://".toList

/-- The scheme of an address that names none. -/
def defaultScheme : Text := "http://".toList

/-- The device asked when no address is given. -/
def standard : Text := "http://127.0.0.1:8080".toList

/-- Without its trailing slashes. -/
def dropSlashes (s : Text) : Text := (s.reverse.dropWhile (· == '/')).reverse

/-- The text contains `part`. -/
def contains (part : Text) : Text → Bool
  | [] => part.isEmpty
  | c :: r => part.isPrefixOf (c :: r) || contains part r

/-- The base address for a typed one. -/
def normalise (raw : Text) : Text :=
  let bare := dropSlashes raw.trim
  if contains schemeMark bare then bare else defaultScheme ++ bare

theorem contains_iff {part s : Text} : contains part s = true ↔ part <:+: s := by
  induction s with
  | nil => cases part <;> simp [contains]
  | cons c r ih =>
    simp only [contains, Bool.or_eq_true, List.isPrefixOf_iff_prefix, ih, List.infix_cons_iff]

end TriggerLatch.BaseUrl
