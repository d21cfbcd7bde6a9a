import Mathlib.Data.Stream.Init
import Mathlib.Logic.Function.Basic
import TriggerLatch.Proofs.Monitor.Exchange

/-!
# Devices that follow a script

A `Script` says what a device does with the calls that it gets: for each kind of call, a stream of
deliveries, of which each call takes the next (`Peer.scripted`).  The kinds may be the routes that
are called, or there may be a single one.

An exchange that ends in an answer (`Arrives`) depends only on the deliveries that its calls take:
put in front of any other script (`Script.restore`), **they make it come out the same and leave that
other script** (`exchange_restore`).  On any device, that answer is the one to the last of the
calls, to which each of the calls before was redirected (`leads_of_exchange`).
-/

namespace TriggerLatch.Monitor

/-! ### Answers that arrive -/

/-- The call, or what it is redirected to, is answered in time; `redirects` and `limit` are what
may be spent on it. -/
inductive Arrives {σ : Type} (peer : Peer σ) :
    (redirects limit : Nat) → Call → σ → Reply → σ → Prop
  | last {redirects limit after : Nat} {c : Call} {a : Answer} {s s' : σ}
    (hhttp : c.url.isHttp = true) (hpeer : peer c s = (.answered after a, s'))
    (hafter : after ≤ limit) (hlast : c.next? a = none) :
    Arrives peer redirects limit c s ⟨some a, after, [c]⟩ s'
  | redirected {redirects limit after : Nat} {c next : Call} {a : Answer} {r : Reply} {s s' s'' : σ}
    (hhttp : c.url.isHttp = true) (hpeer : peer c s = (.answered after a, s'))
    (hafter : after ≤ limit) (hnext : c.next? a = some next)
    (h : Arrives peer redirects (limit - after) next s' r s'') :
    Arrives peer (redirects + 1) limit c s (r.behind after c) s''

section Arrivals

variable {σ : Type} {peer : Peer σ} {redirects limit : Nat} {c : Call} {r : Reply} {s s' : σ}

theorem Arrives.follow_eq (h : Arrives peer redirects limit c s r s') :
    follow peer redirects limit c s = (r, s') := by
  induction h with
  | last hhttp hpeer hafter hlast => exact follow_of_answered hhttp hpeer hafter hlast
  | redirected hhttp hpeer hafter hnext h ih =>
    unfold follow
    rw [hhttp, hpeer]
    simp only [Bool.not_true, Bool.false_eq_true, if_false, if_neg (Nat.not_lt.2 hafter), hnext, ih]

/-- **Where a call comes to an answer, this answer has arrived.** -/
theorem arrives_of_follow (h : follow peer redirects limit c s = (r, s'))
    (ha : r.answer.isSome = true) : Arrives peer redirects limit c s r s' := by
  fun_induction follow peer redirects limit c s generalizing r s' with
  | case1 | case2 | case3 | case4 | case6 =>
    cases h
    cases ha
  | case5 redirects limit c s hhttp after a s' hpeer hafter hlast =>
    cases h
    exact .last (by simpa using hhttp) hpeer (Nat.not_lt.1 hafter) hlast
  | case7 limit c s hhttp after a s' hpeer hafter next hnext redirects r s'' hfollow ih =>
    cases h
    exact .redirected (by simpa using hhttp) hpeer (Nat.not_lt.1 hafter) hnext (ih hfollow ha)

/-! ### Where answers come from -/

/-- The answer sends whoever makes the call `c` on to the call `next`. -/
structure Call.Redirects (c : Call) (a : Answer) (next : Call) : Prop where
  status : a.status ∈ [301, 302, 303, 307, 308]
  place : ∃ location, a.location = some location ∧ c.url.resolve? location = some next.url
  method : next.method = if a.status ∈ [301, 302, 303] then .get else c.method

theorem Call.next?_eq_some_iff {c next : Call} {a : Answer} :
    c.next? a = some next ↔ c.Redirects a next := by
  unfold next?
  constructor
  · intro h
    split at h
    · next hstatus =>
      obtain ⟨url, hurl, rfl⟩ := Option.map_eq_some_iff.1 h
      exact ⟨hstatus, Option.bind_eq_some_iff.1 hurl, rfl⟩
    · cases h
  · rintro ⟨hstatus, hplace, hmethod⟩
    have hredirects : a.status ∈ Answer.redirectStatuses := hstatus
    have hurl : a.location.bind c.url.resolve? = some next.url := Option.bind_eq_some_iff.2 hplace
    have hseeOther : next.method =
        if a.status ∈ Answer.seeOtherStatuses then .get else c.method := hmethod
    rw [if_pos hredirects, hurl, Option.map_some, ← hseeOther]

/-- The calls are made from `c` on: each is answered with a redirect to the next, and the last with
`a`, which redirects nowhere. -/
inductive Leads (peer : Peer σ) (a : Answer) : Call → List Call → Prop
  | last {c : Call} {after : Nat} {s s' : σ} (hpeer : peer c s = (.answered after a, s'))
      (hlast : ∀ next, ¬ c.Redirects a next) : Leads peer a c [c]
  | redirected {c next : Call} {cs : List Call} {b : Answer} {after : Nat} {s s' : σ}
      (hpeer : peer c s = (.answered after b, s')) (hnext : c.Redirects b next)
      (h : Leads peer a next cs) : Leads peer a c (c :: cs)

theorem Arrives.leads {a : Answer} (h : Arrives peer redirects limit c s r s')
    (ha : r.answer = some a) : Leads peer a c r.calls := by
  induction h with
  | last hhttp hpeer hafter hlast =>
    obtain rfl := Option.some_inj.1 ha
    refine .last hpeer fun next hnext => ?_
    cases hlast.symm.trans (Call.next?_eq_some_iff.2 hnext)
  | redirected hhttp hpeer hafter hnext h ih =>
    exact .redirected hpeer (Call.next?_eq_some_iff.1 hnext) (ih ha)

/-- **An exchange comes to the answer to its last call**, which its first call has led to. -/
theorem leads_of_exchange {method : Method} {address : Text} {a : Answer}
    (h : (exchange peer limit method address s).1.answer = some a) :
    ∃ url, Url.ofText? address = some url ∧
      Leads peer a ⟨method, url⟩ (exchange peer limit method address s).1.calls := by
  unfold exchange at h ⊢
  split at h
  · cases h
  · next url hurl =>
    have harrives := arrives_of_follow rfl (Option.isSome_of_eq_some h)
    simp only [hurl]
    exact ⟨url, rfl, harrives.leads h⟩

end Arrivals

/-! ### Scripts -/

/-- What a device is going to do with the calls of each kind, one after the other. -/
abbrev Script (κ : Type) := κ → Stream' Delivery

variable {κ : Type} [DecidableEq κ] {kind : Call → κ}

namespace Script

/-- Without the next delivery of a kind. -/
def skip (s : Script κ) (k : κ) : Script κ := Function.update s k (s k).tail

/-- With one more delivery of a kind in front. -/
def push (s : Script κ) (k : κ) (d : Delivery) : Script κ := Function.update s k ((s k).cons d)

@[simp] theorem head_push (s : Script κ) (k : κ) (d : Delivery) : (s.push k d k).head = d := by
  simp [push]

@[simp] theorem skip_push (s : Script κ) (k : κ) (d : Delivery) : (s.push k d).skip k = s := by
  simp [push, skip]

@[simp] theorem push_skip (s : Script κ) (k : κ) : (s.skip k).push k (s k).head = s := by
  simp [push, skip]

/-- The script `t`, with the deliveries in front that calls take from `s`. -/
def restore (kind : Call → κ) (s : Script κ) : List Call → Script κ → Script κ
  | [], t => t
  | c :: cs, t => (restore kind (s.skip (kind c)) cs t).push (kind c) (s (kind c)).head

end Script

/-- A device that follows a script. -/
def Peer.scripted (kind : Call → κ) : Peer (Script κ) := fun c s =>
  ((s (kind c)).head, s.skip (kind c))

section Scripted

variable {redirects limit : Nat} {c : Call} {r : Reply} {s s' : Script κ}

/-- **An answer arrives in the same way from another script that begins with the same deliveries**,
and what follows them is left. -/
theorem Arrives.restore (h : Arrives (.scripted kind) redirects limit c s r s') (t : Script κ) :
    Arrives (.scripted kind) redirects limit c (s.restore kind r.calls t) r t := by
  induction h with
  | last hhttp hpeer hafter hlast =>
    refine .last hhttp ?_ hafter hlast
    obtain ⟨hhead, rfl⟩ := Prod.mk.inj hpeer
    simp [Peer.scripted, Script.restore, hhead]
  | redirected hhttp hpeer hafter hnext h ih =>
    obtain ⟨hhead, rfl⟩ := Prod.mk.inj hpeer
    refine .redirected hhttp ?_ hafter hnext ih
    simp [Peer.scripted, Script.restore, Reply.behind, hhead]

/-- The calls have taken what stands between the two scripts. -/
theorem Arrives.restore_self (h : Arrives (.scripted kind) redirects limit c s r s') :
    s.restore kind r.calls s' = s := by
  induction h with
  | last hhttp hpeer hafter hlast =>
    obtain ⟨hhead, rfl⟩ := Prod.mk.inj hpeer
    simp [Script.restore]
  | redirected hhttp hpeer hafter hnext h ih =>
    obtain ⟨hhead, rfl⟩ := Prod.mk.inj hpeer
    rw [Reply.behind, Script.restore, ih, Script.push_skip]

theorem exchange_restore {method : Method} {address : Text}
    (h : exchange (.scripted kind) limit method address s = (r, s'))
    (ha : r.answer.isSome = true) :
    s.restore kind r.calls s' = s ∧
      ∀ t, exchange (.scripted kind) limit method address (s.restore kind r.calls t) = (r, t) := by
  unfold exchange at h ⊢
  split at h
  · cases h
    cases ha
  · next url hurl =>
    have harrives := arrives_of_follow h ha
    exact ⟨harrives.restore_self, fun t => (harrives.restore t).follow_eq⟩

end Scripted

end TriggerLatch.Monitor
