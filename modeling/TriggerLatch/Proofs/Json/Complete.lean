import Mathlib.Tactic.ByContra
import Mathlib.Tactic.SplitIfs
import TriggerLatch.Json.Document

/-!
# Complete documents

A document is complete when its first bracket is closed.  The scanner keeps every token that it has
read, and each further byte adds to them unless it is a space between two tokens
(`Scanner.step_tokens`); the reader takes no token any more once the first bracket is closed.  So
**behind a complete document there are only spaces** (`Document.isSpace_of_append`), and what is cut
off a document, spaces apart, is not complete.
-/

namespace TriggerLatch.Json

/-! ### Tokens are never lost -/

theorem ite_ne {α : Type} {c : Prop} [Decidable c] {x y z : α} (hx : x ≠ z) (hy : y ≠ z) :
    (if c then x else y) ≠ z := by
  split <;> assumption

theorem isSpace_of_begin {b : UInt8} (h : begin? b = some (.between, [])) : isSpace b = true := by
  by_contra hb
  refine absurd h ?_
  rw [begin?, if_neg hb]
  -- whatever else a byte begins is a token or is still being read
  repeat' apply ite_ne
  all_goals nofun

namespace Scanner

variable {s s' : Scanner} {b : UInt8} {bytes : Bytes} {ts : List Token}

theorem beginAt_tokens (h : beginAt ts b = some s') :
    ∃ added, s'.tokens = added ++ ts ∧
      (added = [] → s'.reading = .between → isSpace b = true) := by
  obtain ⟨⟨reading, more⟩, hbegin, rfl⟩ := Option.map_eq_some_iff.1 h
  refine ⟨more, rfl, ?_⟩
  rintro rfl rfl
  exact isSpace_of_begin hbegin

/-- **A byte takes no token back**, and only a space between two tokens leaves nothing new. -/
theorem step_tokens (h : s.step b = some s') :
    ∃ added, s'.tokens = added ++ s.tokens ∧
      (added = [] → s'.reading = .between → s.reading = .between ∧ isSpace b = true) := by
  obtain ⟨reading, tokens⟩ := s
  cases reading with
  | between =>
    obtain ⟨added, htokens, hspace⟩ := beginAt_tokens h
    exact ⟨added, htokens, fun hadded hbetween => ⟨rfl, hspace hadded hbetween⟩⟩
  | string raw escape =>
    simp only [step, stepString] at h
    split at h
    · split_ifs at h <;> cases h
      · exact ⟨[.string raw.reverse], rfl, by simp⟩
      · exact ⟨[], rfl, nofun⟩
      · exact ⟨[], rfl, nofun⟩
    · split_ifs at h <;> cases h <;> exact ⟨[], rfl, nofun⟩
    · cases h
    · split_ifs at h <;> cases h <;> exact ⟨[], rfl, nofun⟩
  | number raw part =>
    simp only [step] at h
    split at h
    · cases h
      exact ⟨[], rfl, nofun⟩
    · split at h
      · obtain ⟨added, htokens, -⟩ := beginAt_tokens h
        exact ⟨added ++ [.number raw.reverse], by simp [htokens], by simp⟩
      · cases h
  | word left token =>
    cases left with
    | nil => cases h
    | cons c left =>
      simp only [step] at h
      split_ifs at h <;> cases h
      · exact ⟨[token], rfl, by simp⟩
      · exact ⟨[], rfl, nofun⟩

/-- **A text that is scanned to its end has the tokens that were there before it, and more unless
it is all spaces between two tokens.** -/
theorem finish?_of_run (h : s.run bytes = some s') (hf : s'.finish? = some ts) :
    ∃ more, ts = s.tokens.reverse ++ more ∧
      (more = [] → s.reading = .between ∧ ∀ b ∈ bytes, isSpace b = true) := by
  induction bytes generalizing s with
  | nil =>
    obtain rfl : s = s' := Option.some.inj h
    unfold finish? at hf
    split at hf
    · next hbetween =>
      cases hf
      exact ⟨[], by simp, fun _ => ⟨hbetween, by simp⟩⟩
    · next raw part _ =>
      split at hf
      · cases hf
        exact ⟨[.number raw.reverse], by simp, nofun⟩
      · cases hf
    · cases hf
  | cons b bytes ih =>
    obtain ⟨s₁, hstep, hrun⟩ := Option.bind_eq_some_iff.1 h
    obtain ⟨more, rfl, hmore⟩ := ih hrun
    obtain ⟨added, htokens, hadded⟩ := step_tokens hstep
    refine ⟨added.reverse ++ more, by simp [htokens], fun hnil => ?_⟩
    obtain ⟨hnone, hend⟩ := List.append_eq_nil_iff.1 hnil
    obtain ⟨hbetween₁, hspaces⟩ := hmore hend
    obtain ⟨hbetween, hspace⟩ := hadded (List.reverse_eq_nil_iff.1 hnone) hbetween₁
    exact ⟨hbetween, List.forall_mem_cons.2 ⟨hspace, hspaces⟩⟩

end Scanner

/-! ### The last bracket -/

namespace Reader

variable {r r' : Reader}

theorem opened_ne_nil_of_number {raw : Bytes} (h : r.step (.number raw) = some r') :
    r'.opened ≠ [] := by
  have hadd : r.add (.number raw) = some r' := by
    obtain ⟨opened, due, key, shape, entries⟩ := r
    cases due with
    | value | firstValue => exact h
    | _ => cases h
  unfold add at hadd
  split at hadd
  · cases hadd
  · next b hone =>
    cases hadd
    simp [hone]
  · next hnone _ =>
    cases hadd
    exact hnone

theorem step_of_closed (hr : r.opened = []) (hd : r.due = .separator) (t : Token) :
    r.step t = none := by
  unfold step
  rw [hd]
  cases t <;> simp [afterComma, closeBracket, hr]

theorem finish?_eq_some {d : Document} (h : r.finish? = some d) :
    r.opened = [] ∧ r.due = .separator := by
  unfold finish? at h
  split at h
  · next hopened hdue _ => exact ⟨hopened, hdue⟩
  · cases h

end Reader

/-- **Behind a complete document there are only spaces.** -/
theorem Document.isSpace_of_append {front back : Bytes} {d d' : Document}
    (h : ofBytes? front = some d) (h' : ofBytes? (front ++ back) = some d') :
    ∀ b ∈ back, isSpace b = true := by
  obtain ⟨ts, hscan, hread⟩ := Option.bind_eq_some_iff.1 h
  obtain ⟨s, hrun, hfinish⟩ := Option.bind_eq_some_iff.1 hscan
  obtain ⟨r, hts, hd⟩ := Option.bind_eq_some_iff.1 hread
  obtain ⟨hopened, hdue⟩ := Reader.finish?_eq_some hd
  -- the last token is the bracket that closes the document, and it is complete
  have htokens : ts = s.tokens.reverse := by
    unfold Scanner.finish? at hfinish
    split at hfinish
    · exact (Option.some.inj hfinish).symm
    · split at hfinish
      · cases hfinish
        rw [List.reverse_cons, Reader.run_append] at hts
        obtain ⟨r₁, -, hnumber⟩ := Option.bind_eq_some_iff.1 hts
        obtain ⟨r₂, hstep, hr⟩ := Option.bind_eq_some_iff.1 hnumber
        cases hr
        exact absurd hopened (Reader.opened_ne_nil_of_number hstep)
      · cases hfinish
    · cases hfinish
  obtain ⟨ts', hscan', hread'⟩ := Option.bind_eq_some_iff.1 h'
  obtain ⟨s', hrun', hfinish'⟩ := Option.bind_eq_some_iff.1 hscan'
  rw [Scanner.run_append, hrun, Option.bind_some] at hrun'
  obtain ⟨more, rfl, hspaces⟩ := Scanner.finish?_of_run hrun' hfinish'
  obtain ⟨r', hts', -⟩ := Option.bind_eq_some_iff.1 hread'
  rw [← htokens, Reader.run_append, hts, Option.bind_some] at hts'
  cases more with
  | nil => exact (hspaces rfl).2
  | cons t more =>
    obtain ⟨r₁, hstep, -⟩ := Option.bind_eq_some_iff.1 hts'
    rw [Reader.step_of_closed hopened hdue] at hstep
    cases hstep

end TriggerLatch.Json
