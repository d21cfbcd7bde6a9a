import Mathlib.Data.List.Basic
import TriggerLatch.Proofs.Json.Complete
import TriggerLatch.Proofs.Store.AllOrNothing

/-!
# Damaged records

A written record ends in the bracket that it begins with, so nothing that is missing a part of its
end is a document, and neither is anything that goes on behind it (`Record.Damaged`).  **A damaged
record is read as no value**: it does not load, and a latch that is seeded from it starts idle
(`FileStore.seed_of_damaged`).
-/

namespace TriggerLatch

open Json

namespace Record

variable {r : Record} {b : Bytes}

/-- The bytes of a record that was cut off, or that goes on with more than spaces. -/
inductive Damaged (r : Record) : Bytes → Prop
  | cut {front back : Bytes} (h : r.encode = front ++ back) (hback : back ≠ []) : Damaged r front
  | continued {more : Bytes} (h : ∃ b ∈ more, isSpace b = false) : Damaged r (r.encode ++ more)

theorem Damaged.of_cut (h : b <+: r.encode) (hne : b ≠ r.encode) : Damaged r b := by
  obtain ⟨back, hback⟩ := h
  refine .cut hback.symm ?_
  rintro rfl
  exact hne (by simpa using hback)

theorem getLast?_encode (r : Record) : r.encode.getLast? = some (byte '\x7d') := by
  rw [encode_eq]
  simp only [← List.append_assoc]
  exact List.getLast?_append_of_ne_nil _ (by decide)

/-- **A damaged record is not read.** -/
theorem Damaged.decode_eq_none (h : Damaged r b) : decode b = none := by
  have hwhole := ofBytes?_encode r
  suffices hnone : Document.ofBytes? b = none by
    rw [decode, hnone]
    rfl
  rw [Option.eq_none_iff_forall_ne_some]
  intro d hd
  cases h with
  | @cut _ back h hback =>
    rw [h] at hwhole
    have hspaces := Document.isSpace_of_append hd hwhole
    -- the bracket at the end is no space
    have hend : byte '\x7d' ∈ back := by
      refine List.mem_of_getLast? ?_
      rw [← List.getLast?_append_of_ne_nil b hback, ← h, getLast?_encode]
    exact absurd (hspaces _ hend) (by decide)
  | continued h =>
    obtain ⟨x, hx, hspace⟩ := h
    have hspaces := Document.isSpace_of_append hwhole hd
    exact absurd (hspaces x hx) (by simp [hspace])

end Record

namespace FileStore

open Files

/-- **A damaged record is never taken for a value.** -/
theorem seed_of_damaged (r : Record) {b : Bytes} (h : r.Damaged b) :
    Record.decode b = none ∧ ∀ (t : Tree) (record : Path), read t record = .ok b →
      load t record = .error .malformed ∧
      ∀ backing : Backing, backing.store = .file record → backing.medium.files = t →
        (Latch.seed backing).cell = .idle ∧
        (backing.loadError = none →
          Latch.seedNotices backing = [.loadFailed .malformed, .seeded false]) := by
  have hdecode := h.decode_eq_none
  refine ⟨hdecode, fun t record hread => ?_⟩
  have hload : load t record = .error .malformed := by
    rw [load, hread]
    simp only [hdecode]
  refine ⟨hload, ?_⟩
  rintro backing hstore rfl
  have hstored : backing.store.load backing.medium = .error .malformed := by
    rw [hstore]
    exact hload
  constructor
  · have hvalue : Latch.seedValue backing = false := by
      unfold Latch.seedValue Backing.load
      cases backing.loadError with
      | some e => rfl
      | none => simp only [hstored]
    rw [Latch.seed, hvalue]
    rfl
  · intro hnone
    unfold Latch.seedNotices Backing.load
    simp only [hnone, hstored]

/-- A record that was cut off in the middle of its time, and one with a second bracket behind it. -/
theorem seed_of_damaged_in_time_and_behind :
    let r := Record.current leapSecond true
    let cut := r.encode.take 60
    let continued := r.encode ++ ascii "\n\x7d".toList
    let record := (StoreKey.mk [] "key".toList).recordPath "/state".toList
    let b : Bytes → Backing := fun bytes =>
      ⟨.file record, ⟨none, stateTree (.file "key.json".toList bytes .empty)⟩, none, [], [], 0,
        leapSecond⟩
    r.Damaged cut ∧ Record.decode cut = none ∧ (Latch.seed (b cut)).cell = .idle ∧
      r.Damaged continued ∧ Record.decode continued = none ∧
      (Latch.seed (b continued)).cell = .idle ∧ (Latch.seed (b r.encode)).read = true := by
  intro r cut continued record b
  have hread : ∀ bytes, read (b bytes).medium.files record = .ok bytes := fun _ => rfl
  have hcut : r.Damaged cut := .of_cut (List.take_prefix _ _) (by decide +kernel)
  have hcontinued : r.Damaged continued := .continued ⟨byte '\x7d', by decide, by decide⟩
  obtain ⟨hdecode, hseed⟩ := seed_of_damaged r hcut
  obtain ⟨hdecode', hseed'⟩ := seed_of_damaged r hcontinued
  have hwhole : Latch.seedValue (b r.encode) = true :=
    seedValue_of_load (b := b r.encode) rfl rfl (load_of_read (hread _))
  exact ⟨hcut, hdecode, ((hseed _ _ (hread cut)).2 (b cut) rfl rfl).1, hcontinued, hdecode',
    ((hseed' _ _ (hread continued)).2 (b continued) rfl rfl).1, hwhole⟩

end FileStore

end TriggerLatch
