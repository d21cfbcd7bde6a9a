import TriggerLatch.Proofs.Store.Record
import TriggerLatch.Proofs.Store.Saves

/-!
# What a store keeps

**What a store has saved it loads** (`Store.load_of_save`), in memory or in a file, whatever the
tree of files looked like before the save.  In a file this is the round trip of the record, behind
the write and the rename that put it in its place.
-/

namespace TriggerLatch

namespace Path

theorem getLast?_pieces_append {t : Text} (ht : '/' ∉ t) (s : Text) :
    ∃ u, (pieces (s ++ t)).getLast? = some (u ++ t) := by
  induction s with
  | nil => exact ⟨[], by rw [List.nil_append, pieces_of_no_slash ht]; rfl⟩
  | cons c r ih =>
    obtain ⟨u, hu⟩ := ih
    rw [List.cons_append, pieces]
    split
    · exact ⟨u, by rw [List.getLast?_cons_of_ne_nil (pieces_ne_nil _)]; exact hu⟩
    · cases hp : pieces (r ++ t) with
      | nil => exact absurd hp (pieces_ne_nil _)
      | cons p ps =>
        rw [hp] at hu
        cases ps with
        | nil =>
          obtain rfl : p = u ++ t := by simpa using hu
          exact ⟨c :: u, rfl⟩
        | cons q qs => exact ⟨u, by simpa using hu⟩

theorem join_eq_append (p q : Path) : ∃ s, join p q = s ++ q := by
  unfold join
  split
  · exact ⟨[], rfl⟩
  · split
    · exact ⟨p, rfl⟩
    · exact ⟨p ++ ['/'], by simp⟩

end Path

theorem StoreKey.asksForDirectory_recordPath (root : Path) (k : StoreKey) :
    (k.recordPath root).asksForDirectory = false := by
  -- the last piece ends in the suffix of a record, which is longer than a dot
  obtain ⟨s, hs⟩ := Path.join_eq_append (Path.join root k.namespaceName) (k.name ++ recordSuffix)
  obtain ⟨u, hu⟩ := Path.getLast?_pieces_append (t := recordSuffix) (by decide) (s ++ k.name)
  rw [← List.append_assoc] at hs
  have hl : (u ++ recordSuffix).length = u.length + 5 := by rw [List.length_append]; rfl
  have hdot : ¬ (u ++ recordSuffix = [] ∨ u ++ recordSuffix = ['.']) := by
    rintro (e | e) <;> rw [e] at hl <;> simp at hl
  have hstep : (Path.stepOf (u ++ recordSuffix)).isNone = false := by
    rw [Path.stepOf, if_neg hdot]
    split <;> rfl
  rw [recordPath, Path.asksForDirectory, hs, hu]
  exact hstep

namespace FileStore

/-- **A value that was saved in a file is loaded again.** -/
theorem load_of_save {t t' : Files.Tree} {record : Path} {now : Timestamp} {value : Bool}
    (hr : record.asksForDirectory = false) (h : save t record now value = (.ok (), t')) :
    load t' record = .ok (some value) := by
  obtain ⟨t₁, t₂, hwrite, hrename⟩ := save_eq_ok h
  have hread := Files.read_of_write_rename hr hwrite hrename
  rw [load, hread]
  simp only [Record.decode_encode]
  rfl

end FileStore

/-- The store is one that is made: in memory, or in the file of a key. -/
inductive Store.Made : Store → Prop
  | memory : Made .memory
  | file (root : Path) (k : StoreKey) : Made (.file (k.recordPath root))

/-- **What a store has saved it loads.** -/
theorem Store.load_of_save {s : Store} (hs : s.Made) {now : Timestamp} {value : Bool}
    {m m' : Medium} (h : s.save now value m = (.ok (), m')) : s.load m' = .ok (some value) := by
  cases hs with
  | memory => cases h; rfl
  | file root k =>
    obtain ⟨hr, rfl⟩ := Prod.mk.inj h
    exact FileStore.load_of_save (StoreKey.asksForDirectory_recordPath root k) (Prod.ext hr rfl)

end TriggerLatch
