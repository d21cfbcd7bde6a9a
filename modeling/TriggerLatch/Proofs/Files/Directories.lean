import TriggerLatch.Files.Tree

/-!
# The directories of a tree

Which places of a tree are directories, and what filling and emptying places does to them: while the
place itself is no directory, every directory stays one (`Tree.HasDirectory.put`,
`Tree.HasDirectory.delete`), and emptying a place makes none (`Tree.HasDirectory.of_delete`).
-/

namespace TriggerLatch.Files

namespace Tree

/-- A directory is at the place. -/
def HasDirectory (t : Tree) (p : Place) : Prop := ∃ inside, t.at? p = some (.directory inside)

theorem not_hasDirectory_of_none {t : Tree} {p : Place} (h : t.at? p = none) :
    ¬ t.HasDirectory p := by
  rintro ⟨inside, hinside⟩
  cases h.symm.trans hinside

theorem not_hasDirectory_of_file {t : Tree} {p : Place} {content : Bytes}
    (h : t.at? p = some (.file content)) : ¬ t.HasDirectory p := by
  rintro ⟨inside, hinside⟩
  cases h.symm.trans hinside

/-! ### Places below a directory -/

theorem hasDirectory_nil (t : Tree) : t.HasDirectory [] := ⟨t, rfl⟩

theorem hasDirectory_cons_iff {t : Tree} {n : Text} {p : Place} :
    t.HasDirectory (n :: p) ↔
      ∃ inside, t.lookup n = some (.directory inside) ∧ inside.HasDirectory p := by
  rw [HasDirectory, at?_cons]
  cases hl : t.lookup n with
  | none => simp
  | some e =>
    cases e with
    | file c => cases p <;> simp
    | directory i => simp [HasDirectory]

theorem HasDirectory.of_append {t : Tree} {p q : Place} (h : t.HasDirectory (p ++ q)) :
    t.HasDirectory p := by
  induction p generalizing t with
  | nil => exact hasDirectory_nil t
  | cons n r ih =>
    rw [List.cons_append, hasDirectory_cons_iff] at h
    obtain ⟨i, hl, hi⟩ := h
    exact hasDirectory_cons_iff.2 ⟨i, hl, ih hi⟩

theorem hasDirectory_of_at?_append {t : Tree} {p r : Place} {e : Entry} (hr : r ≠ [])
    (h : t.at? (p ++ r) = some e) : t.HasDirectory p := by
  induction p generalizing t with
  | nil => exact hasDirectory_nil t
  | cons n s ih =>
    rw [List.cons_append, at?_cons] at h
    rw [hasDirectory_cons_iff]
    split at h
    · next inside hl => exact ⟨inside, hl, ih h⟩
    · have hne : s ++ r ≠ [] := by simp [hr]
      rw [if_neg hne] at h
      cases h
    · cases h

theorem HasDirectory.dropLast {t : Tree} {p : Place} (h : t.HasDirectory p) :
    t.HasDirectory p.dropLast := by
  rcases List.eq_nil_or_concat p with rfl | ⟨init, name, rfl⟩
  · exact h
  · rw [List.concat_eq_append] at h ⊢
    rw [List.dropLast_concat]
    exact h.of_append

theorem hasDirectory_alter_append {t : Tree} {p q : Place} (x : Option Entry) (hq : q ≠ [])
    (h : t.HasDirectory p) : (t.alter x (p ++ q)).HasDirectory p := by
  induction p generalizing t with
  | nil => exact hasDirectory_nil _
  | cons n r ih =>
    obtain ⟨i, hl, hi⟩ := hasDirectory_cons_iff.1 h
    rw [List.cons_append, alter_cons x (by simp [hq]) hl]
    exact hasDirectory_cons_iff.2 ⟨_, lookup_insert_self _ _ _, ih hi⟩

/-- A directory and a place that is none: the place lies inside the directory, or apart from it. -/
theorem append_or_apart {t : Tree} {p q : Place} (hp : t.HasDirectory p) (hq : ¬ t.HasDirectory q) :
    (∃ r, r ≠ [] ∧ q = p ++ r) ∨ Apart q p := by
  -- were the directory inside the other place, that would be one as well
  by_cases hpq : p <+: q
  · obtain ⟨r, rfl⟩ := hpq
    refine .inl ⟨r, ?_, rfl⟩
    rintro rfl
    exact hq (by rwa [List.append_nil])
  · refine .inr ⟨?_, hpq⟩
    rintro ⟨r, rfl⟩
    exact hq hp.of_append

theorem HasDirectory.alter {t : Tree} {p q : Place} (x : Option Entry) (hq : ¬ t.HasDirectory q)
    (hp : t.HasDirectory p) : (t.alter x q).HasDirectory p := by
  rcases append_or_apart hp hq with ⟨r, hr, rfl⟩ | ha
  · exact hasDirectory_alter_append x hr hp
  · rwa [HasDirectory, at?_alter_of_apart x ha]

theorem ne_nil_of_not_hasDirectory {t : Tree} {p : Place} (h : ¬ t.HasDirectory p) : p ≠ [] := by
  rintro rfl
  exact h (hasDirectory_nil t)

theorem HasDirectory.put {t : Tree} {p q : Place} (e : Entry) (hq : ¬ t.HasDirectory q)
    (hp : t.HasDirectory p) : (t.put e q).HasDirectory p := by
  rw [put_eq_alter]
  exact hp.alter _ hq

theorem HasDirectory.delete {t : Tree} {p q : Place} (hq : ¬ t.HasDirectory q)
    (hp : t.HasDirectory p) : (t.delete q).HasDirectory p := by
  rw [delete_eq_alter (ne_nil_of_not_hasDirectory hq)]
  exact hp.alter _ hq

theorem HasDirectory.of_delete {t : Tree} {p q : Place} (h : (t.delete q).HasDirectory p) :
    t.HasDirectory p := by
  induction q generalizing t p with
  | nil =>
    cases p with
    | nil => exact hasDirectory_nil t
    | cons m s =>
      obtain ⟨i, hl, -⟩ := hasDirectory_cons_iff.1 h
      cases hl
  | cons n r ih =>
    cases p with
    | nil => exact hasDirectory_nil t
    | cons m s =>
      rw [delete_eq_alter (List.cons_ne_nil n r)] at h
      obtain ⟨i, hl, hi⟩ := hasDirectory_cons_iff.1 h
      by_cases hnm : n = m
      · -- the entry goes itself, or something below it does, or there is nothing to empty
        subst hnm
        by_cases hr : r = []
        · subst hr
          rw [Tree.alter, Option.elim_none, lookup_erase_self] at hl
          cases hl
        · by_cases hd : ∃ d, t.lookup n = some (.directory d)
          · obtain ⟨d, hd⟩ := hd
            rw [alter_cons _ hr hd, lookup_insert_self] at hl
            cases hl
            rw [← delete_eq_alter hr] at hi
            exact hasDirectory_cons_iff.2 ⟨d, hd, ih hi⟩
          · rw [alter_cons_of_not_directory _ hr hd] at hl
            exact hasDirectory_cons_iff.2 ⟨i, hl, hi⟩
      · rw [lookup_alter_of_ne hnm] at hl
        exact hasDirectory_cons_iff.2 ⟨i, hl, hi⟩

end Tree

end TriggerLatch.Files
