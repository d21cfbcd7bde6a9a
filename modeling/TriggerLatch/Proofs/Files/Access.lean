import TriggerLatch.Files.Access
import TriggerLatch.Proofs.Except
import TriggerLatch.Proofs.Files.Directories

/-!
# File operations that succeed

A walk that ends at a directory passes directories only, so it leads to the same place in every tree
that has kept them (`walk_of_keepsDirectories`).  `Names` says what the last step of a path names; a
write or a rename that succeeds is described by what its paths name (`write_eq_ok`, `rename_eq_ok`).

**What was written to one path and renamed to another can be read there**
(`read_of_write_rename`), whatever lies where in the tree.
-/

namespace TriggerLatch.Files

/-! ### Following a path -/

open Files.Tree

theorem directoryAt_eq_ok_iff {t i : Tree} {p : Place} :
    directoryAt t p = .ok i ↔ t.at? p = some (.directory i) := by
  unfold directoryAt
  split <;> simp_all

/-- The second tree has every directory that the first one has. -/
def KeepsDirectories (t t' : Tree) : Prop := ∀ p, t.HasDirectory p → t'.HasDirectory p

theorem walk_cons_into {t : Tree} {p q : Place} {name : Text} {rest : List Step}
    (h : walk t p (.into name :: rest) = .ok q) :
    t.HasDirectory p ∧ isTooLong name = false ∧ (t.at? (p ++ [name])).isSome = true ∧
      walk t (p ++ [name]) rest = .ok q := by
  rw [walk] at h
  cases hd : directoryAt t p with
  | error e => rw [hd] at h; cases h
  | ok i =>
    have hi := directoryAt_eq_ok_iff.1 hd
    rw [hd] at h
    simp only [bind, Except.bind] at h
    split at h
    · cases h
    · split at h
      · cases h
      · rename_i hlong hnone
        refine ⟨⟨i, hi⟩, by simpa using hlong, ?_, h⟩
        rw [at?_append_singleton hi]
        simpa [Option.isNone_iff_eq_none, Option.isSome_iff_ne_none] using hnone

theorem walk_into {t : Tree} {p q : Place} {name : Text} {rest : List Step}
    (hd : t.HasDirectory p) (hl : isTooLong name = false) (hs : (t.at? (p ++ [name])).isSome = true)
    (h : walk t (p ++ [name]) rest = .ok q) : walk t p (.into name :: rest) = .ok q := by
  obtain ⟨i, hi⟩ := hd
  rw [at?_append_singleton hi] at hs
  have hn : (i.lookup name).isNone = false := by
    simpa [Option.isNone_iff_eq_none, Option.isSome_iff_ne_none] using hs
  rw [walk, directoryAt_eq_ok_iff.2 hi]
  simp [bind, Except.bind, hl, hn, h]

theorem walk_cons_up {t : Tree} {p q : Place} {rest : List Step} :
    walk t p (.up :: rest) = .ok q ↔ t.HasDirectory p ∧ walk t p.dropLast rest = .ok q := by
  rw [walk]
  cases hd : directoryAt t p with
  | error e =>
    have : ¬ t.HasDirectory p := by
      rintro ⟨i, hi⟩
      rw [directoryAt_eq_ok_iff.2 hi] at hd
      cases hd
    simp [bind, Except.bind, this]
  | ok i =>
    have hp : t.HasDirectory p := ⟨i, directoryAt_eq_ok_iff.1 hd⟩
    simp [bind, Except.bind, hp]

theorem hasDirectory_of_walk {t : Tree} {p q : Place} {steps : List Step}
    (h : walk t p steps = .ok q) (hq : t.HasDirectory q) : t.HasDirectory p := by
  cases steps with
  | nil => rw [walk] at h; cases h; exact hq
  | cons s rest =>
    cases s with
    | up => exact (walk_cons_up.1 h).1
    | into name => exact (walk_cons_into h).1

/-- **A walk to a directory leads to the same place while the directories are kept.** -/
theorem walk_of_keepsDirectories {t t' : Tree} (hk : KeepsDirectories t t') {p q : Place}
    {steps : List Step} (h : walk t p steps = .ok q) (hq : t.HasDirectory q) :
    walk t' p steps = .ok q := by
  induction steps generalizing p with
  | nil => rw [walk] at h ⊢; exact h
  | cons s rest ih =>
    cases s with
    | up =>
      obtain ⟨hp, hw⟩ := walk_cons_up.1 h
      exact walk_cons_up.2 ⟨hk p hp, ih hw⟩
    | into name =>
      obtain ⟨hp, hl, -, hw⟩ := walk_cons_into h
      -- what is passed on the way is a directory, and so is kept
      obtain ⟨i, hi⟩ := hk _ (hasDirectory_of_walk hw hq)
      exact walk_into (hk p hp) hl (by rw [hi]; rfl) (ih hw)

theorem walk_append {t : Tree} {p q r : Place} {s₁ s₂ : List Step} (h₁ : walk t p s₁ = .ok q)
    (h₂ : walk t q s₂ = .ok r) : walk t p (s₁ ++ s₂) = .ok r := by
  induction s₁ generalizing p with
  | nil => rw [walk] at h₁; cases h₁; exact h₂
  | cons s rest ih =>
    cases s with
    | up =>
      obtain ⟨hp, hw⟩ := walk_cons_up.1 h₁
      exact walk_cons_up.2 ⟨hp, ih hw⟩
    | into name =>
      obtain ⟨hp, hl, hs, hw⟩ := walk_cons_into h₁
      exact walk_into hp hl hs (ih hw)

/-- The steps lead to a directory and name an entry in it, which may be missing. -/
structure Names (t : Tree) (steps : List Step) (above : Place) (name : Text) : Prop where
  last : steps.getLast? = some (.into name)
  walk_eq : walk t [] steps.dropLast = .ok above
  directory : t.HasDirectory above
  short : isTooLong name = false

theorem Names.of_keepsDirectories {t t' : Tree} {steps : List Step} {above : Place} {name : Text}
    (h : Names t steps above name) (hk : KeepsDirectories t t') : Names t' steps above name :=
  ⟨h.last, walk_of_keepsDirectories hk h.walk_eq h.directory, hk _ h.directory, h.short⟩

theorem Names.unique {t : Tree} {steps : List Step} {above above' : Place} {name name' : Text}
    (h : Names t steps above name) (h' : Names t steps above' name') :
    above = above' ∧ name = name' := by
  have hw := h.walk_eq.symm.trans h'.walk_eq
  have hl := h.last.symm.trans h'.last
  cases hw; cases hl
  exact ⟨rfl, rfl⟩

theorem Names.walk_steps {t : Tree} {steps : List Step} {above : Place} {name : Text}
    (h : Names t steps above name) (hs : (t.at? (above ++ [name])).isSome = true) :
    walk t [] steps = .ok (above ++ [name]) := by
  obtain ⟨init, rfl⟩ := List.getLast?_eq_some_iff.1 h.last
  have hw := h.walk_eq
  rw [List.dropLast_concat] at hw
  exact walk_append hw (walk_into h.directory h.short hs (by rw [walk]))

theorem names_of_target {t : Tree} {steps : List Step} {place : Place} {there : Option Entry}
    (h : target t steps = .ok (some (place, there))) :
    ∃ above name, Names t steps above name ∧ place = above ++ [name] ∧ there = t.at? place := by
  unfold target at h
  split at h
  · cases h
  · rename_i last hlast
    simp only [bind_eq_ok_iff] at h
    obtain ⟨above, hw, inside, hd, h⟩ := h
    have hi := directoryAt_eq_ok_iff.1 hd
    cases last with
    | up => cases h
    | into name =>
      simp only at h
      split at h
      · cases h
      · rename_i hl
        cases h
        exact ⟨above, name, ⟨hlast, hw, ⟨inside, hi⟩, by simpa using hl⟩, rfl,
          (at?_append_singleton hi name).symm⟩

/-! ### Operations that succeed -/

theorem write_eq_ok {t t' : Tree} {p : Path} {content : Bytes} (h : write t p content = .ok t') :
    ∃ above name, Names t p.steps above name ∧ ¬ t.HasDirectory (above ++ [name]) ∧
      t' = t.put (.file content) (above ++ [name]) := by
  simp only [write, bind_eq_ok_iff] at h
  obtain ⟨-, -, found, hf, h⟩ := h
  split at h
  · cases h
  · rename_i place there
    obtain ⟨above, name, hn, rfl, rfl⟩ := names_of_target hf
    split at h
    · cases h
    · rename_i hdir
      split at h
      · cases h
      · cases h
        exact ⟨above, name, hn, fun ⟨i, hi⟩ => hdir i hi, rfl⟩

theorem rename_eq_ok {t t' : Tree} {p q : Path} (h : rename t p q = .ok t') :
    checkPath q = .ok () ∧ ∃ above name content above' name',
      Names t p.steps above name ∧ t.at? (above ++ [name]) = some (.file content) ∧
      Names t q.steps above' name' ∧ ¬ t.HasDirectory (above' ++ [name']) ∧
      t' = if above ++ [name] = above' ++ [name'] then t
        else (t.delete (above ++ [name])).put (.file content) (above' ++ [name']) := by
  simp only [rename, bind_eq_ok_iff] at h
  obtain ⟨-, -, ⟨⟩, hq, source, hs, destination, hd, h⟩ := h
  refine ⟨hq, ?_⟩
  split at h
  · rename_i place content place' there
    obtain ⟨above, name, hn, rfl, hfile⟩ := names_of_target hs
    obtain ⟨above', name', hn', rfl, rfl⟩ := names_of_target hd
    split at h
    · cases h
    · rename_i hdir
      refine ⟨above, name, content, above', name', hn, hfile.symm, hn', ?_, ?_⟩
      · rintro ⟨i, hi⟩
        exact hdir i hi
      · split at h <;> rename_i hpp
        · cases h; rw [if_pos hpp]
        · cases h; rw [if_neg hpp]
  · cases h
  · cases h

theorem read_of_names {t : Tree} {p : Path} {above : Place} {name : Text} {content : Bytes}
    (hp : checkPath p = .ok ()) (hd : p.asksForDirectory = false) (hn : Names t p.steps above name)
    (hf : t.at? (above ++ [name]) = some (.file content)) : read t p = .ok content := by
  have hw := hn.walk_steps (by rw [hf]; rfl)
  have hr : resolve t p = .ok (above ++ [name]) := by
    rw [resolve, hp]
    exact hw
  rw [read, hr]
  simp [bind, Except.bind, hf, hd]

theorem at?_put_of_names {t : Tree} {above : Place} (e : Entry) (name : Text)
    (h : t.HasDirectory above) : (t.put e (above ++ [name])).at? (above ++ [name]) = some e := by
  obtain ⟨i, hi⟩ := h
  exact at?_put_self e name hi

/-- **What was written to one path and renamed to another can be read there.** -/
theorem read_of_write_rename {t t₁ t₂ : Tree} {p q : Path} {content : Bytes}
    (hd : q.asksForDirectory = false) (hw : write t p content = .ok t₁)
    (hr : rename t₁ p q = .ok t₂) : read t₂ q = .ok content := by
  obtain ⟨above, name, hn, hplace, rfl⟩ := write_eq_ok hw
  have hk : KeepsDirectories t (t.put (.file content) (above ++ [name])) :=
    fun _ h => h.put _ hplace
  have hfile := at?_put_of_names (.file content) name hn.directory
  obtain ⟨hq, above₁, name₁, content₁, above', name', hn₁, hf₁, hn', hplace', rfl⟩ :=
    rename_eq_ok hr
  -- the path that was written names the same place before and after
  obtain ⟨rfl, rfl⟩ := (hn.of_keepsDirectories hk).unique hn₁
  rw [hfile] at hf₁
  cases hf₁
  split
  · -- both paths name one place
    rename_i hpp
    rw [hpp] at hfile ⊢
    exact read_of_names hq hd (hpp ▸ hn') hfile
  · -- the file is no directory, so neither taking it away nor putting it back removes one
    have hnone : ¬ (t.put (.file content) (above ++ [name])).HasDirectory (above ++ [name]) := by
      rintro ⟨i, hi⟩
      rw [hfile] at hi
      cases hi
    have hk₁ : KeepsDirectories (t.put (.file content) (above ++ [name]))
        ((t.put (.file content) (above ++ [name])).delete (above ++ [name])) :=
      fun _ h => h.delete hnone
    have hplace₁ := fun h => hplace' (HasDirectory.of_delete (q := above ++ [name]) h)
    have hn₂ := hn'.of_keepsDirectories hk₁
    have hn₃ := hn₂.of_keepsDirectories fun _ h => h.put (.file content) hplace₁
    exact read_of_names hq hd hn₃ (at?_put_of_names _ _ hn₂.directory)

end TriggerLatch.Files
