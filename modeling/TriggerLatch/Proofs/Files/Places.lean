import TriggerLatch.Proofs.Files.Access

/-!
# Where paths lead

There are no links here, so a path leads to one place or to none, and its steps alone say which
(`placeOf`).  A file that can be read is at the place that its path names (`read_eq_ok`), and
**what was written can be read there** (`read_of_write`).
-/

namespace TriggerLatch.Files

open Files.Tree

variable {t t' : Tree} {p q above : Place} {name : Text}

/-- One step further. -/
def followStep (p : Place) : Step → Place
  | .up => p.dropLast
  | .into name => p ++ [name]

/-- The place that steps lead to, if to any. -/
def follow (p : Place) (steps : List Step) : Place := steps.foldl followStep p

/-- The place that a path leads to, if to any. -/
def placeOf (p : Path) : Place := follow [] p.steps

theorem follow_append (p : Place) (front back : List Step) :
    follow p (front ++ back) = follow (follow p front) back := List.foldl_append

theorem eq_follow_of_walk {steps : List Step} (h : walk t p steps = .ok q) :
    q = follow p steps := by
  induction steps generalizing p with
  | nil =>
    cases h
    rfl
  | cons s rest ih =>
    cases s with
    | up => exact ih (walk_cons_up.1 h).2
    | into name => exact ih (walk_cons_into h).2.2.2

theorem Names.eq_follow {steps : List Step} (h : Names t steps above name) :
    above ++ [name] = follow [] steps := by
  obtain ⟨init, hinit⟩ := List.getLast?_eq_some_iff.1 h.last
  have hw := h.walk_eq
  rw [hinit, List.dropLast_concat] at hw
  rw [hinit, follow, List.foldl_append, eq_follow_of_walk hw]
  rfl

theorem walk_append_split {s₁ s₂ : List Step} {r : Place} (h : walk t p (s₁ ++ s₂) = .ok r) :
    ∃ q, walk t p s₁ = .ok q ∧ walk t q s₂ = .ok r := by
  induction s₁ generalizing p with
  | nil => exact ⟨p, rfl, h⟩
  | cons s rest ih =>
    cases s with
    | up =>
      obtain ⟨hp, hw⟩ := walk_cons_up.1 h
      obtain ⟨q, hq, hr⟩ := ih hw
      exact ⟨q, walk_cons_up.2 ⟨hp, hq⟩, hr⟩
    | into name =>
      obtain ⟨hp, hl, hs, hw⟩ := walk_cons_into h
      obtain ⟨q, hq, hr⟩ := ih hw
      exact ⟨q, walk_into hp hl hs hq, hr⟩

/-! ### Reading and writing -/

theorem read_eq_ok {path : Path} {content : Bytes} (h : read t path = .ok content) :
    checkPath path = .ok () ∧ path.asksForDirectory = false ∧ ∃ above name,
      Names t path.steps above name ∧ t.at? (above ++ [name]) = some (.file content) := by
  simp only [read, resolve, bind_eq_ok_iff] at h
  obtain ⟨place, ⟨⟨⟩, hcheck, hwalk⟩, h⟩ := h
  split at h
  · next found hfile =>
    split at h
    · cases h
    · next hask =>
      cases h
      refine ⟨hcheck, by simpa using hask, ?_⟩
      rcases List.eq_nil_or_concat path.steps with hnil | ⟨init, last, hsteps⟩
      · -- the root is no file
        rw [hnil] at hwalk
        cases hwalk
        cases hfile
      · rw [List.concat_eq_append] at hsteps
        rw [hsteps] at hwalk ⊢
        obtain ⟨above, hinit, hlast⟩ := walk_append_split hwalk
        cases last with
        | up =>
          -- a step up leads to a directory
          obtain ⟨hdir, hup⟩ := walk_cons_up.1 hlast
          cases hup
          exact absurd hdir.dropLast (not_hasDirectory_of_file hfile)
        | into name =>
          obtain ⟨hdir, hshort, -, hend⟩ := walk_cons_into hlast
          cases hend
          refine ⟨above, name, ⟨by simp, ?_, hdir, hshort⟩, hfile⟩
          rw [List.dropLast_concat]
          exact hinit
  · cases h
  · cases h

/-- **What was written can be read.** -/
theorem read_of_write {path : Path} {content : Bytes} (h : write t path content = .ok t') :
    read t' path = .ok content := by
  obtain ⟨above, name, hn, hq, ht⟩ := write_eq_ok h
  have hpath : checkPath path = .ok () ∧ path.asksForDirectory = false := by
    simp only [write, bind_eq_ok_iff] at h
    obtain ⟨⟨⟩, hcheck, found, -, h⟩ := h
    split at h
    · cases h
    · split at h
      · cases h
      · split at h
        · cases h
        · next hask => exact ⟨hcheck, by simpa using hask⟩
  subst ht
  have hn' := hn.of_keepsDirectories fun _ h => h.put (.file content) hq
  exact read_of_names hpath.1 hpath.2 hn' (at?_put_of_names _ _ hn.directory)

end TriggerLatch.Files
