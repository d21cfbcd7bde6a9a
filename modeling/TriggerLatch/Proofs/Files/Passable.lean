import TriggerLatch.Proofs.Files.Changes

/-!
# Paths with nothing in the way

`Passable` says of the steps of a path that no file stands where they pass and that their names are
short enough.  What can go wrong on such a path is that something is missing
(`walk_or_notFound`), so **all directories on it can be made** (`makeAll_of_passable`).  A file can
be written or renamed wherever its path names an entry that is no directory (`write_of_names`,
`rename_of_names`).
-/

namespace TriggerLatch.Files

open Files.Tree

variable {t t' : Tree} {p above : Place} {name : Text} {front steps : List Step} {last : Step}

/-! ### Entries that paths name -/

theorem target_of_names (h : Names t steps above name) :
    target t steps = .ok (some (above ++ [name], t.at? (above ++ [name]))) := by
  obtain ⟨inside, hinside⟩ := h.directory
  rw [target, h.last]
  simp [h.walk_eq, directoryAt_eq_ok_iff.2 hinside, h.short, at?_append_singleton hinside, bind,
    Except.bind]

theorem write_of_names {path : Path} (hpath : checkPath path = .ok ())
    (hask : path.asksForDirectory = false) (hn : Names t path.steps above name)
    (hq : ¬ t.HasDirectory (above ++ [name])) (content : Bytes) :
    write t path content = .ok (t.put (.file content) (above ++ [name])) := by
  rw [write, hpath, target_of_names hn]
  simp only [bind, Except.bind, hask]
  split
  · next inside hinside => exact absurd ⟨inside, hinside⟩ hq
  · rfl

theorem rename_of_names {source destination : Path} {above' : Place} {name' : Text}
    {content : Bytes} (hs : checkPath source = .ok ()) (hd : checkPath destination = .ok ())
    (hn : Names t source.steps above name) (hfile : t.at? (above ++ [name]) = some (.file content))
    (hn' : Names t destination.steps above' name') (hq : ¬ t.HasDirectory (above' ++ [name'])) :
    ∃ t', rename t source destination = .ok t' := by
  rw [rename, hs, hd, target_of_names hn, target_of_names hn', hfile]
  simp only [bind, Except.bind]
  split
  · next inside hinside => exact absurd ⟨inside, hinside⟩ hq
  · split <;> exact ⟨_, rfl⟩

/-! ### Passing -/

/-- No file stands where the steps pass, and their names are short enough. -/
structure Passable (t : Tree) (steps : List Step) : Prop where
  clear : ∀ p content, OnWay steps p → t.kind? p ≠ some (.file content)
  short : ∀ name, .into name ∈ steps → isTooLong name = false

theorem Passable.of_prefix {steps' : List Step} (h : Passable t steps') (hs : steps <+: steps') :
    Passable t steps :=
  ⟨fun p content hp => h.clear p content (hp.mono hs), fun name hn => h.short name (hs.subset hn)⟩

theorem none_or_hasDirectory (h : ∀ content, t.kind? p ≠ some (.file content)) :
    t.at? p = none ∨ t.HasDirectory p := by
  cases he : t.at? p with
  | none => exact .inl rfl
  | some e =>
    cases e with
    | file content => exact absurd (kind?_eq_file_iff.2 he) (h content)
    | directory inside => exact .inr ⟨inside, he⟩

theorem directoryAt_of_none (h : t.at? p = none) : directoryAt t p = .error .notFound := by
  rw [directoryAt, h]

/-- **On a way that no file stands in, a walk leads to a directory or something is missing.** -/
theorem walk_or_notFound (p : Place) (steps : List Step)
    (hclear : ∀ front, front <+: steps → ∀ content, t.kind? (follow p front) ≠ some (.file content))
    (hshort : ∀ name, .into name ∈ steps → isTooLong name = false) :
    (∃ q, walk t p steps = .ok q ∧ t.HasDirectory q) ∨
      (walk t p steps >>= directoryAt t) = .error .notFound := by
  have hp : t.at? p = none ∨ t.HasDirectory p := none_or_hasDirectory (hclear [] List.nil_prefix)
  induction steps generalizing p with
  | nil =>
    rcases hp with hnone | hd
    · exact .inr (directoryAt_of_none hnone)
    · exact .inl ⟨p, by rw [walk], hd⟩
  | cons s rest ih =>
    rcases hp with hnone | hd
    · right
      rw [walk, directoryAt_of_none hnone]
      rfl
    · have hnext : ∀ front, front <+: rest → ∀ content,
          t.kind? (follow (followStep p s) front) ≠ some (.file content) :=
        fun front hf => hclear (s :: front) ((List.prefix_cons_inj s).2 hf)
      have ih := ih (followStep p s) hnext (fun name hn => hshort name (List.mem_cons_of_mem _ hn))
        (none_or_hasDirectory (hnext [] List.nil_prefix))
      obtain ⟨inside, hinside⟩ := hd
      have hat := directoryAt_eq_ok_iff.2 hinside
      cases s with
      | up =>
        have hw : walk t p (.up :: rest) = walk t p.dropLast rest := by
          rw [walk, hat]
          rfl
        rw [hw]
        exact ih
      | into name =>
        have hshort' := hshort name List.mem_cons_self
        cases hl : inside.lookup name with
        | none =>
          right
          rw [walk, hat]
          simp [bind, Except.bind, hshort', hl]
        | some e =>
          have hw : walk t p (.into name :: rest) = walk t (p ++ [name]) rest := by
            rw [walk, hat]
            simp [bind, Except.bind, hshort', hl]
          rw [hw]
          exact ih

/-! ### Making directories -/

/-- The steps lead to a directory at a place. -/
def LeadsTo (t : Tree) (steps : List Step) (p : Place) : Prop :=
  walk t [] steps = .ok p ∧ t.HasDirectory p

theorem isDirectory_of_leadsTo (h : LeadsTo t steps p) : isDirectory t steps = true := by
  obtain ⟨hw, inside, hinside⟩ := h
  rw [isDirectory, hw]
  simp only [directoryAt_eq_ok_iff.2 hinside]
  rfl

theorem settle_of_leadsTo (hmade : makeDirectory t steps = .error .alreadyExists)
    (hl : LeadsTo t steps p) :
    makeDirectory t steps ≠ .error .notFound ∧
      ∃ t' q, settle t steps (makeDirectory t steps) = (.ok (), t') ∧ LeadsTo t' steps q := by
  rw [hmade]
  refine ⟨by simp, t, p, ?_, hl⟩
  rw [settle, isDirectory_of_leadsTo hl]
  rfl

theorem makeDirectory_of_missing (last : Step)
    (h : (walk t [] front >>= directoryAt t) = .error .notFound) :
    makeDirectory t (front ++ [last]) = .error .notFound := by
  have htarget : target t (front ++ [last]) = .error .notFound := by
    cases hw : walk t [] front with
    | error e =>
      rw [hw] at h
      cases h
      simp [target, hw, bind, Except.bind]
    | ok p =>
      have hd : directoryAt t p = .error .notFound := by
        rw [hw] at h
        exact h
      simp [target, hw, hd, bind, Except.bind]
  rw [makeDirectory, htarget]
  rfl

theorem settle_below_leadsTo (hl : LeadsTo t front p) (h : Passable t (front ++ [last])) :
    makeDirectory t (front ++ [last]) ≠ .error .notFound ∧
      ∃ t' q, settle t (front ++ [last]) (makeDirectory t (front ++ [last])) = (.ok (), t') ∧
        LeadsTo t' (front ++ [last]) q := by
  obtain ⟨hw, hd⟩ := hl
  cases last with
  | up =>
    have htarget : target t (front ++ [.up]) = .ok none := by
      obtain ⟨inside, hinside⟩ := hd
      simp [target, hw, directoryAt_eq_ok_iff.2 hinside, bind, Except.bind]
    have hmade : makeDirectory t (front ++ [.up]) = .error .alreadyExists := by
      rw [makeDirectory, htarget]
      rfl
    have hleads : LeadsTo t (front ++ [.up]) p.dropLast :=
      ⟨walk_append hw (walk_cons_up.2 ⟨hd, by rw [walk]⟩), hd.dropLast⟩
    exact settle_of_leadsTo hmade hleads
  | into name =>
    have hn : Names t (front ++ [.into name]) p name :=
      ⟨by simp, by rw [List.dropLast_concat]; exact hw, hd, h.short name (by simp)⟩
    have hway : OnWay (front ++ [.into name]) (p ++ [name]) := hn.eq_follow ▸ onWay_self _
    rcases none_or_hasDirectory (h.clear _ · hway) with hnone | hdir
    · have hq := not_hasDirectory_of_none hnone
      have hmade : makeDirectory t (front ++ [.into name]) =
          .ok (t.put (.directory .empty) (p ++ [name])) := by
        rw [makeDirectory, target_of_names hn, hnone]
        rfl
      have hput := at?_put_of_names (.directory .empty) name hd
      have hn' := hn.of_keepsDirectories fun _ h => h.put (.directory .empty) hq
      rw [hmade]
      exact ⟨by simp, _, _, rfl, hn'.walk_steps (by rw [hput]; rfl), _, hput⟩
    · obtain ⟨inside, hinside⟩ := hdir
      have hmade : makeDirectory t (front ++ [.into name]) = .error .alreadyExists := by
        rw [makeDirectory, target_of_names hn, hinside]
        rfl
      have hleads : LeadsTo t (front ++ [.into name]) (p ++ [name]) :=
        ⟨hn.walk_steps (by rw [hinside]; rfl), inside, hinside⟩
      exact settle_of_leadsTo hmade hleads

theorem Passable.of_changes {made : Place → Prop} {but : List Place} (h : Passable t steps)
    (hc : Changes made but t t') (hb : ∀ p ∈ but, ¬ OnWay steps p) : Passable t' steps where
  clear p content hp := by
    rw [Ne, hc.file_iff fun hin => hb p hin hp]
    exact h.clear p content hp
  short := h.short

/-- The steps are given last one first. -/
theorem makeAllReversed_of_passable (steps : List Step) (h : Passable t steps.reverse) :
    ∃ t' q, makeAllReversed t steps = (.ok (), t') ∧ LeadsTo t' steps.reverse q := by
  induction steps with
  | nil => exact ⟨t, [], rfl, by rw [List.reverse_nil, walk], hasDirectory_nil t⟩
  | cons last above ih =>
    rw [List.reverse_cons] at h ⊢
    have habove : Passable t above.reverse := h.of_prefix (List.prefix_append _ _)
    rw [makeAllReversed]
    simp only [List.reverse_cons]
    rcases walk_or_notFound [] above.reverse
      (fun front hf content => habove.clear _ content ⟨front, hf, rfl⟩) habove.short with
      ⟨p, hw, hd⟩ | hmissing
    · obtain ⟨hne, t', q, hsettled, hleads⟩ := settle_below_leadsTo ⟨hw, hd⟩ h
      refine ⟨t', q, ?_, hleads⟩
      split
      · next hnot => exact absurd hnot hne
      · exact hsettled
    · -- what is missing is made first
      obtain ⟨t₁, p, hmade, hleads₁⟩ := ih habove
      have hchanges : Changes (OnWay above.reverse) [] t t₁ := by
        have hc : Changes (OnWay above.reverse) [] t (makeAllReversed t above).2 :=
          changes_makeAllReversed t above
        rwa [hmade] at hc
      obtain ⟨-, t', q, hsettled, hleads⟩ :=
        settle_below_leadsTo hleads₁ (h.of_changes hchanges (by simp))
      refine ⟨t', q, ?_, hleads⟩
      rw [makeDirectory_of_missing last hmissing, hmade]
      exact hsettled

/-- **All the directories of a passable path can be made.** -/
theorem makeAll_of_passable {path : Path} (hpath : checkPath path = .ok ())
    (h : Passable t path.steps) :
    ∃ t' q, makeAll t path = (.ok (), t') ∧ LeadsTo t' path.steps q := by
  have hne : path ≠ [] := by
    rintro rfl
    cases hpath
  rw [makeAll, if_neg hne, hpath]
  have hmade := makeAllReversed_of_passable path.steps.reverse (by rwa [List.reverse_reverse])
  rwa [List.reverse_reverse] at hmade

end TriggerLatch.Files
