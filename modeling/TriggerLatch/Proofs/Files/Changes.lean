import TriggerLatch.Proofs.Files.Places

/-!
# What file operations change

A tree is looked at from outside: at each place there is nothing, a directory, or a file with its
bytes (`Tree.kind?`).  `Changes` says of two trees that they look the same but for some given
places, and for directories that were made where nothing was.  Each file operation changes what it
is about and nothing else (`changes_write`, `changes_rename`, `changes_makeAll`); directories are
made only where the steps of the path pass (`OnWay`).

A file at another place is left untouched (`Changes.untouched`), so what could be read can still be
read.  But a path that climbs out of a directory leads nowhere while that directory is missing, so
making directories can bring a file into sight.  **Where a path climbs out of directories that are
there, it reads the same after such changes** (`Changes.read_iff`).
-/

namespace TriggerLatch.Files

/-- What is at a place, whatever lies inside it. -/
inductive Kind where
  | file (content : Bytes)
  | directory
  deriving DecidableEq, Repr

/-- What an entry looks like from outside. -/
def Entry.kind : Entry → Kind
  | .file content => .file content
  | .directory _ => .directory

/-- The entry has nothing inside it. -/
def Entry.Bare (e : Entry) : Prop := ∀ inside, e = .directory inside → inside = .empty

namespace Tree

/-- What is at a place, if anything is. -/
def kind? (t : Tree) (p : Place) : Option Kind := (t.at? p).map Entry.kind

variable {t : Tree} {p above : Place} {name : Text} {e : Entry}

theorem kind?_eq_none_iff : t.kind? p = none ↔ t.at? p = none := by
  rw [kind?, Option.map_eq_none_iff]

theorem kind?_eq_directory_iff : t.kind? p = some .directory ↔ t.HasDirectory p := by
  rw [kind?, Option.map_eq_some_iff]
  constructor
  · rintro ⟨e, he, hk⟩
    cases e with
    | file content => cases hk
    | directory inside => exact ⟨inside, he⟩
  · rintro ⟨inside, h⟩
    exact ⟨_, h, rfl⟩

theorem kind?_eq_file_iff {content : Bytes} :
    t.kind? p = some (.file content) ↔ t.at? p = some (.file content) := by
  rw [kind?, Option.map_eq_some_iff]
  constructor
  · rintro ⟨e, he, hk⟩
    cases e with
    | file content' =>
      cases hk
      exact he
    | directory inside => cases hk
  · exact fun h => ⟨_, h, rfl⟩

theorem HasDirectory.of_prefix (ha : t.HasDirectory above) (h : p <+: above ++ [name])
    (hne : p ≠ above ++ [name]) : t.HasDirectory p := by
  rcases List.prefix_concat_iff.1 h with h | ⟨r, rfl⟩
  · exact absurd h hne
  · exact ha.of_append

theorem at?_append {inside : Tree} (h : t.at? p = some (.directory inside)) (q : Place) :
    t.at? (p ++ q) = inside.at? q := by
  induction p generalizing t with
  | nil =>
    cases h
    rfl
  | cons n r ih =>
    rw [at?_cons] at h
    rw [List.cons_append, at?_cons]
    split at h
    · next i hl => exact ih h
    · split at h <;> cases h
    · cases h

theorem at?_empty (h : p ≠ []) : empty.at? p = none := by
  obtain ⟨n, r, rfl⟩ := List.exists_cons_of_ne_nil h
  rw [at?_cons]
  rfl

theorem kind?_append_eq_none {r : Place} (hr : r ≠ []) (h : ¬ t.HasDirectory p) :
    t.kind? (p ++ r) = none := by
  rw [kind?_eq_none_iff, ← Option.not_isSome_iff_eq_none]
  intro hs
  obtain ⟨e, he⟩ := Option.isSome_iff_exists.1 hs
  exact h (hasDirectory_of_at?_append hr he)

theorem kind?_append_of_bare {r : Place} (he : e.Bare) (hr : r ≠ []) (h : t.at? p = some e) :
    t.kind? (p ++ r) = none := by
  cases e with
  | file content =>
    exact kind?_append_eq_none hr (not_hasDirectory_of_file h)
  | directory inside =>
    obtain rfl := he inside rfl
    rw [kind?, at?_append h, at?_empty hr]
    rfl

theorem kind?_put_self (ha : t.HasDirectory above) :
    (t.put e (above ++ [name])).kind? (above ++ [name]) = some e.kind := by
  rw [kind?, at?_put_of_names e name ha]
  rfl

theorem kind?_alter_of_not_below (x : Option Entry) (ha : t.HasDirectory above)
    (hq : ¬ t.HasDirectory (above ++ [name])) (hbelow : ¬ above ++ [name] <+: p) :
    (t.alter x (above ++ [name])).kind? p = t.kind? p := by
  by_cases habove : p <+: above ++ [name]
  · -- the place is on the way there, so it is a directory before and after
    have hne : p ≠ above ++ [name] := by
      rintro rfl
      exact hbelow List.prefix_rfl
    have hp := ha.of_prefix habove hne
    rw [kind?_eq_directory_iff.2 hp, kind?_eq_directory_iff.2 (hp.alter x hq)]
  · rw [kind?, kind?, at?_alter_of_apart x ⟨hbelow, habove⟩]

theorem exists_eq_append_of_below {q : Place} (hbelow : q <+: p) (hne : p ≠ q) :
    ∃ r, r ≠ [] ∧ p = q ++ r := by
  obtain ⟨r, rfl⟩ := hbelow
  refine ⟨r, ?_, rfl⟩
  rintro rfl
  exact hne (List.append_nil _)

/-- **Filling a place with a bare entry changes nothing anywhere else.** -/
theorem kind?_put_of_ne (he : e.Bare) (ha : t.HasDirectory above)
    (hq : ¬ t.HasDirectory (above ++ [name])) (hne : p ≠ above ++ [name]) :
    (t.put e (above ++ [name])).kind? p = t.kind? p := by
  by_cases hbelow : above ++ [name] <+: p
  · obtain ⟨r, hr, rfl⟩ := exists_eq_append_of_below hbelow hne
    rw [kind?_append_of_bare he hr (at?_put_of_names e name ha), kind?_append_eq_none hr hq]
  · rw [put_eq_alter, kind?_alter_of_not_below _ ha hq hbelow]

theorem kind?_delete_self (t : Tree) (above : Place) (name : Text) :
    (t.delete (above ++ [name])).kind? (above ++ [name]) = none :=
  kind?_eq_none_iff.2 (at?_delete_self name)

/-- **Emptying a place that is no directory changes nothing anywhere else.** -/
theorem kind?_delete_of_ne (ha : t.HasDirectory above) (hq : ¬ t.HasDirectory (above ++ [name]))
    (hne : p ≠ above ++ [name]) : (t.delete (above ++ [name])).kind? p = t.kind? p := by
  by_cases hbelow : above ++ [name] <+: p
  · obtain ⟨r, hr, rfl⟩ := exists_eq_append_of_below hbelow hne
    have hq' : ¬ (t.delete (above ++ [name])).HasDirectory (above ++ [name]) :=
      fun h => hq (HasDirectory.of_delete h)
    rw [kind?_append_eq_none hr hq', kind?_append_eq_none hr hq]
  · rw [delete_eq_alter (ne_nil_of_not_hasDirectory hq), kind?_alter_of_not_below _ ha hq hbelow]

end Tree

open Files.Tree

variable {t t' t'' : Tree} {made : Place → Prop} {but : List Place}

/-- From `t` to `t'` no directory was lost, and directories were made at some of the places `made`,
where nothing was; apart from that, and from the places `but`, everything looks as it did. -/
structure Changes (made : Place → Prop) (but : List Place) (t t' : Tree) : Prop where
  directories : KeepsDirectories t t'
  looks : ∀ p, p ∉ but →
    t'.kind? p = t.kind? p ∨ (made p ∧ t.kind? p = none ∧ t'.kind? p = some .directory)

theorem Changes.refl (made : Place → Prop) (but : List Place) (t : Tree) : Changes made but t t :=
  ⟨fun _ h => h, fun _ _ => .inl rfl⟩

theorem Changes.trans (h : Changes made but t t') (h' : Changes made but t' t'') :
    Changes made but t t'' where
  directories p hp := h'.directories p (h.directories p hp)
  looks p hp := by
    rcases h.looks p hp with hsame | ⟨hm, hnone, hdir⟩
    · rcases h'.looks p hp with hsame' | ⟨hm, hnone, hdir⟩
      · exact .inl (hsame'.trans hsame)
      · exact .inr ⟨hm, hsame ▸ hnone, hdir⟩
    · rcases h'.looks p hp with hsame' | ⟨-, hnone', -⟩
      · exact .inr ⟨hm, hnone, hsame'.trans hdir⟩
      · -- a directory that was made is something
        cases hdir.symm.trans hnone'

theorem Changes.mono {made' : Place → Prop} {but' : List Place} (h : Changes made but t t')
    (hm : ∀ p, made p → made' p) (hb : but ⊆ but') : Changes made' but' t t' where
  directories := h.directories
  looks p hp := by
    rcases h.looks p fun hin => hp (hb hin) with hsame | ⟨hmade, hnone, hdir⟩
    · exact .inl hsame
    · exact .inr ⟨hm p hmade, hnone, hdir⟩

theorem Changes.file_iff {p : Place} {content : Bytes} (h : Changes made but t t') (hp : p ∉ but) :
    t'.kind? p = some (.file content) ↔ t.kind? p = some (.file content) := by
  rcases h.looks p hp with hsame | ⟨-, hnone, hdir⟩
  · rw [hsame]
  · simp [hnone, hdir]

/-- Where directories were made is where the steps of a path pass. -/
def OnWay (steps : List Step) (p : Place) : Prop := ∃ front, front <+: steps ∧ p = follow [] front

theorem OnWay.mono {steps steps' : List Step} {p : Place} (h : OnWay steps p)
    (hs : steps <+: steps') : OnWay steps' p := by
  obtain ⟨front, hf, hp⟩ := h
  exact ⟨front, hf.trans hs, hp⟩

theorem onWay_self (steps : List Step) : OnWay steps (follow [] steps) :=
  ⟨steps, List.prefix_refl _, rfl⟩

/-! ### The operations -/

theorem bare_file (content : Bytes) : (Entry.file content).Bare := nofun

theorem bare_empty : (Entry.directory .empty).Bare := by
  rintro inside ⟨⟩
  rfl

/-- **A file that is written, and nothing else, looks different.** -/
theorem changes_write (made : Place → Prop) {path : Path} {content : Bytes}
    (h : write t path content = .ok t') :
    t'.kind? (placeOf path) = some (.file content) ∧ Changes made [placeOf path] t t' := by
  obtain ⟨above, name, hn, hq, rfl⟩ := write_eq_ok h
  rw [placeOf, ← hn.eq_follow]
  refine ⟨kind?_put_self hn.directory, fun _ h => h.put _ hq, fun p hp => .inl ?_⟩
  exact kind?_put_of_ne (bare_file content) hn.directory hq (by simpa using hp)

/-- **A file that is renamed, and nothing else, looks different**, where it was and where it is. -/
theorem changes_rename (made : Place → Prop) {source destination : Path}
    (h : rename t source destination = .ok t') :
    Changes made [placeOf source, placeOf destination] t t' := by
  obtain ⟨-, above, name, content, above', name', hn, hfile, hn', hq', ht'⟩ := rename_eq_ok h
  rw [placeOf, placeOf, ← hn.eq_follow, ← hn'.eq_follow]
  split at ht'
  · rw [ht']
    exact .refl _ _ t
  · subst ht'
    have hq := not_hasDirectory_of_file hfile
    -- the file that was taken away was no directory, so there is still one to put it into
    have hdir := hn'.directory.delete hq
    have hplace := fun h => hq' (HasDirectory.of_delete (q := above ++ [name]) h)
    refine ⟨fun _ h => (h.delete hq).put _ hplace, fun p hp => .inl ?_⟩
    simp only [List.mem_cons, List.not_mem_nil, or_false, not_or] at hp
    rw [kind?_put_of_ne (bare_file content) hdir hplace hp.2,
      kind?_delete_of_ne hn.directory hq hp.1]

theorem moved_of_rename {source destination : Path} (hne : placeOf source ≠ placeOf destination)
    (h : rename t source destination = .ok t') :
    ∃ content, t.kind? (placeOf source) = some (.file content) ∧
      t'.kind? (placeOf source) = none ∧
      t'.kind? (placeOf destination) = some (.file content) := by
  obtain ⟨-, above, name, content, above', name', hn, hfile, hn', hq', ht'⟩ := rename_eq_ok h
  rw [placeOf, placeOf, ← hn.eq_follow, ← hn'.eq_follow] at hne ⊢
  rw [if_neg hne] at ht'
  subst ht'
  have hdir := hn'.directory.delete (not_hasDirectory_of_file hfile)
  have hplace := fun h => hq' (HasDirectory.of_delete (q := above ++ [name]) h)
  refine ⟨content, kind?_eq_file_iff.2 hfile, ?_, kind?_put_self hdir⟩
  rw [kind?_put_of_ne (bare_file content) hdir hplace hne, kind?_delete_self]

theorem changes_makeDirectory {steps : List Step} (h : makeDirectory t steps = .ok t') :
    Changes (OnWay steps) but t t' := by
  simp only [makeDirectory, bind_eq_ok_iff] at h
  obtain ⟨found, hfound, h⟩ := h
  split at h
  · cases h
  · cases h
  · next place =>
    cases h
    obtain ⟨above, name, hn, rfl, hnone⟩ := names_of_target hfound
    have hq := not_hasDirectory_of_none hnone.symm
    refine ⟨fun _ h => h.put _ hq, fun p _ => ?_⟩
    by_cases hp : p = above ++ [name]
    · subst hp
      refine .inr ⟨?_, kind?_eq_none_iff.2 hnone.symm, kind?_put_self hn.directory⟩
      rw [hn.eq_follow]
      exact onWay_self steps
    · exact .inl (kind?_put_of_ne bare_empty hn.directory hq hp)

theorem changes_settle {steps : List Step} :
    Changes (OnWay steps) but t (settle t steps (makeDirectory t steps)).2 := by
  unfold settle
  split
  · next h => exact changes_makeDirectory h
  · split <;> exact .refl _ _ t
  · exact .refl _ _ t

theorem changes_makeAllReversed (t : Tree) (steps : List Step) :
    Changes (OnWay steps.reverse) but t (makeAllReversed t steps).2 := by
  induction steps with
  | nil => exact .refl _ _ t
  | cons last above ih =>
    have hup : above.reverse <+: (last :: above).reverse := by simp
    have ih' := ih.mono (fun p hp => OnWay.mono hp hup) (List.Subset.refl _)
    unfold makeAllReversed
    simp only
    split
    · split
      · next hmade =>
        rw [hmade] at ih'
        exact ih'.trans changes_settle
      · exact ih'
    · exact changes_settle

/-- **Making directories makes directories on the way**, whether it succeeds or not, and nothing
else looks different. -/
theorem changes_makeAll (t : Tree) (path : Path) :
    Changes (OnWay path.steps) but t (makeAll t path).2 := by
  unfold makeAll
  split
  · exact .refl _ _ t
  · split
    · exact .refl _ _ t
    · have h : Changes _ but t _ := changes_makeAllReversed t path.steps.reverse
      rwa [List.reverse_reverse] at h

/-! ### What can be read afterwards -/

/-- Every directory is still one, and a file at this place is still there. -/
structure Untouched (p : Place) (t t' : Tree) : Prop where
  directories : KeepsDirectories t t'
  file : ∀ content, t.at? p = some (.file content) → t'.at? p = some (.file content)

theorem Untouched.refl (p : Place) (t : Tree) : Untouched p t t := ⟨fun _ h => h, fun _ h => h⟩

theorem Untouched.trans {p : Place} (h : Untouched p t t') (h' : Untouched p t' t'') :
    Untouched p t t'' :=
  ⟨fun q hq => h'.directories q (h.directories q hq), fun c hc => h'.file c (h.file c hc)⟩

theorem Untouched.read {path : Path} {content : Bytes} (h : Untouched (placeOf path) t t')
    (hr : Files.read t path = .ok content) : Files.read t' path = .ok content := by
  obtain ⟨hcheck, hask, above, name, hn, hfile⟩ := read_eq_ok hr
  rw [hn.eq_follow] at hfile
  refine read_of_names hcheck hask (hn.of_keepsDirectories h.directories) ?_
  rw [hn.eq_follow]
  exact h.file content hfile

theorem Changes.untouched {p : Place} (h : Changes made but t t') (hp : p ∉ but) :
    Untouched p t t' where
  directories := h.directories
  file content hfile := by
    rw [← kind?_eq_file_iff] at hfile ⊢
    exact (h.file_iff hp).2 hfile

/-- The path climbs only out of directories that are there. -/
def Grounded (t : Tree) (path : Path) : Prop :=
  ∀ front back, path.steps = front ++ .up :: back → t.HasDirectory (follow [] front)

/-- What lies behind a place is left only by a step up from that place. -/
theorem prefix_follow_or_climbs {p q : Place} (h : q <+: p) (steps : List Step) :
    q <+: follow p steps ∨ ∃ front back, steps = front ++ .up :: back ∧ follow p front = q := by
  induction steps generalizing p with
  | nil => exact .inl h
  | cons s rest ih =>
    have hstep : q <+: followStep p s ∨ s = .up ∧ p = q := by
      cases s with
      | into name => exact .inl (h.trans (List.prefix_append p [name]))
      | up =>
        rcases List.eq_nil_or_concat p with rfl | ⟨init, last, rfl⟩
        · exact .inl h
        · rw [List.concat_eq_append] at h ⊢
          rcases List.prefix_concat_iff.1 h with heq | hinit
          · exact .inr ⟨rfl, heq.symm⟩
          · rw [followStep, List.dropLast_concat]
            exact .inl hinit
    rcases hstep with hstep | ⟨rfl, rfl⟩
    · rcases ih hstep with hrest | ⟨front, back, rfl, hf⟩
      · exact .inl hrest
      · exact .inr ⟨s :: front, back, rfl, hf⟩
    · exact .inr ⟨[], rest, rfl, rfl⟩

/-- A walk succeeds wherever it passes directories only, if its names are short enough. -/
theorem walk_of_passed {p q : Place} {steps : List Step} (h : walk t' p steps = .ok q)
    (hd : ∀ front, front <+: steps → t.HasDirectory (follow p front)) :
    walk t p steps = .ok q := by
  induction steps generalizing p with
  | nil => exact h
  | cons s rest ih =>
    have hp : t.HasDirectory p := hd [] List.nil_prefix
    have hrest : ∀ front, front <+: rest → t.HasDirectory (follow (followStep p s) front) :=
      fun front hf => hd (s :: front) ((List.prefix_cons_inj s).2 hf)
    cases s with
    | up => exact walk_cons_up.2 ⟨hp, ih (walk_cons_up.1 h).2 hrest⟩
    | into name =>
      obtain ⟨-, hshort, -, hw⟩ := walk_cons_into h
      obtain ⟨inside, hinside⟩ := hrest [] List.nil_prefix
      exact walk_into hp hshort (Option.isSome_iff_exists.2 ⟨_, hinside⟩) (ih hw hrest)

theorem hasDirectory_of_passed {p q : Place} {front back : List Step}
    (h : walk t p (front ++ back) = .ok q) (hq : t.HasDirectory q) :
    t.HasDirectory (follow p front) := by
  obtain ⟨r, hfront, hback⟩ := walk_append_split h
  rw [← eq_follow_of_walk hfront]
  exact hasDirectory_of_walk hback hq

/-- Where a path is grounded and a file is where it leads, it passes directories only, given that
it does so in a tree that has the same file there. -/
theorem Names.of_grounded {path : Path} {above : Place} {name : Text} {content : Bytes}
    (hg : Grounded t path) (hn : Names t' path.steps above name)
    (hfile' : t'.at? (above ++ [name]) = some (.file content))
    (hfile : t.at? (above ++ [name]) = some (.file content)) : Names t path.steps above name := by
  have habove : t.HasDirectory above := hasDirectory_of_at?_append (by simp) hfile
  refine ⟨hn.last, walk_of_passed hn.walk_eq ?_, habove, hn.short⟩
  rintro front ⟨back, hback⟩
  have hsteps : path.steps = front ++ (back ++ [.into name]) := by
    obtain ⟨init, hinit⟩ := List.getLast?_eq_some_iff.1 hn.last
    rw [hinit, List.dropLast_concat] at hback
    rw [hinit, ← hback, List.append_assoc]
  have hend : follow (follow [] front) (back ++ [.into name]) = above ++ [name] := by
    rw [hn.eq_follow, hsteps, follow_append []]
  rcases prefix_follow_or_climbs (List.prefix_refl (follow [] front)) (back ++ [.into name]) with
    hpre | ⟨front', back', hclimb, hback'⟩
  · rw [hend] at hpre
    rcases List.prefix_concat_iff.1 hpre with heq | ⟨r, hr⟩
    · -- the place of the file is no directory on the way to it
      have hpassed := hasDirectory_of_passed (hback.symm ▸ hn.walk_eq) hn.directory
      exact absurd (heq ▸ hpassed) (not_hasDirectory_of_file hfile')
    · exact (hr.symm ▸ habove).of_append
  · have hup : path.steps = (front ++ front') ++ .up :: back' := by
      rw [hsteps, hclimb, List.append_assoc]
    have h := hg _ _ hup
    rwa [follow_append, hback'] at h

/-- **A path that climbs only out of directories that are there reads the same afterwards**, if it
leads to none of the places that have changed. -/
theorem Changes.read_iff {path : Path} {content : Bytes} (h : Changes made but t t')
    (hp : placeOf path ∉ but) (hg : Grounded t path) :
    read t' path = .ok content ↔ read t path = .ok content := by
  constructor
  · intro hr
    obtain ⟨hcheck, hask, above, name, hn, hat⟩ := read_eq_ok hr
    have hat' : t.at? (above ++ [name]) = some (.file content) := by
      rw [hn.eq_follow, ← kind?_eq_file_iff] at hat ⊢
      exact (h.file_iff hp).1 hat
    exact read_of_names hcheck hask (hn.of_grounded hg hat hat') hat'
  · exact (h.untouched hp).read

end TriggerLatch.Files
