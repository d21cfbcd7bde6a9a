import TriggerLatch.Proofs.Store.AllOrNothing

/-!
# Stores under different keys

A key is plain if its namespace is the name of one directory and there is no slash in it.  The
record of a plain key is two names below the root, the namespace and the key with `.json` behind it
(`StoreKey.Plain.placeOf_recordPath`), and so is the second file, whose name ends otherwise.  So
**below one root no two plain keys share a record, and no second file is where a record is**
(`FileStore.separated`), whatever dots there are in the keys.

Hence a save under one key changes no file under another (`FileStore.save_spares_other_keys`).  But
where the root climbs out of a directory that is missing, the save makes that directory, and a
record under another key may come into sight (`FileStore.save_uncovers_other_key`).
-/

namespace TriggerLatch

open Files Files.Tree TriggerLatch.Path

namespace Path

theorem steps_join_name {name : Text} (hn : '/' ∉ name) (p : Path) :
    steps (join p name) = steps p ++ (stepOf name).toList := by
  have hrelative : isAbsolute name = false := by
    cases name with
    | nil => rfl
    | cons c r =>
      have hc : c ≠ '/' := fun e => hn (by simp [e])
      simp [isAbsolute, hc]
  have hslash : steps (p ++ ['/']) = steps p := by
    simp [steps, pieces_append_slash, pieces, stepOf]
  rw [join, if_neg (by simp [hrelative])]
  split
  · next hopen =>
    refine steps_append_name ?_ hn
    simpa [endsOpen, List.getLast?_eq_some_iff] using hopen
  · rw [← hslash, ← steps_append_name (.inr ⟨p, rfl⟩) hn]
    simp

end Path

namespace Files

variable {t : Tree} {root path : Path} {p : Place}

theorem Grounded.of_names (h : Grounded t root) (names : List Text)
    (hs : path.steps = root.steps ++ names.map .into) : Grounded t path := by
  intro front back hup
  rw [hs] at hup
  rcases List.append_eq_append_iff.1 hup with ⟨between, -, hnames⟩ | ⟨between, hroot, hnames⟩
  · have hin : Step.up ∈ names.map Step.into := by simp [hnames]
    simp at hin
  · cases between with
    | nil =>
      have hin : Step.up ∈ names.map Step.into := by
        rw [← List.nil_append (names.map _), ← hnames]
        exact List.mem_cons_self
      simp at hin
    | cons s rest =>
      obtain ⟨rfl, -⟩ := List.cons.inj hnames
      exact h front rest hroot

/-- What a grounded path passes is above the place that it leads to, or a directory is there. -/
theorem OnWay.above_or_hasDirectory (h : OnWay path.steps p) (hg : Grounded t path) :
    p <+: placeOf path ∨ t.HasDirectory p := by
  obtain ⟨front, ⟨back, hback⟩, rfl⟩ := h
  rw [placeOf, ← hback, follow_append]
  refine (prefix_follow_or_climbs (List.prefix_refl _) back).imp_right ?_
  rintro ⟨front', back', rfl, hplace⟩
  rw [← hplace, ← follow_append]
  exact hg _ back' (by rw [← hback, List.append_assoc])

end Files

/-! ### Plain keys -/

/-- The namespace is the name of one directory, and there is no slash in the key. -/
structure StoreKey.Plain (k : StoreKey) : Prop where
  directory : k.namespaceName ∉ [[], ['.'], ['.', '.']]
  directory_no_slash : '/' ∉ k.namespaceName
  name_no_slash : '/' ∉ k.name

namespace StoreKey.Plain

open FileStore

variable {k k' : StoreKey}

theorem steps_join_namespaceName (h : k.Plain) (root : Path) :
    (join root k.namespaceName).steps = root.steps ++ [.into k.namespaceName] := by
  have hdirectory := h.directory
  simp only [List.mem_cons, List.not_mem_nil, or_false, not_or] at hdirectory
  have hstep : stepOf k.namespaceName = some (.into k.namespaceName) := by
    simp [stepOf, hdirectory]
  rw [steps_join_name h.directory_no_slash, hstep]
  rfl

theorem steps_recordPath (h : k.Plain) (root : Path) :
    (k.recordPath root).steps =
      root.steps ++ [.into k.namespaceName] ++ [.into (k.name ++ recordSuffix)] := by
  have hslash : '/' ∉ k.name ++ recordSuffix := by
    simp only [List.mem_append, h.name_no_slash, false_or]
    decide
  have hstep : stepOf (k.name ++ recordSuffix) = some (.into (k.name ++ recordSuffix)) :=
    stepOf_of_length (by simp [recordSuffix])
  rw [recordPath, steps_join_name hslash, hstep, h.steps_join_namespaceName]
  rfl

/-- The last name of the record is the key, and the namespace is the last of the steps above it. -/
theorem of_parts (h : k.Plain) {root above : Path} {u : Text}
    (hp : Parts (k.recordPath root) above u) :
    u = k.name ∧ above.steps = root.steps ++ [.into k.namespaceName] := by
  have hsteps := (h.steps_recordPath root).symm.trans hp.record_steps
  obtain ⟨habove, hlast⟩ := List.append_inj' hsteps rfl
  refine ⟨?_, habove.symm⟩
  simpa using hlast.symm

theorem steps_parent (h : k.Plain) (root : Path) :
    (k.recordPath root).parent.steps = root.steps ++ [.into k.namespaceName] := by
  obtain ⟨above, u, hp⟩ := parts_recordPath root k
  rw [hp.parent_eq, (h.of_parts hp).2]

/-- **The record is two names below the root.** -/
theorem placeOf_recordPath (h : k.Plain) (root : Path) :
    placeOf (k.recordPath root) = placeOf root ++ [k.namespaceName, k.name ++ recordSuffix] := by
  rw [placeOf, h.steps_recordPath, follow_append, follow_append]
  simp [follow, followStep, placeOf]

theorem placeOf_tempPath (h : k.Plain) (root : Path) :
    placeOf (tempPath (k.recordPath root)) =
      if k.name = ['.'] then placeOf root
      else placeOf root ++ [k.namespaceName, tempName k.name] := by
  obtain ⟨above, u, hp⟩ := parts_recordPath root k
  obtain ⟨rfl, habove⟩ := h.of_parts hp
  rw [placeOf, hp.temp_steps, habove, follow_append, follow_append]
  split <;> simp [follow, followStep, placeOf]

end StoreKey.Plain

namespace FileStore

variable {t t' : Tree} {root : Path} {k k' : StoreKey}

/-! ### Names of records and of second files -/

theorem getLast?_append_recordSuffix (u : Text) :
    (u ++ StoreKey.recordSuffix).getLast? = some 'n' := by
  rw [List.getLast?_append]
  rfl

theorem getLast?_append_tempName (s u : Text) : (s ++ tempName u).getLast? ≠ some 'n' := by
  unfold tempName
  split
  · simp
  · split <;> simp

/-- Below `root` no two keys share a record and no second file is where a record is; nor is the
path of a second file that of any record, wherever its root is. -/
structure Separated (root : Path) : Prop where
  records : ∀ k k' : StoreKey, k.Plain → k'.Plain → k ≠ k' →
    placeOf (k.recordPath root) ≠ placeOf (k'.recordPath root)
  temps : ∀ k k' : StoreKey, k.Plain → k'.Plain →
    placeOf (tempPath (k.recordPath root)) ≠ placeOf (k'.recordPath root)
  temp_paths : ∀ (k k' : StoreKey) (root' : Path),
    tempPath (k.recordPath root) ≠ k'.recordPath root'

/-- **Below one root the files of plain keys are apart.** -/
theorem separated (root : Path) : Separated root where
  records := by
    rintro ⟨ns, name⟩ ⟨ns', name'⟩ hk hk' hne hplace
    rw [hk.placeOf_recordPath, hk'.placeOf_recordPath] at hplace
    obtain ⟨rfl, rfl⟩ : ns = ns' ∧ name = name' := by
      simpa using List.append_cancel_left hplace
    exact hne rfl
  temps := by
    intro k k' hk hk' hplace
    rw [hk.placeOf_tempPath, hk'.placeOf_recordPath] at hplace
    split at hplace
    · -- a step up from the namespace leads to the root
      simp at hplace
    · have hname : tempName k.name = k'.name ++ StoreKey.recordSuffix := by
        simpa using (List.cons.inj (List.append_cancel_left hplace)).2
      exact getLast?_append_tempName [] k.name (hname ▸ getLast?_append_recordSuffix k'.name)
  temp_paths := by
    intro k k' root' hpath
    obtain ⟨above, u, h⟩ := parts_recordPath root k
    obtain ⟨above', u', h'⟩ := parts_recordPath root' k'
    rw [h.temp_eq, h'.record_eq, ← List.append_assoc] at hpath
    exact getLast?_append_tempName above u (hpath ▸ getLast?_append_recordSuffix (above' ++ u'))

/-! ### What a save leaves alone -/

/-- The record `other` below `root` has kept its bytes, or is still absent.  If the root climbs only
out of directories that were there, nothing else has come to its place either; then it reads the
same, and a latch starts with the same value. -/
structure Spared (t : Tree) (root other : Path) (t' : Tree) : Prop where
  file : ∀ content, t'.kind? (placeOf other) = some (.file content) ↔
    t.kind? (placeOf other) = some (.file content)
  looks : Grounded t root → t'.kind? (placeOf other) = t.kind? (placeOf other)
  reads : Grounded t root → ∀ content,
    read t' other = .ok content ↔ read t other = .ok content
  seeds : Grounded t root → ∀ b : Backing, b.store = .file other → b.medium.files = t →
    Latch.seedValue { b with medium.files := t' } = Latch.seedValue b

theorem kind?_ne_none_of_made (hk : k.Plain) (hk' : k'.Plain) (hg : Grounded t root)
    (h : Made (k.recordPath root) (placeOf (k'.recordPath root))) :
    t.kind? (placeOf (k'.recordPath root)) ≠ none := by
  have hsteps := hk.steps_parent root
  have hparent : Grounded t (k.recordPath root).parent := hg.of_names [_] hsteps
  rcases h.above_or_hasDirectory hparent with habove | hdirectory
  · -- a record is further below the root than the directory of a namespace
    have hplace : placeOf (k.recordPath root).parent = placeOf root ++ [k.namespaceName] := by
      rw [placeOf, hsteps, follow_append]
      rfl
    rw [hk'.placeOf_recordPath, hplace] at habove
    simpa using habove.length_le
  · rw [kind?_eq_directory_iff.2 hdirectory]
    exact Option.some_ne_none _

/-- **Stores under different keys leave each other alone**, over every tree and below every root:
their files are apart, and a save under one key, however far it gets, spares the record of the
other. -/
theorem save_spares_other_keys (hk : k.Plain) (hk' : k'.Plain) (hne : k ≠ k') (t : Tree)
    (root : Path) (now : Timestamp) (value : Bool) :
    Separated root ∧
      Spared t root (k'.recordPath root) (save t (k.recordPath root) now value).2 := by
  have hchanges := changes_save t (k.recordPath root) now value
  have hother : placeOf (k'.recordPath root) ∉
      [placeOf (k.recordPath root), placeOf (tempPath (k.recordPath root))] := by
    simp only [List.mem_cons, List.not_mem_nil, or_false, not_or]
    exact ⟨(separated root).records k' k hk' hk hne.symm,
      ((separated root).temps k k' hk hk').symm⟩
  have hground (hg : Grounded t root) : Grounded t (k'.recordPath root) :=
    hg.of_names [_, _] (by rw [hk'.steps_recordPath, List.append_assoc]; rfl)
  refine ⟨separated root, fun _ => hchanges.file_iff hother, fun hg => ?_,
    fun hg _ => hchanges.read_iff hother (hground hg),
    fun hg _ hb ht => seedValue_of_changes hchanges hother (hground hg) hb ht⟩
  rcases hchanges.looks _ hother with hsame | ⟨hmade, hnone, -⟩
  · exact hsame
  · exact absurd hnone (kind?_ne_none_of_made hk hk' hg hmade)

/-- A root that climbs out of a directory `new`. -/
def climbingRoot : Path := "/new/../state".toList

/-- A key in the namespace `door`. -/
def doorKey (name : String) : StoreKey := ⟨"door".toList, name.toList⟩

theorem plain_doorKey {name : String} (h : '/' ∉ name.toList) : (doorKey name).Plain where
  directory := show "door".toList ∉ _ by decide
  directory_no_slash := show '/' ∉ "door".toList by decide
  name_no_slash := h

/-- A tree with these records in the namespace `door` below `state`, and something beside it. -/
def doorTree (records beside : Tree) : Tree :=
  .directory "state".toList (.directory "door".toList records .empty) beside

/-- The record of a key that has the name of a second file. -/
def lookalike (bytes : Bytes) : Tree := .file "key.json.tmp.json".toList bytes .empty

/-- The tree that the root climbs in. -/
def climbable (bytes : Bytes) : Tree :=
  .directory "new".toList .empty (doorTree (lookalike bytes) .empty)

variable {bytes : Bytes}

theorem makeAll_climbable :
    makeAll (climbable bytes) ((doorKey "key").recordPath climbingRoot).parent =
      (.ok (), climbable bytes) := by
  rfl

theorem makeAll_not_climbable :
    makeAll (doorTree (lookalike bytes) .empty) ((doorKey "key").recordPath climbingRoot).parent =
      (.ok (), climbable bytes) := by
  rfl

theorem save_of_climbable {now : Timestamp} {value : Bool}
    (h : makeAll t ((doorKey "key").recordPath climbingRoot).parent = (.ok (), climbable bytes)) :
    save t ((doorKey "key").recordPath climbingRoot) now value =
      (.ok (), doorTree (.file "key.json".toList (Record.encode (.current now value))
        (lookalike bytes)) (.directory "new".toList .empty .empty)) := by
  generalize hcontent : Record.encode (.current now value) = content
  let written (name : String) : Tree :=
    doorTree (.file name.toList content (lookalike bytes)) (.directory "new".toList .empty .empty)
  have hwrite : write (climbable bytes) (tempPath ((doorKey "key").recordPath climbingRoot))
      content = .ok (written "key.json.tmp") := by rfl
  have hrename : rename (written "key.json.tmp")
      (tempPath ((doorKey "key").recordPath climbingRoot))
      ((doorKey "key").recordPath climbingRoot) = .ok (written "key.json") := by rfl
  have hopen : openDirectory (written "key.json")
      ((doorKey "key").recordPath climbingRoot).parent = .ok () := by rfl
  rw [save, h, hcontent]
  simp only [replace, hwrite, hrename, hopen]
  rfl

theorem grounded_climbingRoot : Grounded (climbable bytes) climbingRoot := by
  have hsteps : steps climbingRoot = [.into "new".toList, .up, .into "state".toList] := by decide
  intro front back hup
  rw [hsteps] at hup
  rcases front with _ | ⟨first, _ | ⟨second, rest⟩⟩
  · cases hup
  · cases hup
    exact ⟨_, rfl⟩
  · obtain ⟨-, -, hrest⟩ : _ = first ∧ _ = second ∧ [Step.into "state".toList] = rest ++ _ := by
      simpa only [List.cons_append, List.cons.injEq] using hup
    have hin : Step.up ∈ [Step.into "state".toList] := hrest ▸ by simp
    simp at hin

/-- A save spares the record of a key that has the name of the second file, below a root that
climbs out of a directory that is there. -/
theorem save_spares_lookalike :
    let record := (doorKey "key").recordPath climbingRoot
    let other := (doorKey "key.json.tmp").recordPath climbingRoot
    let t := climbable (Record.encode (.current leapSecond true))
    let b : Backing := ⟨.file other, ⟨none, t⟩, none, [], [], 0, leapSecond⟩
    let saved := save t record leapSecond false
    saved.1 = .ok () ∧ Separated climbingRoot ∧ Spared t climbingRoot other saved.2 ∧
      Latch.seedValue { b with medium.files := saved.2 } = true := by
  generalize hbytes : Record.encode (.current leapSecond true) = bytes
  intro record other t b saved
  have hk : (doorKey "key").Plain := plain_doorKey (by decide)
  have hk' : (doorKey "key.json.tmp").Plain := plain_doorKey (by decide)
  have hsaved : saved = (.ok (), _) := save_of_climbable makeAll_climbable
  have hread : read t other = .ok bytes := by rfl
  obtain ⟨hseparated, hspared⟩ :=
    save_spares_other_keys hk hk' (by decide) t climbingRoot leapSecond false
  refine ⟨congrArg Prod.fst hsaved, hseparated, hspared, ?_⟩
  rw [hspared.seeds grounded_climbingRoot b rfl rfl]
  exact seedValue_of_load (b := b) rfl rfl (load_of_read (by rw [hread, hbytes]))

/-- **A save uncovers the record of another key.**  The root climbs out of a directory that is
missing, so a latch under the other key starts idle.  The save makes that directory; then the
record is found, which holds `true`. -/
theorem save_uncovers_other_key :
    let record := (doorKey "key").recordPath climbingRoot
    let other := (doorKey "key.json.tmp").recordPath climbingRoot
    let bytes := Record.encode (.current leapSecond true)
    let t := doorTree (lookalike bytes) .empty
    let b : Backing := ⟨.file other, ⟨none, t⟩, none, [], [], 0, leapSecond⟩
    let saved := save t record leapSecond false
    (doorKey "key").Plain ∧ (doorKey "key.json.tmp").Plain ∧ saved.1 = .ok () ∧
      read t other = .error .notFound ∧ read saved.2 other = .ok bytes ∧
      Latch.seedValue b = false ∧ Latch.seedValue { b with medium.files := saved.2 } = true := by
  generalize hbytes : Record.encode (.current leapSecond true) = bytes
  intro record other _ t b saved
  have hsaved : saved = (.ok (), _) := save_of_climbable makeAll_not_climbable
  have hmissing : read t other = .error .notFound := by rfl
  have hnone : load t other = .ok none := by rw [load, hmissing]
  have hread : read saved.2 other = .ok bytes := by
    rw [hsaved]
    rfl
  have hidle := seedValue_of_load (b := b) rfl rfl hnone
  have hlatched := seedValue_of_load (b := { b with medium.files := saved.2 }) rfl rfl
    (load_of_read (by rw [hread, hbytes]))
  exact ⟨plain_doorKey (by decide), plain_doorKey (by decide), congrArg Prod.fst hsaved, hmissing,
    hread, hidle, hlatched⟩

end FileStore

end TriggerLatch
