import TriggerLatch.Proofs.Latch.Durable
import TriggerLatch.Proofs.Store.Paths

/-!
# Saves in a file are all or nothing

Each of the steps of a save (`FileStore.Saves`) can fail on some tree.  **A save that succeeds has
put the value in the record and left no second file; a save that fails has left the record as it
was** (`FileStore.save_all_or_nothing`); in both cases nothing else looks different, but for
directories that were missing on the way to the record.

Directories that a failing save has made stay, so where the path of the record climbs out of a
directory that was missing, what it leads to may come into sight by a save that fails
(`FileStore.save_error_uncovers`).  And the record must lie in a directory that its path names
(`FileStore.save_ne_ok_of_unnamed`).
-/

namespace TriggerLatch

open Files Files.Tree

namespace FileStore

variable {t t' : Tree} {record : Path} {content : Bytes} {name : Text} {beside : Step}

theorem checkPath_of_append {p q : Path} (h : checkPath (p ++ q) = .ok ()) (hp : p ≠ []) :
    checkPath p = .ok () := by
  unfold checkPath at h ⊢
  split at h
  · cases h
  · next hzero =>
    split at h
    · cases h
    · split at h
      · cases h
      · next hlong =>
        rw [Utf8.encode_append, List.length_append] at hlong
        rw [if_neg fun hin => hzero (List.mem_append_left q hin), if_neg hp, if_neg (by omega)]

theorem openDirectory_of_moved (hs : Siblings record name beside) (hp : record.parent ≠ [])
    (h : rename t (tempPath record) record = .ok t') : openDirectory t' record.parent = .ok () := by
  have hmoved := changes_rename (fun _ => False) h
  obtain ⟨hcheck, _, _, _, above, _, _, _, hn, _, _⟩ := rename_eq_ok h
  have hparent : checkPath record.parent = .ok () := by
    rw [← (Path.splitLast_spec record).1] at hcheck
    exact checkPath_of_append hcheck hp
  have hwalk : walk t [] record.parent.steps = .ok above := by
    have hw := hn.walk_eq
    rwa [hs.record_steps, List.dropLast_concat] at hw
  have hwalk' := walk_of_keepsDirectories hmoved.directories hwalk hn.directory
  obtain ⟨inside, hinside⟩ := hmoved.directories above hn.directory
  rw [openDirectory, resolve, hparent]
  simp [bind, Except.bind, hwalk', directoryAt_eq_ok_iff.2 hinside]

/-! ### What a save changes -/

theorem Saves.temp_gone (hs : Siblings record name beside)
    (h : Saves t record content (.ok ()) t') :
    t'.kind? (placeOf (tempPath record)) = none := by
  generalize hr : (Except.ok () : Except StoreError Unit) = r at h
  cases h with
  | unmade | unwritten | unmoved => cases hr
  | moved hm hw hrename =>
    obtain ⟨-, -, hgone, -⟩ := moved_of_rename hs.placeOf_ne hrename
    exact hgone

/-- **A save that fails changes the second file alone.** -/
theorem Saves.of_error (hs : Siblings record name beside) (hp : record.parent ≠ [])
    {e : StoreError} (h : Saves t record content (.error e) t') :
    Changes (Made record) [placeOf (tempPath record)] t t' := by
  generalize hr : (Except.error e : Except StoreError Unit) = r at h
  cases h with
  | unmade | unwritten => exact changes_makeAll t record.parent
  | unmoved hm hw hrename => exact changes_of_written hw
  | moved hm hw hrename =>
    -- once the file is moved nothing fails
    rw [openDirectory_of_moved hs hp hrename] at hr
    cases hr

/-- A directory without a name cannot be opened, so a save of a record that lies in one always
fails, be it after the record was replaced. -/
theorem save_ne_ok_of_unnamed (hp : record.parent = []) (t : Tree) (now : Timestamp)
    (value : Bool) : (save t record now value).1 ≠ .ok () := by
  have hsaves := saves_save t record now value
  generalize (save t record now value).1 = r at hsaves ⊢
  generalize (save t record now value).2 = t' at hsaves
  cases hsaves with
  | unmade | unwritten | unmoved => exact nofun
  | moved hm hw hr =>
    have hopen : openDirectory t' [] = .error .notFound := rfl
    rw [hp, hopen]
    exact nofun

/-! ### What is loaded and seeded -/

theorem load_eq_ok_some_iff {value : Bool} : load t record = .ok (some value) ↔
    ∃ bytes, read t record = .ok bytes ∧
      ∃ r, Record.decode bytes = some r ∧ valueOf r = .ok value := by
  unfold load
  cases hr : read t record with
  | error e => cases e <;> simp
  | ok bytes =>
    cases hd : Record.decode bytes with
    | none => simp [hd]
    | some r => cases hv : valueOf r <;> simp [hd, hv, Except.map]

theorem load_of_read {now : Timestamp} {value : Bool}
    (h : read t record = .ok (Record.encode (.current now value))) :
    load t record = .ok (some value) :=
  load_eq_ok_some_iff.2 ⟨_, h, _, Record.decode_encode _, rfl⟩

theorem load_eq_ok_some_congr {value : Bool}
    (h : ∀ content, read t' record = .ok content ↔ read t record = .ok content) :
    load t' record = .ok (some value) ↔ load t record = .ok (some value) := by
  simp only [load_eq_ok_some_iff, h]

end FileStore

theorem Latch.seedValue_eq_true_iff {b : Backing} :
    Latch.seedValue b = true ↔ b.load = .ok (some true) := by
  unfold Latch.seedValue
  split <;> simp_all

namespace FileStore

variable {t t' : Tree} {record : Path} {name : Text} {beside : Step}

theorem seedValue_congr {b : Backing} (hb : b.store = .file record)
    (h : ∀ content, read t' record = .ok content ↔ read b.medium.files record = .ok content) :
    Latch.seedValue { b with medium.files := t' } = Latch.seedValue b := by
  rw [Bool.eq_iff_iff, Latch.seedValue_eq_true_iff, Latch.seedValue_eq_true_iff]
  unfold Backing.load
  cases hl : b.loadError with
  | some e => simp
  | none =>
    simp only [hb, Store.load]
    exact load_eq_ok_some_congr h

theorem seedValue_of_changes {made : Place → Prop} {but : List Place} (h : Changes made but t t')
    (hr : placeOf record ∉ but) (hg : Grounded t record) {b : Backing}
    (hb : b.store = .file record) (ht : b.medium.files = t) :
    Latch.seedValue { b with medium.files := t' } = Latch.seedValue b := by
  subst ht
  exact seedValue_congr hb fun _ => h.read_iff hr hg

theorem seedValue_of_load {b : Backing} {v : Option Bool} (hb : b.store = .file record)
    (hl : b.loadError = none) (h : load b.medium.files record = .ok v) :
    Latch.seedValue b = v.getD false := by
  refine Latch.seedValue_of_load ?_
  rw [Backing.load, hl, hb]
  exact h

/-- The value is in the record and nothing else has changed, but for directories that were missing
above it. -/
structure Committed (t : Tree) (record : Path) (value : Bool) (t' : Tree) : Prop where
  loads : load t' record = .ok (some value)
  temp_gone : t'.kind? (placeOf (tempPath record)) = none
  changes : Changes (Made record) [placeOf record, placeOf (tempPath record)] t t'

/-- Nothing but the second file has changed, apart from directories that were missing above the
record; so a latch starts with the same value. -/
structure Undone (t : Tree) (record : Path) (t' : Tree) : Prop where
  changes : Changes (Made record) [placeOf (tempPath record)] t t'
  record_file : ∀ content, t'.kind? (placeOf record) = some (.file content) ↔
    t.kind? (placeOf record) = some (.file content)
  reads : Grounded t record → ∀ content, read t' record = .ok content ↔ read t record = .ok content
  seeds : Grounded t record → ∀ b : Backing, b.store = .file record → b.medium.files = t →
    Latch.seedValue { b with medium.files := t' } = Latch.seedValue b

theorem committed_of_save (hs : Siblings record name beside)
    (hfile : record.asksForDirectory = false) {now : Timestamp} {value : Bool}
    (h : (save t record now value).1 = .ok ()) :
    Committed t record value (save t record now value).2 := by
  have hsaves := saves_save t record now value
  rw [h] at hsaves
  exact ⟨load_of_save hfile (Prod.ext h rfl), hsaves.temp_gone hs, hsaves.changes⟩

theorem undone_of_save (hs : Siblings record name beside) (hp : record.parent ≠ [])
    {now : Timestamp} {value : Bool} {e : StoreError}
    (h : (save t record now value).1 = .error e) : Undone t record (save t record now value).2 := by
  have hsaves := saves_save t record now value
  rw [h] at hsaves
  have hchanges := hsaves.of_error hs hp
  have hne : placeOf record ∉ [placeOf (tempPath record)] := by simpa using hs.placeOf_ne.symm
  exact ⟨hchanges, fun _ => hchanges.file_iff hne, fun hg _ => hchanges.read_iff hne hg,
    fun hg _ hb ht => seedValue_of_changes hchanges hne hg hb ht⟩

/-- **A save is all or nothing**, over every tree, for every root and key. -/
theorem save_all_or_nothing (t : Tree) (root : Path) (k : StoreKey) (now : Timestamp)
    (value : Bool) :
    let record := k.recordPath root
    let saved := save t record now value
    (saved.1 = .ok () → Committed t record value saved.2) ∧
      ∀ e, saved.1 = .error e → record.parent ≠ [] → Undone t record saved.2 := by
  obtain ⟨name, beside, hs⟩ := siblings_recordPath root k
  have hfile := StoreKey.asksForDirectory_recordPath root k
  exact ⟨committed_of_save hs hfile, fun e herror hp => undone_of_save hs hp herror⟩

/-- A point in time at which records of the examples below are written. -/
def leapSecond : Timestamp :=
  ⟨⟨2016, 12, 31, by decide, by decide, by decide⟩, 23, 59, 60, 999999999, by decide,
    by decide, by decide, by decide⟩

/-- A tree with one directory. -/
def stateTree (inside : Tree) : Tree := .directory "state".toList inside .empty

/-- A second file with something in it, and no record. -/
def stale : Tree := .file "key.json.tmp".toList [123, 0] .empty

/-- A record that holds `true`, and a directory where its second file belongs. -/
def blocked : Tree :=
  .file "key.json".toList (Record.encode (.current leapSecond true))
    (.directory "key.json.tmp".toList .empty .empty)

theorem save_of_unwritten {t₁ : Tree} {now : Timestamp} {value : Bool} {e : Fault}
    (hm : makeAll t record.parent = (.ok (), t₁))
    (hw : ∀ content, write t₁ (tempPath record) content = .error e) :
    save t record now value = (.error (.io e), t₁) := by
  rw [save, hm]
  simp only [replace, hw]
  rfl

/-- A save beside a stale second file succeeds; one whose second file cannot be written fails, and a
latch starts with the same value. -/
theorem save_all_or_nothing_stale_and_blocked :
    let record := (StoreKey.mk [] "key".toList).recordPath "/state".toList
    let b : Backing := ⟨.file record, ⟨none, stateTree blocked⟩, none, [], [], 0, leapSecond⟩
    let written := save (stateTree stale) record leapSecond true
    let failed := save (stateTree blocked) record leapSecond false
    written.1 = .ok () ∧ Committed (stateTree stale) record true written.2 ∧
      failed.1 = .error (.io .isADirectory) ∧ Undone (stateTree blocked) record failed.2 ∧
      Latch.seedValue { b with medium.files := failed.2 } = true := by
  intro record b written failed
  have hwritten : written.1 = .ok () := by rfl
  have hfailed : failed = (.error (.io .isADirectory), stateTree blocked) :=
    save_of_unwritten rfl fun _ => rfl
  have hread : read (stateTree blocked) record =
      .ok (Record.encode (.current leapSecond true)) := by rfl
  have hgrounded : Grounded (stateTree blocked) record := by
    intro front back h
    have hup : Step.up ∉ record.steps := by decide
    exact absurd (h ▸ by simp) hup
  obtain ⟨hcommitted, -⟩ :=
    save_all_or_nothing (stateTree stale) "/state".toList ⟨[], "key".toList⟩ leapSecond true
  obtain ⟨-, hundone⟩ :=
    save_all_or_nothing (stateTree blocked) "/state".toList ⟨[], "key".toList⟩ leapSecond false
  have herror : failed.1 = .error (.io .isADirectory) := by rw [hfailed]
  have hundone := hundone _ herror (by decide)
  refine ⟨hwritten, hcommitted hwritten, herror, hundone, ?_⟩
  rw [hundone.seeds hgrounded b rfl rfl]
  exact seedValue_of_load (b := b) rfl rfl (load_of_read hread)

/-- **A save that fails uncovers a record.**  The path of the record climbs out of a directory that
is missing, so nothing is loaded and a latch starts idle.  The save makes that directory before it
fails; then the record is found, which holds `true`. -/
theorem save_error_uncovers :
    let record := (StoreKey.mk "a/..".toList "key".toList).recordPath "/state".toList
    let b : Backing := ⟨.file record, ⟨none, stateTree blocked⟩, none, [], [], 0, leapSecond⟩
    let failed := save (stateTree blocked) record leapSecond false
    failed.1 = .error (.io .isADirectory) ∧
      load (stateTree blocked) record = .ok none ∧ load failed.2 record = .ok (some true) ∧
      Latch.seedValue b = false ∧ Latch.seedValue { b with medium.files := failed.2 } = true := by
  intro record b failed
  have hfailed : failed =
      (.error (.io .isADirectory), stateTree (.directory "a".toList .empty blocked)) :=
    save_of_unwritten rfl fun _ => rfl
  have hmissing : read (stateTree blocked) record = .error .notFound := by rfl
  have hnone : load (stateTree blocked) record = .ok none := by rw [load, hmissing]
  have hread : read failed.2 record = .ok (Record.encode (.current leapSecond true)) := by
    rw [hfailed]
    rfl
  have herror : failed.1 = .error (.io .isADirectory) := by rw [hfailed]
  have hsome : load failed.2 record = .ok (some true) := load_of_read hread
  have hidle := seedValue_of_load (b := b) rfl rfl hnone
  have hlatched := seedValue_of_load (b := { b with medium.files := failed.2 }) rfl rfl hsome
  exact ⟨herror, hnone, hsome, hidle, hlatched⟩

end FileStore

end TriggerLatch
