import TriggerLatch.Proofs.Files.Changes
import TriggerLatch.Store.Basic

/-!
# How a save goes

A save goes through four steps, and each of them can fail on some tree: the directories above the
record are made, the second file is written, it is renamed, and the directory is opened
(`FileStore.Saves`).  **However far it gets, the record and the second file are all that looks
different afterwards**, but for directories that were missing on the way to the record
(`FileStore.changes_save`); so a file that the store does not use reads the same
(`Store.untouched_save`, `Files.Untouched.read`).
-/

namespace TriggerLatch

open Files

namespace FileStore

variable {t t' : Tree} {record : Path} {content : Bytes} {p : Place}

/-- How far a save of this content gets, what it returns, and the tree it leaves. -/
inductive Saves (t : Tree) (record : Path) (content : Bytes) :
    Except StoreError Unit → Tree → Prop
  | unmade {e : Fault} (hm : (makeAll t record.parent).1 = .error e) :
    Saves t record content (.error (.io e)) (makeAll t record.parent).2
  | unwritten {e : Fault} (hm : (makeAll t record.parent).1 = .ok ())
    (hw : write (makeAll t record.parent).2 (tempPath record) content = .error e) :
    Saves t record content (.error (.io e)) (makeAll t record.parent).2
  | unmoved {t₁ : Tree} {e : Fault} (hm : (makeAll t record.parent).1 = .ok ())
    (hw : write (makeAll t record.parent).2 (tempPath record) content = .ok t₁)
    (hr : rename t₁ (tempPath record) record = .error e) :
    Saves t record content (.error (.io e)) t₁
  | moved {t₁ t₂ : Tree} (hm : (makeAll t record.parent).1 = .ok ())
    (hw : write (makeAll t record.parent).2 (tempPath record) content = .ok t₁)
    (hr : rename t₁ (tempPath record) record = .ok t₂) :
    Saves t record content ((openDirectory t₂ record.parent).mapError .io) t₂

theorem saves_save (t : Tree) (record : Path) (now : Timestamp) (value : Bool) :
    Saves t record (Record.encode (.current now value)) (save t record now value).1
      (save t record now value).2 := by
  unfold save
  cases hm : makeAll t record.parent with
  | mk made t₀ =>
    have h₁ : (makeAll t record.parent).1 = made := by rw [hm]
    have h₂ : (makeAll t record.parent).2 = t₀ := by rw [hm]
    subst h₂
    cases made with
    | error e => exact .unmade h₁
    | ok =>
      simp only [replace]
      split
      · next e hw => exact .unwritten h₁ hw
      · next t₁ hw =>
        split
        · next e hr => exact .unmoved h₁ hw hr
        · next t₂ hr => exact .moved h₁ hw hr

theorem save_eq_ok {now : Timestamp} {value : Bool} (h : save t record now value = (.ok (), t')) :
    ∃ t₁ t₂, write t₁ (tempPath record) (Record.encode (.current now value)) = .ok t₂ ∧
      rename t₂ (tempPath record) record = .ok t' := by
  have hsaves := saves_save t record now value
  simp only [h] at hsaves
  generalize hr : (Except.ok () : Except StoreError Unit) = r at hsaves
  cases hsaves with
  | unmade | unwritten | unmoved => cases hr
  | moved hm hw hrename => exact ⟨_, _, hw, hrename⟩

/-! ### What a save changes -/

/-- The directories above the record that a save makes are on the way to it. -/
abbrev Made (record : Path) : Place → Prop := OnWay record.parent.steps

theorem changes_of_written
    (hw : write (makeAll t record.parent).2 (tempPath record) content = .ok t') :
    Changes (Made record) [placeOf (tempPath record)] t t' :=
  (changes_makeAll t record.parent).trans (changes_write _ hw).2

/-- **A save changes the record and the second file alone**, however far it gets. -/
theorem Saves.changes {r : Except StoreError Unit} (h : Saves t record content r t') :
    Changes (Made record) [placeOf record, placeOf (tempPath record)] t t' := by
  have htemp : [placeOf (tempPath record)] ⊆ [placeOf record, placeOf (tempPath record)] := by simp
  cases h with
  | unmade | unwritten => exact changes_makeAll t record.parent
  | unmoved hm hw hrename => exact (changes_of_written hw).mono (fun _ h => h) htemp
  | moved hm hw hrename =>
    refine ((changes_of_written hw).mono (fun _ h => h) htemp).trans
      ((changes_rename (Made record) hrename).mono (fun _ h => h) ?_)
    simp

theorem changes_save (t : Tree) (record : Path) (now : Timestamp) (value : Bool) :
    Changes (Made record) [placeOf record, placeOf (tempPath record)] t
      (save t record now value).2 :=
  (saves_save t record now value).changes

/-- **A save leaves the files alone that are neither the record nor the second file.** -/
theorem untouched_save (hr : p ≠ placeOf record) (ht : p ≠ placeOf (tempPath record))
    (now : Timestamp) (value : Bool) : Untouched p t (save t record now value).2 :=
  (changes_save t record now value).untouched (by simp [hr, ht])

end FileStore

namespace Store

/-- The path leads to no file that the store uses. -/
def Spares (s : Store) (path : Path) : Prop :=
  match s with
  | memory => True
  | file record =>
    placeOf path ≠ placeOf record ∧ placeOf path ≠ placeOf (FileStore.tempPath record)

theorem untouched_save {s : Store} {path : Path} (h : s.Spares path) (now : Timestamp)
    (value : Bool) (m : Medium) :
    Untouched (placeOf path) m.files (s.save now value m).2.files := by
  cases s with
  | memory => exact .refl _ _
  | file record => exact FileStore.untouched_save h.1 h.2 now value

end Store

end TriggerLatch
