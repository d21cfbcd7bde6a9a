import TriggerLatch.Proofs.Files.Passable
import TriggerLatch.Proofs.Store.AllOrNothing

/-!
# Saves with nothing in the way

A record is unobstructed in a tree if no file stands where a directory above it belongs, no
directory where the record or the second file belongs, and the names and paths are short enough
(`FileStore.Unobstructed`).  **Then every save succeeds** (`FileStore.Unobstructed.save_ok`) **and
leaves the record unobstructed** (`FileStore.Unobstructed.of_committed`), so a file store keeps
working as long as nobody else touches its files.
-/

namespace TriggerLatch

open Files Files.Tree

namespace Files

variable {t t' : Tree} {made : Place → Prop} {but : List Place} {p : Place}

theorem onWay_of_above {steps : List Step} (h : p <+: follow [] steps) : OnWay steps p := by
  obtain ⟨r, rfl⟩ : ∃ r : List Step, steps = r.reverse := ⟨_, steps.reverse_reverse.symm⟩
  induction r with
  | nil => exact (List.prefix_nil.1 h) ▸ onWay_self []
  | cons last above ih =>
    rw [List.reverse_cons] at h ⊢
    have hup {q : Place} (hq : OnWay above.reverse q) : OnWay (above.reverse ++ [last]) q :=
      hq.mono (List.prefix_append _ _)
    have hlast : follow [] (above.reverse ++ [last]) =
        followStep (follow [] above.reverse) last := follow_append ..
    cases last with
    | up =>
      rw [hlast] at h
      exact hup (ih (h.trans (List.dropLast_prefix _)))
    | into name =>
      rw [hlast] at h
      rcases List.prefix_concat_iff.1 h with heq | habove
      · have hself := onWay_self (above.reverse ++ [.into name])
        rw [hlast] at hself
        exact heq ▸ hself
      · exact hup (ih habove)

theorem Changes.not_hasDirectory (h : Changes made but t t') (hp : p ∉ but) (hm : ¬ made p)
    (hd : ¬ t.HasDirectory p) : ¬ t'.HasDirectory p := by
  rcases h.looks p hp with hsame | ⟨hmade, -⟩
  · rwa [← kind?_eq_directory_iff, hsame, kind?_eq_directory_iff]
  · exact absurd hmade hm

end Files

namespace FileStore

variable {t t' : Tree} {record : Path} {name : Text} {beside : Step} {p : Place}

/-- Nothing stands in the way of the record and the second file. -/
structure Unobstructed (t : Tree) (record : Path) : Prop where
  /-- The record is in a directory that the path names. -/
  named : record.parent ≠ []
  record_path : checkPath record = .ok ()
  temp_path : checkPath (tempPath record) = .ok ()
  short : ∀ name, .into name ∈ record.steps ++ (tempPath record).steps → isTooLong name = false
  clear : ∀ p content, Made record p → t.kind? p ≠ some (.file content)
  record_clear : ¬ Made record (placeOf record) ∧ ¬ t.HasDirectory (placeOf record)
  temp_clear : ¬ Made record (placeOf (tempPath record)) ∧
    ¬ t.HasDirectory (placeOf (tempPath record))

namespace Unobstructed

theorem passable (h : Unobstructed t record) (hs : Siblings record name beside) :
    Passable t record.parent.steps where
  clear := h.clear
  short n hn := h.short n (by simp [hs.record_steps, hn])

theorem beside_eq (h : Unobstructed t record) (hs : Siblings record name beside) :
    ∃ n, beside = .into n := by
  cases beside with
  | into n => exact ⟨n, rfl⟩
  | up =>
    -- the directory above the one of the record is on the way to it
    refine absurd (onWay_of_above ?_) h.temp_clear.1
    rw [hs.placeOf_temp]
    exact List.dropLast_prefix _

theorem checkPath_parent (h : Unobstructed t record) : checkPath record.parent = .ok () := by
  have hrecord := h.record_path
  rw [← (Path.splitLast_spec record).1] at hrecord
  exact checkPath_of_append hrecord h.named

theorem names_of_leadsTo (hl : LeadsTo t record.parent.steps p) {steps : List Step} {n : Text}
    (hsteps : steps = record.parent.steps ++ [.into n]) (hn : isTooLong n = false) :
    Names t steps p n := by
  subst hsteps
  exact ⟨by simp, by rw [List.dropLast_concat]; exact hl.1, hl.2, hn⟩

/-- **A save succeeds.** -/
theorem save_ok (h : Unobstructed t record) (hs : Siblings record name beside)
    (now : Timestamp) (value : Bool) :
    (save t record now value).1 = .ok () := by
  obtain ⟨n, rfl⟩ := h.beside_eq hs
  obtain ⟨t₁, p, hmade, hleads⟩ := makeAll_of_passable h.checkPath_parent (h.passable hs)
  have hmaking : Changes (Made record) [] t t₁ := by
    have hc : Changes (Made record) [] t (makeAll t record.parent).2 := changes_makeAll t _
    rwa [hmade] at hc
  have hrecord : Names t₁ record.steps p name :=
    names_of_leadsTo hleads hs.record_steps (h.short name (by simp [hs.record_steps]))
  have htemp : Names t₁ (tempPath record).steps p n :=
    names_of_leadsTo hleads hs.temp_steps (h.short n (by simp [hs.temp_steps]))
  have hrecordPlace : p ++ [name] = placeOf record := hrecord.eq_follow
  have htempPlace : p ++ [n] = placeOf (tempPath record) := htemp.eq_follow
  have htempFree : ¬ t₁.HasDirectory (p ++ [n]) :=
    htempPlace ▸ hmaking.not_hasDirectory List.not_mem_nil h.temp_clear.1 h.temp_clear.2
  have hrecordFree : ¬ t₁.HasDirectory (placeOf record) :=
    hmaking.not_hasDirectory List.not_mem_nil h.record_clear.1 h.record_clear.2
  -- the second file is written, which makes no directory and loses none
  have hwrite := write_of_names h.temp_path hs.temp_file htemp htempFree
    (Record.encode (.current now value))
  have hwritten := (changes_write (fun _ => False) hwrite).2
  have hput := at?_put_of_names (.file (Record.encode (.current now value))) n htemp.directory
  have hrecordFree' := hwritten.not_hasDirectory (p := placeOf record)
    (by simpa using hs.placeOf_ne.symm) not_false hrecordFree
  obtain ⟨t₃, hrename⟩ := rename_of_names h.temp_path h.record_path
    (htemp.of_keepsDirectories hwritten.directories) hput
    (hrecord.of_keepsDirectories hwritten.directories) (hrecordPlace ▸ hrecordFree')
  rw [save, hmade]
  simp only [replace, hwrite, hrename, openDirectory_of_moved hs h.named hrename]
  rfl

/-- **After a save nothing stands in the way either.** -/
theorem of_committed (h : Unobstructed t record) {value : Bool}
    (hc : Committed t record value t') : Unobstructed t' record where
  named := h.named
  record_path := h.record_path
  temp_path := h.temp_path
  short := h.short
  clear p content hp := by
    have hbut : p ∉ [placeOf record, placeOf (tempPath record)] := by
      simp only [List.mem_cons, List.not_mem_nil, or_false, not_or]
      exact ⟨fun he => h.record_clear.1 (he ▸ hp), fun he => h.temp_clear.1 (he ▸ hp)⟩
    rw [Ne, hc.changes.file_iff hbut]
    exact h.clear p content hp
  record_clear := by
    -- what is loaded is a file
    obtain ⟨bytes, hread, -⟩ := load_eq_ok_some_iff.1 hc.loads
    obtain ⟨-, -, above, n, hn, hfile⟩ := read_eq_ok hread
    rw [hn.eq_follow] at hfile
    exact ⟨h.record_clear.1, not_hasDirectory_of_file hfile⟩
  temp_clear := ⟨h.temp_clear.1, not_hasDirectory_of_none (kind?_eq_none_iff.1 hc.temp_gone)⟩

end Unobstructed

end FileStore

end TriggerLatch
