import TriggerLatch.Proofs.Store.Kept

/-!
# The paths of a file store

The record of a key and the second file lie in one directory, under two names: the name of the
record ends in `.json` and that of the second file in `.json.tmp`, unless it is `..`
(`FileStore.tempName`).  So **the two paths take the same steps but for the last one, and lead to
two places** (`FileStore.siblings_recordPath`, `FileStore.Siblings.placeOf_ne`), whatever the root
and the key are.
-/

namespace TriggerLatch

namespace Path

/-! ### The last name of a path -/

theorem splitLast_append {t : Text} (ht : '/' ∉ t) (s : Text) :
    splitLast (s ++ t) = ((splitLast s).1, (splitLast s).2 ++ t) := by
  have hall : ∀ c ∈ t.reverse, (c != '/') = true := by
    intro c hc
    rw [bne_iff_ne]
    rintro rfl
    exact ht (List.mem_reverse.1 hc)
  have hname : ((s ++ t).reverse.takeWhile (· != '/')).reverse =
      (s.reverse.takeWhile (· != '/')).reverse ++ t := by
    rw [List.reverse_append, List.takeWhile_append_of_pos hall, List.reverse_append,
      List.reverse_reverse]
  have hle : (s.reverse.takeWhile (· != '/')).length ≤ s.length := by
    simpa using (List.takeWhile_sublist (· != '/') (l := s.reverse)).length_le
  have htake : s.length + t.length -
      ((s.reverse.takeWhile (· != '/')).length + t.length) =
        s.length - (s.reverse.takeWhile (· != '/')).length := by omega
  simp only [splitLast, hname, List.length_append, List.length_reverse, htake]
  rw [List.take_append_of_le_length (Nat.sub_le ..)]

/-- A path is what stands before and behind its last slash; behind it is no slash, and before it is
nothing or a slash at the end. -/
theorem splitLast_spec (p : Path) :
    (splitLast p).1 ++ (splitLast p).2 = p ∧ '/' ∉ (splitLast p).2 ∧
      ((splitLast p).1 = [] ∨ ∃ a, (splitLast p).1 = a ++ ['/']) := by
  -- from the front of the path to its end
  obtain ⟨r, rfl⟩ : ∃ r : Path, p = r.reverse := ⟨p.reverse, p.reverse_reverse.symm⟩
  induction r with
  | nil => exact ⟨rfl, List.not_mem_nil, .inl rfl⟩
  | cons c r ih =>
    obtain ⟨happ, hslash, hend⟩ := ih
    rw [List.reverse_cons]
    by_cases hc : c = '/'
    · subst hc
      have hsplit : splitLast (r.reverse ++ ['/']) = (r.reverse ++ ['/'], []) := by
        simp [splitLast, List.take_of_length_le]
      rw [hsplit]
      exact ⟨List.append_nil _, List.not_mem_nil, .inr ⟨_, rfl⟩⟩
    · rw [splitLast_append (by simpa using Ne.symm hc)]
      refine ⟨?_, ?_, hend⟩
      · rw [← List.append_assoc, happ]
      · simpa [hslash] using Ne.symm hc

theorem steps_append_name {above name : Text} (ha : above = [] ∨ ∃ a, above = a ++ ['/'])
    (hn : '/' ∉ name) : steps (above ++ name) = steps above ++ (stepOf name).toList := by
  have hone : ∀ piece, [piece].filterMap stepOf = (stepOf piece).toList := by
    intro piece
    cases h : stepOf piece <;> simp [h]
  rcases ha with rfl | ⟨a, rfl⟩
  · rw [List.nil_append, steps, pieces_of_no_slash hn, hone]
    rfl
  · have hempty : stepOf [] = none := by decide
    rw [List.append_assoc, List.singleton_append, steps, steps, pieces_append_slash,
      pieces_append_slash, pieces_of_no_slash hn, List.filterMap_append, List.filterMap_append,
      hone]
    simp [pieces, hempty]

theorem asksForDirectory_append_name {above name : Text}
    (ha : above = [] ∨ ∃ a, above = a ++ ['/']) (hn : '/' ∉ name) :
    asksForDirectory (above ++ name) = (stepOf name).isNone := by
  have hlast : (pieces (above ++ name)).getLast? = some name := by
    rcases ha with rfl | ⟨a, rfl⟩
    · rw [List.nil_append, pieces_of_no_slash hn]
      rfl
    · rw [List.append_assoc, List.singleton_append, pieces_append_slash, pieces_of_no_slash hn,
        List.getLast?_concat]
  rw [asksForDirectory, hlast]

theorem stepOf_of_length {name : Text} (h : 2 < name.length) : stepOf name = some (.into name) := by
  have h1 : ¬ (name = [] ∨ name = ['.']) := by rintro (rfl | rfl) <;> simp at h
  have h2 : name ≠ ['.', '.'] := by rintro rfl; simp at h
  rw [stepOf, if_neg h1, if_neg h2]

/-! ### Extensions -/

/-- The last dot of a name parts it from its extension, unless nothing stands before it. -/
theorem stem?_append {u e : Text} (he : '.' ∉ e) (hu : u ++ '.' :: e ≠ ['.', '.']) :
    stem? (u ++ '.' :: e) = if u = [] then none else some u := by
  have hall : ∀ c ∈ e.reverse, (c != '.') = true := by
    intro c hc
    rw [bne_iff_ne]
    rintro rfl
    exact he (List.mem_reverse.1 hc)
  have hrev : (u ++ '.' :: e).reverse.dropWhile (· != '.') = '.' :: u.reverse := by
    rw [List.reverse_append, List.reverse_cons, List.append_assoc,
      List.dropWhile_append_of_pos hall]
    simp
  rw [stem?, if_neg hu, hrev]
  by_cases hnil : u = []
  · simp [hnil]
  · simp [hnil]

end Path

namespace FileStore

open TriggerLatch.Path Files

/-- The name of the second file, beside a record whose name is `u` with `.json` behind it. -/
def tempName (u : Text) : Text :=
  if u = [] then ".json.json.tmp".toList
  else if u = ['.'] then ['.', '.']
  else u ++ ".json.tmp".toList

theorem setExtension_cutExtension (u : Text) :
    setExtension (cutExtension (u ++ StoreKey.recordSuffix)) tempExtension = tempName u := by
  have hstem : stem? (u ++ StoreKey.recordSuffix) = if u = [] then none else some u := by
    refine stem?_append (e := "json".toList) (by decide) fun h => ?_
    have hl := congrArg List.length h
    simp at hl
  unfold cutExtension tempName
  rw [hstem]
  by_cases hnil : u = []
  · subst hnil
    decide
  · rw [if_neg hnil, if_neg hnil]
    by_cases hdot : u = ['.']
    · subst hdot
      decide
    · have hdots : u ++ ['.'] ≠ ['.'] ++ ['.'] := fun h => hdot (List.append_cancel_right h)
      have hstem' := stem?_append (e := []) List.not_mem_nil hdots
      rw [if_neg hnil] at hstem'
      have hname : ¬ (u ++ ['.'] = ['.', '.'] ∨ u ++ ['.'] = ['.'] ∨ u ++ ['.'] = []) := by
        rintro (h | h | h)
        · exact hdots h
        · exact hnil (List.append_cancel_right (show u ++ ['.'] = [] ++ ['.'] from h))
        · simp at h
      rw [if_neg hdot]
      simp only [setExtension, hname, if_false, hstem', Option.getD_some]
      rfl

theorem tempName_no_slash {u : Text} (h : '/' ∉ u) : '/' ∉ tempName u := by
  unfold tempName
  split
  · decide
  · split
    · decide
    · simp [h]

theorem tempName_ne (u : Text) : tempName u ≠ u ++ StoreKey.recordSuffix := by
  intro h
  have hl := congrArg List.length h
  unfold tempName at hl
  split at hl
  · next hu =>
    subst hu
    exact absurd hl (by decide)
  · split at hl
    · next hu =>
      subst hu
      exact absurd hl (by decide)
    · simp [StoreKey.recordSuffix] at hl

/-- The last step to the second file: to its name, or up if its name is `..`. -/
theorem stepOf_tempName (u : Text) :
    stepOf (tempName u) = some (if u = ['.'] then .up else .into (tempName u)) := by
  unfold tempName
  by_cases hnil : u = []
  · subst hnil
    decide
  · by_cases hdot : u = ['.']
    · subst hdot
      decide
    · rw [if_neg hnil, if_neg hdot, if_neg hdot]
      exact stepOf_of_length (by simp)

/-- The record and the second file are one last step apart: the record is an entry with this name
in the directory of both, and the second file is where another step leads from there. -/
structure Siblings (record : Path) (name : Text) (beside : Step) : Prop where
  record_steps : record.steps = record.parent.steps ++ [.into name]
  temp_steps : (tempPath record).steps = record.parent.steps ++ [beside]
  temp_file : (tempPath record).asksForDirectory = false
  ne : beside ≠ .into name

variable {record : Path} {name : Text} {beside : Step}

/-- The two paths of a key differ behind their last slash alone: there the record is named `u` with
`.json` behind it. -/
structure Parts (record above : Path) (u : Text) : Prop where
  above_end : above = [] ∨ ∃ a, above = a ++ ['/']
  no_slash : '/' ∉ u
  parent_eq : record.parent = above
  record_eq : record = above ++ (u ++ StoreKey.recordSuffix)
  temp_eq : tempPath record = above ++ tempName u

theorem parts_recordPath (root : Path) (k : StoreKey) :
    ∃ above u, Parts (k.recordPath root) above u := by
  obtain ⟨s, hs⟩ := join_eq_append (join root k.namespaceName) (k.name ++ StoreKey.recordSuffix)
  obtain ⟨-, hslash, habove⟩ := splitLast_spec (s ++ k.name)
  have hsuffix : '/' ∉ StoreKey.recordSuffix := by decide
  have hsplit := splitLast_append hsuffix (s ++ k.name)
  rw [List.append_assoc, ← hs] at hsplit
  generalize splitLast (s ++ k.name) = split at hslash habove hsplit
  obtain ⟨above, u⟩ := split
  refine ⟨above, u, habove, hslash, congrArg Prod.fst hsplit, ?_, ?_⟩
  · have happ := (splitLast_spec (k.recordPath root)).1
    rw [StoreKey.recordPath, hsplit] at happ
    exact happ.symm
  · rw [tempPath, withExtension, StoreKey.recordPath, hsplit]
    exact congrArg (above ++ ·) (setExtension_cutExtension u)

variable {above : Path} {u : Text}

theorem Parts.record_steps (h : Parts record above u) :
    record.steps = above.steps ++ [.into (u ++ StoreKey.recordSuffix)] := by
  have hsuffix : '/' ∉ StoreKey.recordSuffix := by decide
  have hname : stepOf (u ++ StoreKey.recordSuffix) = some (.into (u ++ StoreKey.recordSuffix)) :=
    stepOf_of_length (by simp [StoreKey.recordSuffix])
  rw [h.record_eq, steps_append_name h.above_end (by simp [h.no_slash, hsuffix]), hname]
  rfl

theorem Parts.temp_steps (h : Parts record above u) :
    (tempPath record).steps =
      above.steps ++ [if u = ['.'] then .up else .into (tempName u)] := by
  rw [h.temp_eq, steps_append_name h.above_end (tempName_no_slash h.no_slash), stepOf_tempName]
  rfl

/-- **The two paths of a key are siblings**, whatever the root and the key are. -/
theorem siblings_recordPath (root : Path) (k : StoreKey) :
    ∃ name beside, Siblings (k.recordPath root) name beside := by
  obtain ⟨above, u, h⟩ := parts_recordPath root k
  refine ⟨u ++ StoreKey.recordSuffix, if u = ['.'] then .up else .into (tempName u), ?_, ?_, ?_, ?_⟩
  · rw [h.parent_eq]
    exact h.record_steps
  · rw [h.parent_eq]
    exact h.temp_steps
  · rw [h.temp_eq, asksForDirectory_append_name h.above_end (tempName_no_slash h.no_slash),
      stepOf_tempName]
    rfl
  · split
    · simp
    · exact fun h => tempName_ne u (Step.into.inj h)

theorem Siblings.placeOf_record (h : Siblings record name beside) :
    placeOf record = placeOf record.parent ++ [name] := by
  rw [placeOf, h.record_steps, follow_append]
  rfl

theorem Siblings.placeOf_temp (h : Siblings record name beside) :
    placeOf (tempPath record) = followStep (placeOf record.parent) beside := by
  rw [placeOf, h.temp_steps, follow_append]
  rfl

/-- **The record and the second file are at two places.** -/
theorem Siblings.placeOf_ne (h : Siblings record name beside) :
    placeOf (tempPath record) ≠ placeOf record := by
  rw [h.placeOf_record, h.placeOf_temp]
  cases beside with
  | up =>
    intro he
    have hl := congrArg List.length he
    simp [followStep] at hl
  | into other =>
    intro he
    obtain rfl : other = name := by simpa [followStep] using he
    exact h.ne rfl

end FileStore

end TriggerLatch
