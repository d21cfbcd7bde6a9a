import TriggerLatch.Proofs.Device.Lockstep
import TriggerLatch.Proofs.Store.Unobstructed

/-!
# Files in place of memory

A device that keeps its value in a file **does what one does that keeps it in memory**
(`Device.file_refines_memory`), as long as nothing stands in the way of the record and nobody else
touches the files: saves succeed, and what was saved last is loaded, be it from the record behind
its temporary file, its directories and its encoding, or from a variable.
-/

namespace TriggerLatch

open FileStore

namespace Pairing

variable {P : Pairing}

/-- A memory store, and the file store of a key that loads the same and has nothing in its way. -/
def filing (root : Path) (k : StoreKey) : Pairing where
  item := Eq
  home s m s' m' := s = .memory ∧ s' = .file (k.recordPath root) ∧
    load m'.files (k.recordPath root) = .ok m.memory ∧ Unobstructed m'.files (k.recordPath root)
  item_plain := rfl
  item_during := by
    rintro i j rfl
    rfl
  item_verdict := by
    rintro i j rfl
    exact .inl rfl
  home_load := by
    rintro s s' m m' ⟨rfl, rfl, hload, -⟩
    exact hload
  home_save := by
    rintro s s' m m' ⟨rfl, rfl, -, hfree⟩ now value
    obtain ⟨name, beside, hs⟩ := siblings_recordPath root k
    have hok := hfree.save_ok hs now value
    have hkept := committed_of_save hs (StoreKey.asksForDirectory_recordPath root k) hok
    exact ⟨hok, rfl, rfl, hkept.loads, hfree.of_committed hkept⟩

theorem not_soft_filing (root : Path) (k : StoreKey) (e : StoreError) :
    ¬ (filing root k).Soft e := by
  rintro ⟨i, j, rfl, hi, hj⟩
  cases hi.symm.trans hj

/-! ### Where nothing is softened -/

theorem Endings.eq (hp : ∀ e, ¬ P.Soft e) {ε α : Type} {wrap : StoreError → ε}
    {r r' : Ending (Except ε α)} (h : P.Endings wrap r r') : r' = r := by
  cases h with
  | same => rfl
  | softened he => exact absurd he (hp _)

theorem Replies.eq (hp : ∀ e, ¬ P.Soft e) {r r' : Reply} (h : P.Replies r r') : r' = r := by
  cases h with
  | same => rfl
  | flush h => rw [h.eq hp]
  | reset h => rw [h.eq hp]

theorem Notices.eq (hp : ∀ e, ¬ P.Soft e) {n n' : Notice} (h : P.Notices n n') : n' = n := by
  cases h with
  | same => rfl
  | flush he | reset he => exact absurd he (hp _)

theorem eq_of_forall₂ {α : Type} {R : α → α → Prop} (hR : ∀ {a a'}, R a a' → a' = a)
    {as as' : List α} (h : List.Forall₂ R as as') : as' = as := by
  rw [eq_comm, ← List.forall₂_eq_eq_eq]
  exact h.imp fun _ _ ha => (hR ha).symm

end Pairing

namespace Device

/-- **A device on files does what a device in memory does**: both answer every command alike, and
end up with the same latch, feed, log of saves and notices, loading the same; for every command, so
at every step.  The commands may replace the script of the saves to come. -/
theorem file_refines_memory (root : Path) (k : StoreKey) (m m' : Medium)
    (hl : load m'.files (k.recordPath root) = .ok m.memory)
    (hu : Unobstructed m'.files (k.recordPath root)) (loadError : Option StoreError)
    (script : List SaveItem) (clock : Clock) (flusher : Option Flusher)
    (indicator : Option Indicator) (hi : ∀ path, indicator.map (·.output) ≠ some (.file path))
    {cs : List Command} (hc : ∀ c ∈ cs, c.isIndirect = true ∨ ∃ s, c = .setScript s) :
    let memory := Device.seed ⟨.memory, m, loadError, script, [], clock⟩ flusher none indicator
    let file := Device.seed ⟨.file (k.recordPath root), m', loadError, script, [], clock⟩
      flusher none indicator
    let d := memory.performAll cs
    let d' := file.performAll cs
    file.replies cs = memory.replies cs ∧
      d'.panel.latch.cell = d.panel.latch.cell ∧ d'.panel.feed = d.panel.feed ∧
      d'.panel.latch.backing.saves = d.panel.latch.backing.saves ∧
      d'.panel.latch.backing.load = d.panel.latch.backing.load ∧
      d'.panel.notices = d.panel.notices := by
  intro memory file d d'
  have hsoft := Pairing.not_soft_filing root k
  have hbackings : (Pairing.filing root k).Backings
      ⟨.memory, m, loadError, script, [], clock⟩
      ⟨.file (k.recordPath root), m', loadError, script, [], clock⟩ :=
    ⟨⟨rfl, rfl, hl, hu⟩, rfl, List.forall₂_same.2 fun _ _ => rfl, rfl, rfl⟩
  have hstart : (Pairing.filing root k).Devices memory file :=
    .seed hbackings flusher (.inr ⟨rfl, hi⟩)
  have hcommands : List.Forall₂ (Pairing.filing root k).Commands cs cs :=
    List.forall₂_same.2 fun c hmem => .refl (fun _ => rfl) (hc c hmem)
  obtain ⟨hreplies, hrun⟩ := hstart.run hcommands
  have hbacking := hrun.panel.latch.backing
  exact ⟨Pairing.eq_of_forall₂ (·.eq hsoft) hreplies, hrun.panel.latch.cell, hrun.panel.feed,
    hbacking.saves, hbacking.load, Pairing.eq_of_forall₂ (·.eq hsoft) hrun.panel.notices⟩

/-- A record that holds `true`, beside a stale second file. -/
def heldTree : Files.Tree :=
  stateTree (.directory "doormon".toList
    (.file "triggered.json".toList (Record.encode (.current leapSecond true))
      (.file "triggered.json.tmp".toList [123] .empty)) .empty)

theorem unobstructed_heldTree :
    Unobstructed heldTree (StoreKey.standard.recordPath "/state".toList) := by
  have hsteps : (StoreKey.standard.recordPath "/state".toList).parent.steps =
      [.into "state".toList, .into "doormon".toList] := by decide
  have hway : ∀ p, Made (StoreKey.standard.recordPath "/state".toList) p →
      p = [] ∨ p = ["state".toList] ∨ p = ["state".toList, "doormon".toList] := by
    rintro p ⟨front, hf, rfl⟩
    rw [hsteps] at hf
    simp only [List.prefix_cons_iff, List.prefix_nil] at hf
    rcases hf with rfl | ⟨_, rfl, rfl | ⟨_, rfl, rfl⟩⟩
    · exact .inl rfl
    · exact .inr (.inl rfl)
    · exact .inr (.inr rfl)
  have hshort : ∀ s ∈ (StoreKey.standard.recordPath "/state".toList).steps ++
      (tempPath (StoreKey.standard.recordPath "/state".toList)).steps,
      ∀ name, s = .into name → Files.isTooLong name = false := by
    intro s hs
    have hsteps' : (StoreKey.standard.recordPath "/state".toList).steps ++
        (tempPath (StoreKey.standard.recordPath "/state".toList)).steps =
        [.into "state".toList, .into "doormon".toList, .into "triggered.json".toList,
          .into "state".toList, .into "doormon".toList, .into "triggered.json.tmp".toList] := by
      decide
    rw [hsteps'] at hs
    simp only [List.mem_cons, List.not_mem_nil, or_false] at hs
    rcases hs with rfl | rfl | rfl | rfl | rfl | rfl <;> rintro name ⟨⟩ <;> rfl
  refine ⟨by decide, rfl, rfl, fun name hn => hshort _ hn name rfl, ?_, ⟨?_, ?_⟩, ⟨?_, ?_⟩⟩
  · intro p content hp h
    rcases hway p hp with rfl | rfl | rfl <;> cases h
  · intro hp
    rcases hway _ hp with h | h | h <;> exact absurd h (by decide)
  · rintro ⟨inside, h⟩
    cases h
  · intro hp
    rcases hway _ hp with h | h | h <;> exact absurd h (by decide)
  · rintro ⟨inside, h⟩
    cases h

/-- The first save panics after an edge and a reset have reached the latch, the second one fails,
and the third one is disturbed by an edge; then the device restarts, at first without being able to
load. -/
theorem file_refines_memory_restarts :
    let record := StoreKey.standard.recordPath "/state".toList
    let busy := StoreError.unavailable "busy".toList
    let script := [⟨[.edge, .reset], .panic⟩, ⟨[], .refuse busy⟩, ⟨[.edge], .commit⟩]
    let clock : Clock := ⟨0, leapSecond⟩
    let cs := [.reset, .flush, .request ⟨"GET".toList, "/reset".toList, []⟩, .waitUntil 6, .load,
      .setLoadError (some busy), .reboot, .read, .setLoadError none, .reboot, .read]
    let memory := Device.seed ⟨.memory, ⟨some true, .empty⟩, none, script, [], clock⟩
      (some ⟨5, .unstarted⟩) none none
    let file := Device.seed ⟨.file record, ⟨none, heldTree⟩, none, script, [], clock⟩
      (some ⟨5, .unstarted⟩) none none
    load heldTree record = .ok (some true) ∧ Unobstructed heldTree record ∧
      file.replies cs = memory.replies cs ∧
      (file.replies cs)[0]? = some (.reset (.panicked "injected panic")) ∧
      (file.performAll cs).panel.latch.cell = ⟨true, false⟩ := by
  intro record busy script clock cs
  have hread : Files.read heldTree record = .ok (Record.encode (.current leapSecond true)) := rfl
  have hl : load heldTree record = .ok (some true) := load_of_read hread
  have hc : ∀ c ∈ cs, c.isIndirect = true ∨ ∃ s, c = .setScript s := by
    have hall : cs.all Command.isIndirect = true := rfl
    exact fun c hc => .inl (List.all_eq_true.1 hall c hc)
  obtain ⟨hreplies, hcell, -⟩ := file_refines_memory "/state".toList .standard
    ⟨some true, .empty⟩ ⟨none, heldTree⟩ hl unobstructed_heldTree none script clock
    (some ⟨5, .unstarted⟩) none nofun hc
  refine ⟨hl, unobstructed_heldTree, hreplies, ?_, ?_⟩
  · rw [hreplies]
    rfl
  · rw [hcell]
    decide +kernel

end Device

end TriggerLatch
