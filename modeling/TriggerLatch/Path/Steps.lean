import TriggerLatch.Path.Basic

/-!
# Steps of a path

The names of a path, one step each: `Path.steps`.  A single dot is no step, two dots are a step up.
-/

namespace TriggerLatch

/-- One step along a path. -/
inductive Step where
  /-- To the directory above. -/
  | up
  /-- To what has this name. -/
  | into (name : Text)
  deriving DecidableEq, Repr

namespace Path

/-- The pieces of a text between slashes. -/
def pieces : Text → List Text
  | [] => [[]]
  | c :: r =>
    if c = '/' then [] :: pieces r
    else
      match pieces r with
      | p :: ps => (c :: p) :: ps
      | [] => [[c]]

/-- The step that a piece stands for, if it stands for one. -/
def stepOf (piece : Text) : Option Step :=
  if piece = [] ∨ piece = ['.'] then none
  else if piece = ['.', '.'] then some .up
  else some (.into piece)

/-- The steps of a path in order. -/
def steps (p : Path) : List Step := (pieces p).filterMap stepOf

/-- The path ends in a way that only a directory may: in a slash or a dot. -/
def asksForDirectory (p : Path) : Bool :=
  match (pieces p).getLast? with
  | some piece => (stepOf piece).isNone
  | none => true

theorem pieces_ne_nil (s : Text) : pieces s ≠ [] := by
  cases s with
  | nil => simp [pieces]
  | cons c r => unfold pieces; split <;> (try split) <;> simp

theorem pieces_append_slash (s t : Text) : pieces (s ++ '/' :: t) = pieces s ++ pieces t := by
  induction s with
  | nil => simp [pieces]
  | cons c r ih =>
    by_cases h : c = '/'
    · simp [pieces, h, ih]
    · cases hp : pieces r with
      | nil => exact absurd hp (pieces_ne_nil r)
      | cons p ps => simp [pieces, h, ih, hp]

theorem pieces_of_no_slash {s : Text} (h : '/' ∉ s) : pieces s = [s] := by
  induction s with
  | nil => rfl
  | cons c r ih =>
    have hc : c ≠ '/' := fun e => h (by simp [e])
    simp [pieces, hc, ih fun k => h (List.mem_cons_of_mem _ k)]

end Path

end TriggerLatch
