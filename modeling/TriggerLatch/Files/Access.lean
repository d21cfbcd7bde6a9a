import TriggerLatch.Files.Fault
import TriggerLatch.Files.Tree
import TriggerLatch.Path.Steps

/-!
# File operations

Reading, writing, renaming and making directories, as functions of a tree.  A path is followed step
by step (`walk`): what a step leaves must be a directory, and a name must be there unless it is the
last one of something that is made.  Relative paths begin at the root.
-/

namespace TriggerLatch.Files

/-- A name has at most so many bytes. -/
def maxNameLength : Nat := 255

/-- A path has fewer bytes than this. -/
def maxPathLength : Nat := 4096

/-- The name has too many bytes. -/
def isTooLong (name : Text) : Bool := maxNameLength < (Utf8.encode name).length

/-- What is wrong with a path as such. -/
def checkPath (p : Path) : Except Fault Unit :=
  if '\x00' ∈ p then .error .zeroInPath
  else if p = [] then .error .notFound
  else if maxPathLength ≤ (Utf8.encode p).length then .error .nameTooLong
  else .ok ()

/-- The directory at a place. -/
def directoryAt (t : Tree) (place : Place) : Except Fault Tree :=
  match t.at? place with
  | some (.directory inside) => .ok inside
  | some (.file _) => .error .notADirectory
  | none => .error .notFound

/-- Where steps lead from a place; everything on the way must be there. -/
def walk (t : Tree) : Place → List Step → Except Fault Place
  | place, [] => .ok place
  | place, step :: rest => do
    let inside ← directoryAt t place
    match step with
    | .up => walk t place.dropLast rest
    | .into name =>
      if isTooLong name then .error .nameTooLong
      else if (inside.lookup name).isNone then .error .notFound
      else walk t (place ++ [name]) rest

/-- Where a path leads. -/
def resolve (t : Tree) (p : Path) : Except Fault Place := do
  checkPath p
  walk t [] p.steps

/-- The place that the last step of a path names, whether or not something is there, and what is
there; `none` where the path names the root or ends in a step up. -/
def target (t : Tree) (steps : List Step) : Except Fault (Option (Place × Option Entry)) := do
  match steps.getLast? with
  | none => .ok none
  | some last =>
    let above ← walk t [] steps.dropLast
    let inside ← directoryAt t above
    match last with
    | .up => .ok none
    | .into name =>
      if isTooLong name then .error .nameTooLong
      else .ok (some (above ++ [name], inside.lookup name))

/-- The content of a file. -/
def read (t : Tree) (p : Path) : Except Fault Bytes := do
  let place ← resolve t p
  match t.at? place with
  | some (.file content) => if p.asksForDirectory then .error .notADirectory else .ok content
  | some (.directory _) => .error .isADirectory
  | none => .error .notFound

/-- The content of a text file. -/
def readText (t : Tree) (p : Path) : Except Fault Text := do
  match Utf8.decode (← read t p) with
  | some s => .ok s
  | none => .error .notText

/-- A file with a new content, made if it is not there. -/
def write (t : Tree) (p : Path) (content : Bytes) : Except Fault Tree := do
  checkPath p
  match ← target t p.steps with
  | none => .error .isADirectory
  | some (place, there) =>
    match there with
    | some (.directory _) => .error .isADirectory
    | _ =>
      if p.asksForDirectory then .error .isADirectory else .ok (t.put (.file content) place)

/-- A new directory, where the steps lead. -/
def makeDirectory (t : Tree) (steps : List Step) : Except Fault Tree := do
  match ← target t steps with
  | none => .error .alreadyExists
  | some (_, some _) => .error .alreadyExists
  | some (place, none) => .ok (t.put (.directory .empty) place)

/-- The steps lead to a directory. -/
def isDirectory (t : Tree) (steps : List Step) : Bool :=
  match walk t [] steps with
  | .ok place => (directoryAt t place).isOk
  | .error _ => false

/-- What became of the attempt to make a directory: the tree changes even where it fails. -/
abbrev Attempt := Except Fault Unit × Tree

/-- It does not matter if the directory is there already. -/
def settle (t : Tree) (steps : List Step) : Except Fault Tree → Attempt
  | .ok t' => (.ok (), t')
  | .error .alreadyExists =>
    if isDirectory t steps then (.ok (), t) else (.error .alreadyExists, t)
  | .error e => (.error e, t)

/-- A directory and all those above it that are missing; the steps are given last one first. -/
def makeAllReversed (t : Tree) : List Step → Attempt
  | [] => (.ok (), t)
  | last :: above =>
    let steps := (last :: above).reverse
    match makeDirectory t steps with
    | .error .notFound =>
      match makeAllReversed t above with
      | (.ok (), t') => settle t' steps (makeDirectory t' steps)
      | failed => failed
    | r => settle t steps r

/-- A directory and all those above it that are missing. -/
def makeAll (t : Tree) (p : Path) : Attempt :=
  if p = [] then (.ok (), t)
  else
    match checkPath p with
    | .error e => (.error e, t)
    | .ok () => makeAllReversed t p.steps.reverse

/-- A file moved to another path, in place of a file that is there. -/
def rename (t : Tree) (source destination : Path) : Except Fault Tree := do
  checkPath source
  checkPath destination
  match ← target t source.steps, ← target t destination.steps with
  | some (place, some (.file content)), some (place', there) =>
    match there with
    | some (.directory _) => .error .isADirectory
    | _ =>
      if place = place' then .ok t
      else .ok ((t.delete place).put (.file content) place')
  | some (_, none), _ => .error .notFound
  | _, _ => .error .isADirectory

/-- Opens a directory, as is done to make its entries durable. -/
def openDirectory (t : Tree) (p : Path) : Except Fault Unit := do
  let place ← resolve t p
  let _ ← directoryAt t place
  .ok ()

/-- Without whatever a path names. -/
def remove (t : Tree) (p : Path) : Tree :=
  match resolve t p with
  | .ok place => t.delete place
  | .error _ => t

/-- A file with a new content, with the directories above it. -/
def writeBelow (t : Tree) (p : Path) (content : Bytes) : Tree :=
  let t := (makeAllReversed t p.steps.reverse.tail).2
  match write t p content with
  | .ok t' => t'
  | .error _ => t

end TriggerLatch.Files
