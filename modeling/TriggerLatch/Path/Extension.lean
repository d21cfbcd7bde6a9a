import TriggerLatch.Path.Basic

/-!
# Extensions of file names

The extension of a file name is what follows its last dot, unless nothing stands before that dot.
`Path.withExtension` puts another extension in its place: the name is cut before its extension, with
the dot left on, and the new extension then replaces whatever the name that remains has behind its
last dot.  A name that ends up being `..` is left as it is.
-/

namespace TriggerLatch.Path

/-- What stands before and behind the last slash; the slash goes with the first part. -/
def splitLast (p : Path) : Path × Text :=
  let name := (p.reverse.takeWhile (· != '/')).reverse
  (p.take (p.length - name.length), name)

/-- The path of the directory that a path's last name is in. -/
def parent (p : Path) : Path := (splitLast p).1

/-- What stands before the last dot of a name, unless that is nothing or the name is `..`. -/
def stem? (name : Text) : Option Text :=
  if name = ['.', '.'] then none
  else
    match name.reverse.dropWhile (· != '.') with
    | _ :: before => if before = [] then none else some before.reverse
    | [] => none

/-- A name with another extension; `.` and `..` are no names and stay. -/
def setExtension (name extension : Text) : Text :=
  if name = ['.', '.'] ∨ name = ['.'] ∨ name = [] then name
  else (stem? name).getD name ++ '.' :: extension

/-- A name cut before its extension, the dot left on. -/
def cutExtension (name : Text) : Text :=
  match stem? name with
  | some stem => stem ++ ['.']
  | none => name

/-- The path with another extension in place of the one it has. -/
def withExtension (p : Path) (extension : Text) : Path :=
  let (above, name) := splitLast p
  above ++ setExtension (cutExtension name) extension

end TriggerLatch.Path
