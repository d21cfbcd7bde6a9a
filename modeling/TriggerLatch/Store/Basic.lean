import TriggerLatch.Files.Access
import TriggerLatch.Path.Extension
import TriggerLatch.Store.Error
import TriggerLatch.Store.Record
import TriggerLatch.Store.RecordPath

/-!
# Stores

A store keeps one flag.  A memory store keeps it as it is; a file store keeps a record in a file
(`FileStore.load`, `FileStore.save`).  The record is replaced in one step: the new one is written to
a second file beside it and then renamed, so a reader finds the old record or the new one.

What is kept lives in a `Medium`, apart from the store that works on it, so that it outlives the
store.
-/

namespace TriggerLatch

/-- All that survives when a process ends. -/
structure Medium where
  /-- The value of the memory store. -/
  memory : Option Bool
  /-- The files. -/
  files : Files.Tree
  deriving DecidableEq, Repr

namespace FileStore

/-- The name in place of `.json` of the second file. -/
def tempExtension : Text := "json.tmp".toList

/-- The path of the second file, beside the record. -/
def tempPath (record : Path) : Path := Path.withExtension record tempExtension

/-- The value of a record, if it has the accepted version. -/
def valueOf (r : Record) : Except StoreError Bool :=
  if r.schema = Record.currentSchema then .ok r.triggered
  else .error (.schemaMismatch Record.currentSchema.toNat r.schema.toNat)

/-- The value kept in a file; a file that is not there keeps none. -/
def load (t : Files.Tree) (record : Path) : Except StoreError (Option Bool) :=
  match Files.read t record with
  | .error .notFound => .ok none
  | .error e => .error (.io e)
  | .ok bytes =>
    match Record.decode bytes with
    | none => .error .malformed
    | some r => (valueOf r).map some

/-- Writes the second file and renames it. -/
def replace (t : Files.Tree) (record : Path) (content : Bytes) : Files.Attempt :=
  match Files.write t (tempPath record) content with
  | .error e => (.error e, t)
  | .ok t =>
    match Files.rename t (tempPath record) record with
    | .error e => (.error e, t)
    | .ok t => (Files.openDirectory t record.parent, t)

/-- Keeps a value in a file; directories that are missing are made. -/
def save (t : Files.Tree) (record : Path) (now : Timestamp) (value : Bool) :
    Except StoreError Unit × Files.Tree :=
  let (r, t) :=
    match Files.makeAll t record.parent with
    | (.ok (), t) => replace t record (Record.encode (.current now value))
    | failed => failed
  (r.mapError .io, t)

end FileStore

/-- A store, and where it keeps its value. -/
inductive Store where
  | memory
  | file (record : Path)
  deriving DecidableEq, Repr

namespace Store

/-- The value that was saved last, if there was one. -/
def load (s : Store) (m : Medium) : Except StoreError (Option Bool) :=
  match s with
  | memory => .ok m.memory
  | file record => FileStore.load m.files record

/-- Saves a value. -/
def save (s : Store) (now : Timestamp) (value : Bool) (m : Medium) :
    Except StoreError Unit × Medium :=
  match s with
  | memory => (.ok (), { m with memory := some value })
  | file record =>
    let (r, files) := FileStore.save m.files record now value
    (r, { m with files })

end Store

end TriggerLatch
