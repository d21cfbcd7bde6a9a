import TriggerLatch.Device.Basic
import TriggerLatch.Surface.Router

/-!
# Commands to a device

Everything that can be done to a device from outside, one step at a time, and what each step
answers (`Device.perform`): what callers of the latch do, what reaches it over the network, and what
happens to its store and its files behind its back.
-/

namespace TriggerLatch

/-- A step. -/
inductive Command where
  /-- An edge on the latch itself. -/
  | edge
  /-- An edge from a source. -/
  | fire
  | read
  | debug
  | reset
  | flush
  | flushOnce
  | request (request : Surface.Request)
  | publish (value : Bool)
  /-- The subscriber looks at the feed. -/
  | receive
  /-- The script of the saves to come is replaced. -/
  | setScript (script : List SaveItem)
  /-- Loads fail from now on, or no longer. -/
  | setLoadError (error : Option StoreError)
  | load
  | save (value : Bool)
  /-- The store is looked at, past its own functions. -/
  | peek
  | listFiles (root : Path)
  | place (path : Path) (content : Bytes)
  | discard (path : Path)
  | makeDirectory (path : Path)
  | lookAt (path : Path)
  /-- Time passes until then. -/
  | waitUntil (time : Nat)
  | reboot

/-- The answer to a step. -/
inductive Reply where
  | nothing
  | flag (value : Bool)
  | debug (text : String)
  | reset (ending : Ending (Except PersistError Unit))
  | flush (ending : Ending (Except PersistError FlushOutcome))
  | flushOnce (outcome : Option FlushOutcome)
  | response (response : Surface.Response)
  | received (changed value : Bool)
  | loaded (result : Except StoreError (Option Bool))
  | saved (ending : Ending (Except StoreError Unit))
  /-- The value of the memory store. -/
  | memory (value : Option Bool)
  | content (bytes : Option Bytes)
  /-- Everything below a directory; directories are marked. -/
  | listing (places : List (Files.Place × Bool))

namespace Device

/-- With another panel. -/
def withPanel (d : Device) (p : Panel) : Device := { d with panel := p }

/-- With another latch. -/
def withLatch (d : Device) (l : Latch) : Device := { d with panel.latch := l }

/-- With another backing. -/
def withBacking (d : Device) (b : Backing) : Device := { d with panel.latch.backing := b }

/-- The content of a file, if it can be read. -/
def contentOf (d : Device) (p : Path) : Option Bytes := (Files.read d.files p).toOption

/-- What the store holds, past its own functions. -/
def peek (d : Device) : Reply :=
  match d.panel.latch.backing.store with
  | .memory => .memory d.panel.latch.backing.medium.memory
  | .file record => .content (d.contentOf record)

/-- Everything below a directory. -/
def listing (d : Device) (root : Path) : List (Files.Place × Bool) :=
  match Files.resolve d.files root with
  | .error _ => []
  | .ok place =>
    match Files.directoryAt d.files place with
    | .error _ => []
    | .ok inside => inside.listing []

/-- **One step of a device and its answer.** -/
def perform (d : Device) : Command → Reply × Device
  | .edge =>
    let (b, l) := d.panel.latch.recordEdge
    (.flag b, d.withLatch l)
  | .fire =>
    let (b, p) := d.panel.fire
    (.flag b, d.withPanel p)
  | .read => (.flag d.panel.latch.read, d)
  | .debug => (.debug d.panel.latch.debug, d)
  | .reset =>
    let (r, l) := d.panel.latch.reset
    (.reset r, d.withLatch l)
  | .flush =>
    let (r, l) := d.panel.latch.flush
    (.flush r, d.withLatch l)
  | .flushOnce =>
    let (r, p) := d.panel.flushOnce
    (.flushOnce r, d.withPanel p)
  | .request r =>
    let (response, p) := Surface.handle r d.panel
    (.response response, d.withPanel p)
  | .publish value =>
    let feed := d.panel.feed.publish value
    (.flag feed.value, d.withPanel { d.panel with feed })
  | .receive =>
    (.received (d.panel.feed.hasNews d.receiver) d.panel.feed.value,
      { d with receiver := d.panel.feed.version })
  | .setScript script => (.nothing, d.withBacking { d.panel.latch.backing with script })
  | .setLoadError loadError => (.nothing, d.withBacking { d.panel.latch.backing with loadError })
  | .load => (.loaded d.panel.latch.backing.load, d)
  | .save value =>
    let (r, l) := d.panel.latch.saveDirectly value
    (.saved r, d.withLatch l)
  | .peek => (d.peek, d)
  | .listFiles root => (.listing (d.listing root), d)
  | .place path content => (.nothing, d.withFiles (Files.writeBelow d.files path content))
  | .discard path => (.nothing, d.withFiles (Files.remove d.files path))
  | .makeDirectory path => (.nothing, d.withFiles (Files.makeAll d.files path).2)
  | .lookAt path => (.content (d.contentOf path), d)
  | .waitUntil time => (.nothing, d.waitUntil time)
  | .reboot => (.nothing, d.reboot)

/-- A row of steps. -/
def performAll (d : Device) (cs : List Command) : Device :=
  cs.foldl (fun d c => (d.perform c).2) d

end Device

end TriggerLatch
