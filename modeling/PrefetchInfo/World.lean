import PrefetchInfo.Device.Part
import PrefetchInfo.Device.Sink
import PrefetchInfo.Files.Tree
import PrefetchInfo.Notify.Destination

/-!
# The world around a tool

What a tool can reach besides its own output: the files of its working folder, the writers its caller
lends it, and standard error, where diagnostics and the developer log come together in the order in
which they arise. Standard error takes everything.
-/

namespace PrefetchInfo

/-- Something that appears on standard error. -/
inductive Utterance where
  /-- Text written there. -/
  | text (bytes : Bytes)
  /-- An event of the developer log. -/
  | event (event : Event)
  deriving DecidableEq, Repr

/-- A writer its owner lends to others. -/
structure LentWriter where
  /-- Where it writes. -/
  sink : Sink
  /-- Whether a borrower left it in an unknown state, so that nobody may use it any more. -/
  poisoned : Bool
  deriving Repr

/-- The world around a tool. -/
structure World where
  /-- The working folder. -/
  files : FileTree
  /-- The writers that can be lent, each with its name. -/
  writers : List (String × LentWriter)
  /-- What has appeared on standard error, in order. -/
  utterances : List Utterance
  deriving Repr

namespace World

/-- The world with the given files and nothing else. -/
def ofFiles (files : FileTree) : World :=
  ⟨files, [], []⟩

/-- The writer of a name; an unknown name is that of a writer not used so far. -/
def writer (world : World) (name : String) : LentWriter :=
  (world.writers.lookup name).getD ⟨{}, false⟩

/-- The world with a writer put under a name. -/
def putWriter (world : World) (name : String) (writer : LentWriter) : World :=
  { world with writers := (name, writer) :: world.writers.filter (·.1 ≠ name) }

theorem writer_putWriter (world : World) (name : String) (lent : LentWriter) :
    (world.putWriter name lent).writer name = lent := by
  simp [writer, putWriter]

/-- Adds to what has appeared on standard error. -/
def utter (world : World) (utterance : Utterance) : World :=
  { world with utterances := world.utterances ++ [utterance] }

/-- The text on standard error without the developer log. -/
def errorText (world : World) : Bytes :=
  world.utterances.flatMap fun
    | .text bytes => bytes
    | .event _ => []

/-- The developer log. -/
def events (world : World) : List Event :=
  world.utterances.filterMap fun
    | .text _ => none
    | .event event => some event

/-- Standard error as a device, which is never interrupted. -/
def standardError : Device World where
  write data world := (.ok data.length, world.utter (.text data))
  flush world := (.ok (), world)
  patience _ := 0
  taken_le := by simp

/-- The files, as a part of the world. -/
def filesPart : Part World FileTree where
  get := files
  set files world := { world with files }
  get_set _ _ := rfl

/-- The sink of a lent writer, as a part of the world. -/
def sinkPart (name : String) : Part World Sink where
  get world := (world.writer name).sink
  set sink world := world.putWriter name { world.writer name with sink }
  get_set sink world := by simp [writer_putWriter]

/-- The failure of a writer that nobody may use any more. -/
def lockPoisoned : Failure :=
  .described .other "notify stream writer lock poisoned"

/-- What a notify stream reaches in the world: files to append to, and lent writers by name. -/
def outlets : Notify.Outlets World Route String where
  openFile path world :=
    let (result, files) := world.files.openForAppending path
    (result, { world with files })
  file route := (FileTree.appender route).within filesPart
  ready name world := if (world.writer name).poisoned then .error lockPoisoned else .ok ()
  writer name := Sink.device.within (sinkPart name)
  standardError := standardError
  record event world := world.utter (.event event)

end World

end PrefetchInfo
