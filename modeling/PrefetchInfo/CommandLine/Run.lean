import PrefetchInfo.Banner
import PrefetchInfo.CommandLine.Arguments
import PrefetchInfo.CommandLine.LogFilter
import PrefetchInfo.Info.Handle
import PrefetchInfo.Interrupt.Trap
import PrefetchInfo.Output
import PrefetchInfo.World

/-!
# A run of the tool

A run prints the version banner, opens the log file, attaches the interruption handler, and then
opens, prints and closes the input file, up to the first of these steps that fails. A run that fails
says why on standard error and, if diagnostics are wanted, prints the backtrace of the failure. An
interruption that is not trapped kills a run: nothing more is written then, not even what was held
back.
-/

namespace PrefetchInfo.CommandLine

/-- The name of the tool. -/
def program : String := "sccainfo"

/-- Why a run fails. -/
inductive Fault where
  /-- Output failed. -/
  | output (failure : Failure)
  /-- A step failed; `doing` says which, and the chain why. -/
  | step (doing : String) (chain : ErrorChain)
  /-- There is no file to look at. -/
  | noSource
  deriving DecidableEq, Repr

namespace Fault

/-- What a fault says. -/
def text : Fault → String
  | output failure => failure.text
  | step doing chain => doing ++ ": " ++ chain.brief
  | noSource => "Missing source file"

/-- The chain that tells why, if there is one. -/
def chain? : Fault → Option ErrorChain
  | step _ chain => some chain
  | _ => none

end Fault

/-- Why a run stops before it is through. -/
inductive Stop where
  /-- It fails. -/
  | failed (fault : Fault)
  /-- The interruption with the code `raw` kills it. -/
  | killed (raw : Int32)
  deriving DecidableEq, Repr

/-- The interruption handler of the tool, which asks to stop. -/
inductive Handler where
  | requestAbort
  deriving DecidableEq, Repr

/-- The state of a run, whose standard output works on `τ`. -/
structure Session (τ : Type) where
  /-- The output of the tool. -/
  out : Buffered τ
  /-- The notify stream. -/
  stream : NotifyStream Route String
  /-- The world around the tool. -/
  world : World
  /-- The interruption trap. -/
  trap : Trap Handler
  /-- The abort flag. -/
  abort : AbortFlag

/-- A part of a run: it acts on the state and may stop the run. -/
abbrev Act (τ α : Type) := ExceptT Stop (StateM (Session τ)) α

/-- What surrounds a run and does not change while it lasts. -/
structure Setting (τ : Type) where
  /-- Standard output as a device. -/
  stdout : Device τ
  /-- The codes of the interruptions that arrive once what stands at a route has been opened for
  reading and before anything is read from it. -/
  arrivals : Route → List Int32

namespace Session

variable {τ : Type}

/-- Tells developers of events. -/
def record (session : Session τ) (events : List Event) : Session τ :=
  { session with world := events.foldl (fun world event => world.utter (.event event)) session.world }

/-- What interruptions do to a run, one after the other: a trapped one asks to stop, and the first that
ends the process stops the run. -/
def interrupted (session : Session τ) : List Int32 → Option Int32 × Session τ
  | [] => (none, session)
  | raw :: later =>
    match session.trap.arrive raw with
    | (.ends, trap) => (some raw, { session with trap })
    | (.handled signal (some .requestAbort), trap) =>
      let (_, abort) := (AbortFlag.requestFrom signal).run session.abort
      interrupted { session with trap, abort } later
    | (_, trap) => interrupted { session with trap } later

end Session

/-! ### The steps of a run -/

variable {τ : Type}

/-- Writes a banner. -/
def banner (out : Device (Buffered τ)) (kind : Banner.Kind) : Act τ Unit := do
  let session ← get
  let (result, buffer) := Banner.write out program kind session.out
  set { session with out := buffer }
  match result with
  | .ok () => pure ()
  | .error failure => throw (.failed (.output failure))

/-- Flushes the output. -/
def flush (out : Device (Buffered τ)) : Act τ Unit := do
  let session ← get
  let (result, buffer) := out.flush session.out
  set { session with out := buffer }
  match result with
  | .ok () => pure ()
  | .error failure => throw (.failed (.output failure))

/-- Opens the log file. -/
def openLog (path : Bytes) : Act τ Unit := do
  let session ← get
  let (result, stream, world) := session.stream.openFile World.outlets path session.world
  set { session with stream, world }
  match result with
  | .ok _ => modify fun session => session.record [.diagnosticsTo path]
  | .error chain => throw (.failed (.step ("Unable to open log file: " ++ Utf8.lossy path) chain))

/-- Attaches the interruption handler. -/
def attach : Act τ Unit := do
  let session ← get
  let ((result, events), trap) := (Trap.attach .willing Handler.requestAbort).run session.trap
  set ({ session with trap }.record events)
  match result with
  | .ok () => pure ()
  | .error chain => throw (.failed (.step "Unable to attach signal handler" chain))

/-- Opens the input file. -/
def openInput (setting : Setting τ) (handle : Info.Handle) (path : Bytes) :
    Act τ Info.Handle := do
  let session ← get
  let arrivals := (session.world.files.locate path).toOption.elim [] setting.arrivals
  let (killer, after) := session.interrupted arrivals
  set after
  if let some raw := killer then throw (.killed raw)
  let opened := session.world.files.openForReading path
  let (result, handle, events) := handle.openInput path opened session.abort after.abort
  set (after.record events)
  match result with
  | .ok () => pure handle
  | .error chain => throw (.failed (.step ("Unable to open: " ++ Utf8.lossy path) chain))

/-- Prints what is known of the input file. -/
def print (out : Device (Buffered τ)) (handle : Info.Handle) : Act τ Unit := do
  let session ← get
  let (result, buffer, stream, world) :=
    handle.print out World.outlets session.stream session.out session.world
  set { session with out := buffer, stream, world }
  match result with
  | .ok () => pure ()
  | .error chain => throw (.failed (.step "Unable to print file information" chain))

/-- Closes the input file. -/
def closeInput (handle : Info.Handle) : Act τ Unit := do
  let (result, _, events) := handle.closeInput
  modify fun session => session.record events
  match result with
  | .ok () => pure ()
  | .error chain => throw (.failed (.step "Unable to close info handle" chain))

/-- Sets up standard output. -/
def setUp (setting : Setting τ) : Act τ Unit := do
  let session ← get
  let (result, buffer) := Output.takeOver setting.stdout session.out.inner
  set { session with out := buffer }
  match result with
  | .ok () => pure ()
  | .error chain => throw (.failed (.step "Unable to set up standard output" chain))

/-- The buffering mode an invocation asks for. -/
def Invocation.mode (invocation : Invocation) : BufferingMode :=
  if invocation.unbuffered then .unbuffered else .lineBuffered

/-- Looks at the input file. -/
def inspect (setting : Setting τ) (invocation : Invocation) (source : Bytes) : Act τ Unit := do
  let out := Output.device invocation.mode setting.stdout
  if let some path := invocation.logFile then openLog path
  attach
  let handle ← openInput setting (.new invocation.codepage) source
  print out handle
  closeInput handle
  flush out

/-- All that a run does. -/
def act (setting : Setting τ) (invocation : Invocation) : Act τ Unit := do
  let out := Output.device invocation.mode setting.stdout
  setUp setting
  if invocation.version then
    banner out .detailed
    banner out .copyright
    flush out
  else
    banner out .version
    match invocation.source with
    | some source => inspect setting invocation source
    | none => throw (.failed .noSource)

/-! ### A run from its start to its end -/

/-- The state at the start of a run. -/
def Session.start (invocation : Invocation) (stdout : τ) (files : FileTree) : Session τ where
  out := Output.ofSink stdout
  stream := ⟨invocation.verbosity > 0, .standardError⟩
  world := .ofFiles files
  trap := .unset
  abort := {}

/-- Writes a line to standard error. -/
def Session.say (session : Session τ) (line : String) : Session τ :=
  { session with world := session.world.utter (.text (utf8 (line ++ "\n"))) }

/-- Says why a run failed. -/
def Session.report (session : Session τ) (fault : Fault) : Session τ :=
  let session := session.say fault.text
  match fault.chain? with
  | none => session
  | some chain =>
    let session :=
      match session.abort.signal with
      | some signal => if chain.isAbort then session.say ("Aborted by " ++ signal.name) else session
      | none => session
    let (result, stream, world) := session.stream.printBacktrace World.outlets chain session.world
    let session := { session with stream, world }
    match result with
    | .ok _ => session
    | .error reason => session.record [.backtraceFailed reason.brief]

/-- How a run ended. -/
structure Ending (τ : Type) where
  /-- Why it stopped before it was through, if it did. -/
  stop : Option Stop
  /-- The state of standard output. -/
  stdout : τ
  /-- The world around the tool. -/
  world : World

namespace Ending

variable {τ : Type}

/-- The status a run exits with: 0 if it succeeded and 1 if it failed; one that is killed has none. -/
def exitCode? (ending : Ending τ) : Option Nat :=
  match ending.stop with
  | none => some 0
  | some (.failed _) => some 1
  | some (.killed _) => none

/-- The code of the interruption that killed a run. -/
def killer? (ending : Ending τ) : Option Int32 :=
  match ending.stop with
  | some (.killed raw) => some raw
  | _ => none

end Ending

/-- The end of a run that is not killed: output is given up, the handler detached, a failure reported,
and the log file closed. -/
def Session.windUp (session : Session τ) (setting : Setting τ) (fault : Option Fault) : τ × World :=
  let stdout := BlockBuffer.release setting.stdout session.out
  let (events, trap) := (Trap.detach .willing).run session.trap
  let session := { session with trap }.record events
  let session := fault.elim session session.report
  let (_, _, world) := session.stream.close World.outlets session.world
  (stdout, world)

/-- A run: what the invocation asks for, and the end, unless the run is killed. -/
def run (setting : Setting τ) (invocation : Invocation) (stdout : τ) (files : FileTree) : Ending τ :=
  match (act setting invocation).run (Session.start invocation stdout files) with
  | (.error (.killed raw), session) => ⟨some (.killed raw), session.out.inner, session.world⟩
  | (.error (.failed fault), session) =>
    let (stdout, world) := session.windUp setting (some fault)
    ⟨some (.failed fault), stdout, world⟩
  | (.ok (), session) =>
    let (stdout, world) := session.windUp setting none
    ⟨none, stdout, world⟩

/-- What appears on standard error in a run, of the developer log only what a filter shows. -/
def Ending.stderr (ending : Ending τ) (filter : LogFilter) : Bytes :=
  filter.preamble ++ ending.world.utterances.flatMap fun
    | .text bytes => bytes
    | .event event => if filter.shows event then utf8 (LogFilter.line event) else []

/-- A run as a process: its standard output holds back unfinished lines in front of the device it
writes to, and passes them on when the process ends, unless it is killed. -/
def launch (device : Device τ) (arrivals : Route → List Int32) (invocation : Invocation) (stdout : τ)
    (files : FileTree) : Ending τ :=
  let ending := run ⟨LineBuffer.device Output.lineCapacity device, arrivals⟩ invocation
    (Output.ofSink stdout) files
  let stdout :=
    if ending.killer?.isSome then ending.stdout.inner else BlockBuffer.release device ending.stdout
  { ending with stdout }

end PrefetchInfo.CommandLine
