import PrefetchInfo.Signature.Basic
import PrefetchInfo.System.Failure
import PrefetchInfo.Text.Utf8

/-!
# Events of the developer log

While they run, the services tell developers what happens. An event has a level, belongs to an area
and says a text; areas are nested, an inner one named after the outer with `::` between.
-/

namespace PrefetchInfo

/-- The weight of an event, the heaviest first. -/
inductive Level where
  | error | warn | info | debug | trace
  deriving DecidableEq, Repr

namespace Level

/-- The name of a level in the log. -/
def name : Level → String
  | error => "ERROR"
  | warn => "WARN"
  | info => "INFO"
  | debug => "DEBUG"
  | trace => "TRACE"

/-- How much detail a level stands for. -/
def detail : Level → Nat
  | error => 1
  | warn => 2
  | info => 3
  | debug => 4
  | trace => 5

end Level

/-- What can be told to developers. -/
inductive Event where
  /-- Diagnostics now go to a writer lent by the caller. -/
  | redirected
  /-- Diagnostics now go to standard error. -/
  | reset
  /-- Diagnostics now go to the file `path`. -/
  | opened (path : Bytes)
  /-- No diagnostics file was open when it was to be closed. -/
  | nothingToClose
  /-- Closing the diagnostics file `path` failed to pass on what was pending. -/
  | flushFailed (path : Bytes) (failure : Failure)
  /-- The diagnostics file `path` was closed. -/
  | closed (path : Bytes)
  /-- Giving up the diagnostics stream failed to pass on what was pending. -/
  | teardownFailed (failure : Failure)
  /-- The process now traps interruptions. -/
  | trapRegistered
  /-- Another handler took the place of the one before. -/
  | handlerReplaced
  /-- The process no longer traps interruptions. -/
  | trapRemoved
  /-- The process could not be kept from trapping interruptions. -/
  | trapRemovalFailed (failure : Failure)
  /-- A source ended within the header. -/
  | shortHeader
  /-- The input file `path` was opened and found to be of the type `fileType`. -/
  | inputOpened (path : Bytes) (fileType : FileType)
  /-- The input file `path` was closed. -/
  | inputClosed (path : Bytes)
  /-- The tool writes its diagnostics to `path`. -/
  | diagnosticsTo (path : Bytes)
  /-- The backtrace of a failure could not be written; `reason` says why. -/
  | backtraceFailed (reason : String)
  deriving DecidableEq, Repr

namespace Event

/-- The level of an event. -/
def level : Event → Level
  | nothingToClose | shortHeader => .trace
  | flushFailed _ _ | teardownFailed _ | trapRemovalFailed _ | backtraceFailed _ => .warn
  | _ => .debug

/-- The area an event belongs to. -/
def area : Event → String
  | redirected | reset | opened _ | nothingToClose | flushFailed _ _ | closed _
  | teardownFailed _ => "scca_core::notify"
  | trapRegistered | handlerReplaced | trapRemoved | trapRemovalFailed _ => "scca_core::signal"
  | shortHeader => "scca_core::signature"
  | inputOpened _ _ | inputClosed _ => "sccainfo::info_handle"
  | diagnosticsTo _ | backtraceFailed _ => "sccainfo"

/-- What an event says. -/
def message : Event → String
  | redirected => "notify stream redirected to external writer"
  | reset => "notify stream reset to standard error"
  | opened path => "notify stream opened: " ++ Utf8.lossy path
  | nothingToClose => "no notify stream to close"
  | flushFailed path failure =>
    "unable to flush notify stream " ++ Utf8.lossy path ++ ": " ++ failure.text
  | closed path => "notify stream closed: " ++ Utf8.lossy path
  | teardownFailed failure => "unable to flush notify stream on teardown: " ++ failure.text
  | trapRegistered => "interruption trap registered"
  | handlerReplaced => "interruption handler replaced"
  | trapRemoved => "interruption trap removed"
  | trapRemovalFailed failure => "unable to remove interruption trap: " ++ failure.text
  | shortHeader => "input too short for a file header"
  | inputOpened _ _ => "input file opened"
  | inputClosed _ => "input file closed"
  | diagnosticsTo path => "diagnostic output written to " ++ Utf8.lossy path
  | backtraceFailed reason => "unable to print error backtrace: " ++ reason

/-- The named values an event carries. -/
def fields : Event → List (String × String)
  | inputOpened path fileType => [("path", Utf8.lossy path), ("file_type", fileType.name)]
  | inputClosed path => [("path", Utf8.lossy path)]
  | _ => []

/-- An event as a line of the log without its level: its message followed by its fields. -/
def text (event : Event) : String :=
  event.message ++ String.join (event.fields.map fun (name, value) => " " ++ name ++ "=" ++ value)

end Event

end PrefetchInfo
