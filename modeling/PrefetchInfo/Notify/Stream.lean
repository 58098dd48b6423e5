import PrefetchInfo.Error.Report
import PrefetchInfo.HexDump
import PrefetchInfo.Notify.Destination

/-!
# The notify stream

A notify stream is the channel for diagnostics meant for the user: free text, hex dumps and error
backtraces. Nothing is written while it is not verbose. Its destination can be changed at any time;
an owned file is flushed before it is replaced, and if that fails the stream stays as it is.
-/

namespace PrefetchInfo

/-- A notify stream. -/
structure NotifyStream (φ ω : Type) where
  /-- Whether anything is written at all. -/
  verbose : Bool
  /-- Where it is written. -/
  destination : Notify.Destination φ ω
  deriving DecidableEq, Repr

namespace NotifyStream

open Notify

/-- What is left of an owned file by opening or closing it. -/
inductive Status where
  /-- A file was opened and is the destination now. -/
  | opened
  /-- No file is owned any more. -/
  | closed
  deriving DecidableEq, Repr

/-- The number a status is reported as. -/
def Status.code : Status → Int
  | opened => 1
  | closed => 0

variable {σ φ ω : Type}

/-- The silent stream to standard error. -/
def silent : NotifyStream φ ω :=
  ⟨false, .standardError⟩

/-- A stream as it is shown to developers. -/
def describe (stream : NotifyStream φ ω) : String :=
  let path :=
    match stream.destination.path? with
    | some path => "Some(" ++ Text.quoted path ++ ")"
    | none => "None"
  "NotifyStream \x7b verbose: " ++ (if stream.verbose then "true" else "false") ++
    ", destination: " ++ stream.destination.kind.name ++ ", path: " ++ path ++ " \x7d"

/-- Turns diagnostics on or off. -/
def setVerbose (stream : NotifyStream φ ω) (verbose : Bool) : NotifyStream φ ω :=
  { stream with verbose }

/-! ### Changing the destination -/

/-- Flushes the owned file, if there is one. -/
def flushOwned (outlets : Outlets σ φ ω) (stream : NotifyStream φ ω) (s : σ) :
    Except Failure Unit × NotifyStream φ ω × σ :=
  match stream.destination with
  | .owned path file pending =>
    let (result, b) := BlockBuffer.flush (outlets.file file) ⟨pending, s⟩
    (result, { stream with destination := .owned path file b.pending }, b.inner)
  | _ => (.ok (), stream, s)

/-- Puts a destination in place of the one before, after flushing an owned file. -/
def replace (outlets : Outlets σ φ ω) (stream : NotifyStream φ ω) (destination : Destination φ ω)
    (event : Event) (s : σ) : Except ErrorChain Unit × NotifyStream φ ω × σ :=
  match stream.flushOwned outlets s with
  | (.error failure, stream, s) =>
    (context (.error failure) (.inOut .closeFailed) "unable to close notify stream", stream, s)
  | (.ok (), stream, s) => (.ok (), { stream with destination }, outlets.record event s)

/-- Redirects diagnostics to a lent writer, or back to standard error. -/
def setStream (outlets : Outlets σ φ ω) (stream : NotifyStream φ ω) (writer : Option ω) (s : σ) :
    Except ErrorChain Unit × NotifyStream φ ω × σ :=
  match writer with
  | some writer => stream.replace outlets (.external writer) .redirected s
  | none => stream.replace outlets .standardError .reset s

/-- Opens a file for appending and makes it the destination; the file owned before is flushed once
the new one is open. -/
def openFile (outlets : Outlets σ φ ω) (stream : NotifyStream φ ω) (path : Bytes) (s : σ) :
    Except ErrorChain Status × NotifyStream φ ω × σ :=
  if path = [] then
    (.error (.single (.argument .invalidValue) "invalid notify stream filename"), stream, s)
  else
    match outlets.openFile path s with
    | (.error failure, s) =>
      (context (.error failure) (.inOut .openFailed)
        ("unable to open notify stream: " ++ Utf8.lossy path), stream, s)
    | (.ok file, s) =>
      match stream.replace outlets (.owned path file []) (.opened path) s with
      | (.error chain, stream, s) => (.error chain, stream, s)
      | (.ok (), stream, s) => (.ok .opened, stream, s)

/-- Gives up an owned file, if there is one, and falls back to standard error. Bytes the file does
not take are lost; developers are told. -/
def close (outlets : Outlets σ φ ω) (stream : NotifyStream φ ω) (s : σ) :
    Status × NotifyStream φ ω × σ :=
  match stream.destination with
  | .owned path file pending =>
    let (result, b) := BlockBuffer.flush (outlets.file file) ⟨pending, s⟩
    let s :=
      match result with
      | .ok () => b.inner
      | .error failure => outlets.record (.flushFailed path failure) b.inner
    let s := outlets.record (.closed path) s
    (.closed, { stream with destination := .standardError },
      BlockBuffer.release (outlets.file file) ⟨b.pending, s⟩)
  | _ => (.closed, stream, outlets.record .nothingToClose s)

/-- The end of a stream: an owned file is flushed, and bytes it does not take are lost. -/
def giveUp (outlets : Outlets σ φ ω) (stream : NotifyStream φ ω) (s : σ) : σ :=
  match stream.destination with
  | .owned _ file pending =>
    let (result, b) := BlockBuffer.flush (outlets.file file) ⟨pending, s⟩
    let s :=
      match result with
      | .ok () => b.inner
      | .error failure => outlets.record (.teardownFailed failure) b.inner
    BlockBuffer.release (outlets.file file) ⟨b.pending, s⟩
  | _ => s

/-! ### Writing diagnostics -/

/-- Writes bytes to the destination. -/
def deliver (outlets : Outlets σ φ ω) (stream : NotifyStream φ ω) (data : Bytes) (s : σ) :
    Except Failure Unit × NotifyStream φ ω × σ :=
  match stream.destination with
  | .standardError =>
    let (result, s) := outlets.standardError.writeAll data s
    (result, stream, s)
  | .external writer =>
    match outlets.ready writer s with
    | .error failure => (.error failure, stream, s)
    | .ok () =>
      let (result, s) := (outlets.writer writer).writeAll data s
      (result, stream, s)
  | .owned path file pending =>
    let (result, b) := BlockBuffer.writeAll bufferCapacity (outlets.file file) data ⟨pending, s⟩
    (result, { stream with destination := .owned path file b.pending }, b.inner)

/-- Writes a text if the stream is verbose, and reports how many bytes it wrote. -/
def emit (outlets : Outlets σ φ ω) (stream : NotifyStream φ ω) (text : String) (s : σ) :
    Except ErrorChain Nat × NotifyStream φ ω × σ :=
  if stream.verbose then
    let (result, stream, s) := stream.deliver outlets (utf8 text) s
    (context (result.map fun () => (utf8 text).length) (.inOut .writeFailed)
      "unable to write to notify stream", stream, s)
  else (.ok 0, stream, s)

/-- Writes a hex dump of some bytes. -/
def printData (outlets : Outlets σ φ ω) (stream : NotifyStream φ ω) (data : Bytes) (s : σ) :
    Except ErrorChain Nat × NotifyStream φ ω × σ :=
  stream.emit outlets (HexDump.text data) s

/-- Writes all records of a chain, the most recent first, one line each. -/
def printBacktrace (outlets : Outlets σ φ ω) (stream : NotifyStream φ ω) (chain : ErrorChain)
    (s : σ) : Except ErrorChain Nat × NotifyStream φ ω × σ :=
  stream.emit outlets chain.backtraceLines s

end NotifyStream

end PrefetchInfo
