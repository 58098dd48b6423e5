import PrefetchInfo.Interrupt.Trap
import PrefetchInfo.Notify.Stream

/-!
# Status codes

The services once more in the convention of tools that report with numbers: a call returns a status,
and tells why it failed by adding to the chain in a slot the caller provides. A slot only ever grows
at its newest end, and stays as it is when a call succeeds.
-/

namespace PrefetchInfo.Status

/-- The status of a call that succeeded. -/
def success : Int := 1

/-- The status of a call that failed. -/
def failure : Int := -1

/-- The slot after a failure: the chain that was there, the records of the new chain, and a summary of
the new chain's kind. -/
def fail (slot : Option ErrorChain) (chain : ErrorChain) (summary : String) : Option ErrorChain :=
  let merged :=
    match slot with
    | some existing =>
      chain.records.foldl
        (fun (merged : ErrorChain) (record : ErrorRecord) =>
          merged.append record.kind record.message) existing
    | none => chain
  some (merged.append chain.kind summary)

/-! ### Printing the error in a slot -/

variable {σ : Type}

/-- The greatest number that a status can tell. -/
def greatest : Nat := 0x7fffffffffffffff

/-- The number of bytes written, as far as a status can tell it, or the status of failure. -/
def byteCount : Except Failure Nat → Int
  | .ok count => min count greatest
  | .error _ => failure

/-- Writes the latest record of a slot as a line, if there is one and a device to write it to. -/
def errorPrint (slot : Option ErrorChain) (device : Option (Device σ)) (s : σ) : Int × σ :=
  match slot, device with
  | some chain, some device =>
    let (result, s) := chain.writeLatest device s
    (byteCount result, s)
  | _, _ => (0, s)

/-- Writes all records of a slot, the most recent first, if there are any and a device to write them
to. -/
def backtracePrint (slot : Option ErrorChain) (device : Option (Device σ)) (s : σ) : Int × σ :=
  match slot, device with
  | some chain, some device =>
    let (result, s) := chain.writeBacktrace device s
    (byteCount result, s)
  | _, _ => (0, s)

/-- Copies the latest record of a slot into a buffer, if there are both. -/
def errorFormat (slot : Option ErrorChain) (buffer : Option Bytes) : Nat × Option Bytes :=
  match slot, buffer with
  | some chain, some buffer =>
    let (length, buffer) := chain.formatLatest buffer
    (length, some buffer)
  | _, buffer => (0, buffer)

/-- Copies all records of a slot, the most recent first, into a buffer, if there are both. -/
def backtraceFormat (slot : Option ErrorChain) (buffer : Option Bytes) : Nat × Option Bytes :=
  match slot, buffer with
  | some chain, some buffer =>
    let (length, buffer) := chain.formatBacktrace buffer
    (length, some buffer)
  | _, buffer => (0, buffer)

/-! ### The notify stream -/

open Notify

variable {φ ω : Type}

/-- What a call on a notify stream leaves: its status, the stream, the slot and the world. -/
structure NotifyResult (σ φ ω : Type) where
  /-- The status of the call. -/
  status : Int
  /-- The stream after the call. -/
  stream : NotifyStream φ ω
  /-- The slot after the call. -/
  slot : Option ErrorChain
  /-- The world after the call. -/
  world : σ

/-- Redirects diagnostics to a lent writer, or back to standard error. -/
def notifySetStream (outlets : Outlets σ φ ω) (stream : NotifyStream φ ω) (writer : Option ω)
    (slot : Option ErrorChain) (s : σ) : NotifyResult σ φ ω :=
  match stream.setStream outlets writer s with
  | (.ok (), stream, s) => ⟨success, stream, slot, s⟩
  | (.error chain, stream, s) =>
    ⟨failure, stream, fail slot chain "unable to set notify stream", s⟩

/-- Opens a file for diagnostics; a missing path is an error of its own. -/
def notifyOpen (outlets : Outlets σ φ ω) (stream : NotifyStream φ ω) (path : Option Bytes)
    (slot : Option ErrorChain) (s : σ) : NotifyResult σ φ ω :=
  match path with
  | none =>
    ⟨failure, stream,
      ErrorChain.set slot (.argument .invalidValue) "invalid notify stream filename", s⟩
  | some path =>
    match stream.openFile outlets path s with
    | (.ok status, stream, s) => ⟨status.code, stream, slot, s⟩
    | (.error chain, stream, s) =>
      ⟨failure, stream, fail slot chain "unable to open notify stream", s⟩

/-- Closes the file for diagnostics, which never fails. -/
def notifyClose (outlets : Outlets σ φ ω) (stream : NotifyStream φ ω) (slot : Option ErrorChain)
    (s : σ) : NotifyResult σ φ ω :=
  let (status, stream, s) := stream.close outlets s
  ⟨status.code, stream, slot, s⟩

/-! ### The interruption trap -/

variable {η : Type}

/-- What a call on the trap returns: its status, the slot, and what developers are told. -/
structure SignalResult where
  /-- The status of the call. -/
  status : Int
  /-- The slot after the call. -/
  slot : Option ErrorChain
  /-- What developers are told. -/
  events : List Event

/-- Attaches an interruption handler; a missing handler is an error of its own. -/
def signalAttach [DecidableEq η] (platform : Platform) (handler : Option η)
    (slot : Option ErrorChain) : Routine (Trap η) SignalResult :=
  match handler with
  | none =>
    pure ⟨failure, ErrorChain.set slot (.argument .invalidValue) "invalid signal handler", []⟩
  | some handler => do
    match ← Trap.attach platform handler with
    | (.ok (), events) => pure ⟨success, slot, events⟩
    | (.error chain, events) =>
      pure ⟨failure, fail slot chain "unable to attach signal handler", events⟩

/-- Detaches the interruption handler, which never fails. -/
def signalDetach (platform : Platform) (slot : Option ErrorChain) :
    Routine (Trap η) SignalResult := do
  let events ← Trap.detach platform
  pure ⟨success, slot, events⟩

end PrefetchInfo.Status
