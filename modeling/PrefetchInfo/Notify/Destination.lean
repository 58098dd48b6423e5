import PrefetchInfo.Device.BlockBuffer
import PrefetchInfo.Event
import PrefetchInfo.Text.Quoted

/-!
# Destinations of diagnostics

Diagnostics go to one destination at a time: standard error, a writer that the caller lent, or a file
the stream opened itself and therefore owns. `Outlets` collects what a stream needs of the world
around it to reach its destinations.
-/

namespace PrefetchInfo.Notify

/-- What a notify stream reaches through the state `σ` of the world around it: files of the type
`φ`, lent writers of the type `ω`, standard error and the developer log. -/
structure Outlets (σ φ ω : Type) where
  /-- Opens a path for appending. -/
  openFile : Bytes → σ → Except Failure φ × σ
  /-- An opened file as a device. -/
  file : φ → Device σ
  /-- Whether a lent writer can be used. -/
  ready : ω → σ → Except Failure Unit
  /-- A lent writer as a device. -/
  writer : ω → Device σ
  /-- Standard error as a device. -/
  standardError : Device σ
  /-- Tells developers of an event. -/
  record : Event → σ → σ

/-- Where diagnostics go. -/
inductive Destination (φ ω : Type) where
  /-- To standard error. -/
  | standardError
  /-- To a writer lent by the caller. -/
  | external (writer : ω)
  /-- To a file opened under `path`; `pending` has not reached it yet. -/
  | owned (path : Bytes) (file : φ) (pending : Bytes)
  deriving DecidableEq, Repr

/-- The kinds of destinations. -/
inductive DestinationKind where
  | standardError | external | owned
  deriving DecidableEq, Repr

/-- The name of a kind of destination. -/
def DestinationKind.name : DestinationKind → String
  | standardError => "Default"
  | external => "External"
  | owned => "Owned"

namespace Destination

variable {φ ω : Type}

/-- The kind of a destination. -/
def kind : Destination φ ω → DestinationKind
  | standardError => .standardError
  | external _ => .external
  | owned _ _ _ => .owned

/-- The path of an owned file. -/
def path? : Destination φ ω → Option Bytes
  | owned path _ _ => some path
  | _ => none

/-- The bytes that have not reached the destination yet. -/
def pending : Destination φ ω → Bytes
  | owned _ _ pending => pending
  | _ => []

end Destination

/-- The capacity of the buffer in front of an owned file. -/
def bufferCapacity : Nat := 8192

end PrefetchInfo.Notify
