import PrefetchInfo.Text.Bytes
import PrefetchInfo.System.Failure

/-!
# Sources that bytes are read from

A source delivers its bytes in portions of its own choosing. Between them reading may be interrupted
or fail, and the source may end. `Source.take` reads a wanted number of bytes whatever the portions.
-/

namespace PrefetchInfo

/-- What a single read of a source meets. -/
inductive Delivery where
  /-- These bytes, or the end of the source if there are none. -/
  | data (bytes : Bytes)
  /-- A failure; one of the kind `interrupted` is tried again. -/
  | failure (failure : Failure)
  deriving DecidableEq, Repr

/-- Something bytes are read from. -/
inductive Source where
  /-- These deliveries one after the other, and then the end. -/
  | script (deliveries : List Delivery)
  /-- The same byte for ever. -/
  | endless (byte : UInt8)
  deriving DecidableEq, Repr

/-- How reading a wanted number of bytes ends. -/
inductive Reading.Ending where
  /-- All bytes were delivered. -/
  | complete
  /-- The source ended before that. -/
  | ended
  /-- Reading failed before that. -/
  | failed (failure : Failure)
  deriving DecidableEq, Repr

/-- What was read of a source. -/
structure Reading where
  /-- The bytes that were delivered. -/
  bytes : Bytes
  /-- How reading ended. -/
  ending : Reading.Ending
  deriving DecidableEq, Repr

namespace Source

/-- Reads `count` bytes from a script of deliveries. -/
def takeScript (count : Nat) (deliveries : List Delivery) : Reading :=
  if count = 0 then ⟨[], .complete⟩ else
  match deliveries with
  | [] => ⟨[], .ended⟩
  | .data bytes :: rest =>
    if bytes = [] then ⟨[], .ended⟩
    else
      let reading := takeScript (count - bytes.length) rest
      { reading with bytes := bytes.take count ++ reading.bytes }
  | .failure failure :: rest =>
    if failure.kind = .interrupted then takeScript count rest else ⟨[], .failed failure⟩

/-- Reads `count` bytes from a source. -/
def take (count : Nat) : Source → Reading
  | script deliveries => takeScript count deliveries
  | endless byte => ⟨List.replicate count byte, .complete⟩

/-- All that a script of deliveries holds up to its end, if no failure stands in the way. -/
def allOfScript : List Delivery → Option Bytes
  | [] => some []
  | .data bytes :: rest => if bytes = [] then some [] else (allOfScript rest).map (bytes ++ ·)
  | .failure failure :: rest => if failure.kind = .interrupted then allOfScript rest else none

/-- All that a source holds, if it ends and can be read that far. -/
def all? : Source → Option Bytes
  | script deliveries => allOfScript deliveries
  | endless _ => none

/-- The source that holds the given bytes and can be read without interruption. -/
def ofBytes (bytes : Bytes) : Source :=
  script [.data bytes]

/-- The source that cannot be read. -/
def ofFailure (failure : Failure) : Source :=
  script [.failure failure]

end Source

end PrefetchInfo
