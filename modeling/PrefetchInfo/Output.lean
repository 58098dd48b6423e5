import PrefetchInfo.Device.LineBuffer
import PrefetchInfo.Device.Part
import PrefetchInfo.Error.Chain

/-!
# Tool output

The output of a tool goes to a sink in one of three buffering modes, fixed when the output is set up.
A mode makes a device of its own out of the device that writes to the sink; what the mode holds back
is the pending part of a buffer in front of the sink, which the unbuffered mode leaves empty.
-/

namespace PrefetchInfo

/-- How tool output is buffered. -/
inductive BufferingMode where
  /-- Every write reaches the sink at once and is flushed. -/
  | unbuffered
  /-- Finished lines reach the sink at once. -/
  | lineBuffered
  /-- Output reaches the sink when the buffer is full or flushed. -/
  | fullyBuffered
  deriving DecidableEq, Repr

instance : Inhabited BufferingMode := ⟨.lineBuffered⟩

namespace Output

variable {σ : Type}

/-- The capacity of a line buffer. -/
def lineCapacity : Nat := 1024

/-- The capacity of a block buffer. -/
def blockCapacity : Nat := 8192

/-- A write straight to the sink, which is flushed after it; the write counts as done only if the
flush is. -/
def writeThrough (device : Device σ) (data : Bytes) (s : σ) : Except Failure Nat × σ :=
  match device.write data s with
  | (.error failure, s) => (.error failure, s)
  | (.ok count, s) =>
    match device.flush s with
    | (.ok (), s) => (.ok count, s)
    | (.error failure, s) => (.error failure, s)

/-- A device that is flushed after every write. -/
def through (device : Device σ) : Device σ where
  write := writeThrough device
  flush := device.flush
  patience := device.patience
  taken_le := by
    intro data s n s' h
    rcases hw : device.write data s with ⟨_ | _, t⟩
    · simp [writeThrough, hw] at h
    · rcases hf : device.flush t with ⟨_ | _, u⟩ <;> simp [writeThrough, hw, hf] at h
      exact h.1 ▸ device.taken_le hw

/-- What stands behind a buffer, as a part of the buffered state. -/
def behind : Part (Buffered σ) σ where
  get := Buffered.inner
  set s b := { b with inner := s }
  get_set _ _ := rfl

/-- The device that writes to a sink in a buffering mode. -/
def device (mode : BufferingMode) (device : Device σ) : Device (Buffered σ) :=
  match mode with
  | .unbuffered => (through device).within behind
  | .lineBuffered => LineBuffer.device lineCapacity device
  | .fullyBuffered => BlockBuffer.device blockCapacity device

/-- Output to a sink, nothing held back yet. -/
def ofSink (sink : σ) : Buffered σ :=
  ⟨[], sink⟩

/-- Sets up output to a sink, after flushing what is queued there. -/
def takeOver (device : Device σ) (sink : σ) : Except ErrorChain Unit × Buffered σ :=
  let (result, sink) := device.flush sink
  (context result (.inOut .generic) "unable to set stream buffer", ofSink sink)

end Output

end PrefetchInfo
