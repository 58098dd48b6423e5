import PrefetchInfo.Device.Basic

/-!
# Sinks of limited capacity

A `Sink` keeps what it accepts. It may accept only so many bytes in one write, have room for only so
many in all, refuse what does not fit with a failure or by taking nothing, be interrupted a number of
times, and fail to flush. A failure that is an interruption is met as one.
-/

namespace PrefetchInfo

/-- A sink: how it behaves, and what it has accepted. -/
structure Sink where
  /-- The most it accepts in one write, if there is a bound. -/
  chunk : Option Nat := none
  /-- The most it accepts in all, if there is a bound. -/
  limit : Option Nat := none
  /-- How it refuses once it is full; without a failure it takes nothing. -/
  refusal : Option Failure := none
  /-- How many of the next writes are interrupted. -/
  interrupts : Nat := 0
  /-- How flushing fails, if it does. -/
  flushFailure : Option Failure := none
  /-- How many of the next flushes are interrupted. -/
  flushInterrupts : Nat := 0
  /-- What it has accepted so far. -/
  accepted : Bytes := []
  /-- How often it has been flushed, also without success. -/
  flushes : Nat := 0
  deriving Repr

namespace Sink

/-- How many more bytes a sink has room for, if there is a bound. -/
def room (sink : Sink) : Option Nat :=
  sink.limit.map (· - sink.accepted.length)

/-- How many of `count` bytes a sink accepts in one write. -/
def portion (sink : Sink) (count : Nat) : Nat :=
  let count := min count (sink.chunk.getD count)
  min count (sink.room.getD count)

/-- Offers bytes to a sink. -/
def write (data : Bytes) (sink : Sink) : Except Failure Nat × Sink :=
  if sink.interrupts ≠ 0 then
    (.error .interruption, { sink with interrupts := sink.interrupts - 1 })
  else
    match sink.refusal with
    | some failure =>
      if sink.room = some 0 ∧ data ≠ [] then (.error failure, sink)
      else (.ok (sink.portion data.length),
        { sink with accepted := sink.accepted ++ data.take (sink.portion data.length) })
    | none =>
      (.ok (sink.portion data.length),
        { sink with accepted := sink.accepted ++ data.take (sink.portion data.length) })

/-- Flushes a sink. -/
def flush (sink : Sink) : Except Failure Unit × Sink :=
  let flushed := { sink with flushes := sink.flushes + 1 }
  if sink.flushInterrupts ≠ 0 then
    (.error .interruption, { flushed with flushInterrupts := sink.flushInterrupts - 1 })
  else
    match sink.flushFailure with
    | some failure => (.error failure, flushed)
    | none => (.ok (), flushed)

/-- How often a sink can still be interrupted: as often as it is going to be, and then, if it is
interrupted at every flush, until it has no more room. -/
def patience (sink : Sink) : Nat :=
  sink.interrupts + sink.flushInterrupts + sink.room.getD 0

theorem portion_le (sink : Sink) (count : Nat) : sink.portion count ≤ count := by
  simp only [portion]; omega

/-- Sinks as devices. -/
def device : Device Sink where
  write := write
  flush := flush
  patience := patience
  taken_le := by
    intro data s n s' h
    have := portion_le s data.length
    grind [write]

end Sink

end PrefetchInfo
