import PrefetchInfo.Error.Chain
import PrefetchInfo.Device.Basic

/-!
# Reporting a chain

A chain is reported line by line: its latest record alone, or all records from the most recent to the
root cause. The lines are written to a device, or copied into a buffer of fixed size, where what does
not fit is cut off; either way the report says how long it is in full.
-/

namespace PrefetchInfo.ErrorChain

/-- The messages of some records, one line each. -/
def lines (records : List ErrorRecord) : String :=
  String.join (records.map fun record => record.message ++ "\n")

/-- The latest record of a chain as a line. -/
def latestLine (chain : ErrorChain) : String :=
  lines [chain.latest]

/-- All records of a chain, the most recent first, one line each. -/
def backtraceLines (chain : ErrorChain) : String :=
  lines chain.newestFirst

variable {σ : Type}

/-- Writes a text to a device and reports its length in bytes. -/
def deliver (device : Device σ) (text : String) (s : σ) : Except Failure Nat × σ :=
  match device.writeAll (utf8 text) s with
  | (.ok (), s) => (.ok (utf8 text).length, s)
  | (.error failure, s) => (.error failure, s)

/-- Writes the latest record as a line. -/
def writeLatest (chain : ErrorChain) (device : Device σ) (s : σ) : Except Failure Nat × σ :=
  deliver device chain.latestLine s

/-- Writes all records, the most recent first, one line each. -/
def writeBacktrace (chain : ErrorChain) (device : Device σ) (s : σ) : Except Failure Nat × σ :=
  deliver device chain.backtraceLines s

/-- Copies the front of a text over the front of a buffer, as far as either goes, and reports the
length of the whole text in bytes. -/
def copyInto (text : String) (buffer : Bytes) : Nat × Bytes :=
  let bytes := utf8 text
  (bytes.length, bytes.take buffer.length ++ buffer.drop bytes.length)

/-- Copies the latest record as a line into a buffer. -/
def formatLatest (chain : ErrorChain) (buffer : Bytes) : Nat × Bytes :=
  copyInto chain.latestLine buffer

/-- Copies all records, the most recent first, one line each, into a buffer. -/
def formatBacktrace (chain : ErrorChain) (buffer : Bytes) : Nat × Bytes :=
  copyInto chain.backtraceLines buffer

end PrefetchInfo.ErrorChain
