/-!
# Allocation statistics

How much memory was allocated, how much of it is in use, and how much was at most. The counters are
words of the machine; a block that grows or shrinks counts as given back and allocated anew.
-/

namespace PrefetchInfo.Allocation

/-- The counters of an allocator. -/
structure Statistics where
  /-- How many blocks were allocated. -/
  allocations : UInt64 := 0
  /-- How many blocks were given back. -/
  deallocations : UInt64 := 0
  /-- How many bytes are allocated now. -/
  bytesInUse : UInt64 := 0
  /-- The most bytes that were allocated at any time. -/
  peakBytes : UInt64 := 0
  deriving DecidableEq, Repr

namespace Statistics

/-- Counts a block that was allocated. -/
def allocated (statistics : Statistics) (size : UInt64) : Statistics :=
  let inUse := statistics.bytesInUse + size
  { statistics with
    allocations := statistics.allocations + 1
    bytesInUse := inUse
    peakBytes := max statistics.peakBytes inUse }

/-- Counts a block that was given back. -/
def deallocated (statistics : Statistics) (size : UInt64) : Statistics :=
  { statistics with
    deallocations := statistics.deallocations + 1
    bytesInUse := statistics.bytesInUse - size }

/-- The pieces of the statistics as text. -/
def pieces (statistics : Statistics) : List String :=
  ["allocations: ", Nat.repr statistics.allocations.toNat,
   ", deallocations: ", Nat.repr statistics.deallocations.toNat,
   ", bytes in use: ", Nat.repr statistics.bytesInUse.toNat,
   ", peak bytes: ", Nat.repr statistics.peakBytes.toNat]

/-- The statistics as text. -/
def text (statistics : Statistics) : String :=
  String.join statistics.pieces

end Statistics

end PrefetchInfo.Allocation
