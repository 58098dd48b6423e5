import PrefetchInfo.Allocation.Statistics

/-!
# Blocks of memory

The blocks that are allocated, each known by a number, beside the counters that follow them. The
system may refuse to allocate a block or to change its size; then nothing is counted.
-/

namespace PrefetchInfo.Allocation

/-- The blocks of memory in use and the counters of the allocator. -/
structure Heap where
  /-- The blocks in use, each with its size. -/
  blocks : List (Nat × UInt64) := []
  /-- The counters. -/
  statistics : Statistics := {}
  deriving Repr

namespace Heap

/-- The blocks without the one of a given number. -/
def without (heap : Heap) (block : Nat) : List (Nat × UInt64) :=
  heap.blocks.filter (·.1 ≠ block)

/-- Allocates a block if the system grants it. -/
def allocate (heap : Heap) (granted : Bool) (block : Nat) (size : UInt64) : Heap :=
  if granted then
    ⟨(block, size) :: heap.without block, heap.statistics.allocated size⟩
  else heap

/-- Gives a block back. -/
def release (heap : Heap) (block : Nat) : Heap :=
  match heap.blocks.lookup block with
  | some size => ⟨heap.without block, heap.statistics.deallocated size⟩
  | none => heap

/-- Changes the size of a block if the system grants it. -/
def resize (heap : Heap) (granted : Bool) (block : Nat) (size : UInt64) : Heap :=
  match heap.blocks.lookup block with
  | some old =>
    if granted then
      ⟨(block, size) :: heap.without block, (heap.statistics.deallocated old).allocated size⟩
    else heap
  | none => heap

end Heap

end PrefetchInfo.Allocation
