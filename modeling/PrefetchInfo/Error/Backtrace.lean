import PrefetchInfo.Error.Chain

/-!
# Walking a chain back to its root cause

A `Backtrace` walks over the records of a chain from the most recent to the root cause. It counts
the records it still has to visit and finds each of them by its place in the chain; past the root
cause it stays at the end.
-/

namespace PrefetchInfo

/-- A walk over the records of a chain, the most recent first. -/
structure Backtrace where
  /-- The records of the chain, the root cause first. -/
  records : List ErrorRecord
  /-- How many of them, counted from the root cause, are still to be visited. -/
  left : Nat
  left_le : left ≤ records.length := by omega

namespace Backtrace

/-- The walk that has visited nothing yet. -/
def start (chain : ErrorChain) : Backtrace :=
  ⟨chain.records, chain.records.length, Nat.le_refl _⟩

/-- The walk after `count` more records, or at its end if fewer are left. -/
def skip (walk : Backtrace) (count : Nat) : Backtrace :=
  ⟨walk.records, walk.left - count, Nat.le_trans (Nat.sub_le _ _) walk.left_le⟩

/-- The record that follows after skipping `n`, if there is one, and the walk that goes on behind
it. -/
def nth (walk : Backtrace) (n : Nat) : Option ErrorRecord × Backtrace :=
  (if n < walk.left then walk.records[walk.left - 1 - n]? else none, walk.skip (n + 1))

/-- The next record, and the walk that goes on behind it. -/
def next (walk : Backtrace) : Option ErrorRecord × Backtrace :=
  walk.nth 0

/-- The number of records still to be visited. -/
def length (walk : Backtrace) : Nat :=
  walk.left

/-- The least and the greatest number of records that may still be visited. -/
def sizeHint (walk : Backtrace) : Nat × Option Nat :=
  (walk.left, some walk.left)

/-- All records still to be visited, in the order of the walk, and the walk at its end. -/
def rest (walk : Backtrace) : List ErrorRecord × Backtrace :=
  if _ : 0 < walk.left then
    (walk.next.1.toList ++ walk.next.2.rest.1, walk.next.2.rest.2)
  else ([], walk)
termination_by walk.left
decreasing_by all_goals simp only [next, nth, skip]; omega

end Backtrace

end PrefetchInfo
