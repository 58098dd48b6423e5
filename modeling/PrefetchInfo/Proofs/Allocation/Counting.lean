import Mathlib
import PrefetchInfo.Allocation.Heap
import PrefetchInfo.Proofs.Lookup

/-!
# Counting what is allocated

The counters are changed by what each call says and by whether the system grants it; nobody looks up
which blocks there are. As long as callers give back and resize only blocks in use, and tell their sizes
as they are, the counters agree with the blocks all the same: `Exact` holds of a heap after every call of
a valid trace.
-/

namespace PrefetchInfo.Allocation

variable {sizes : Nat → Option UInt64} {block : Nat} {size : UInt64}

/-! ### Calls -/

/-- A call to the allocator, and whether the system grants what it asks for. -/
inductive Call where
  /-- A block is asked for, filled with zeros or not. -/
  | allocate (zeroed granted : Bool) (block : Nat) (size : UInt64)
  /-- A block is given back, of a size that the caller tells. -/
  | release (block : Nat) (size : UInt64)
  /-- A block is to change its size from one that the caller tells. -/
  | resize (granted : Bool) (block : Nat) (old new : UInt64)
  deriving DecidableEq, Repr

namespace Call

/-- Whether the system refuses what a call asks for. -/
def isRefused : Call → Bool
  | allocate _ granted _ _ => !granted
  | release _ _ => false
  | resize granted _ _ _ => !granted

/-- The sizes of the blocks in use after a call, given those before it. -/
def sizesAfter (sizes : Nat → Option UInt64) : Call → Nat → Option UInt64
  | allocate _ granted block size => if granted then Function.update sizes block (some size) else sizes
  | release block _ => Function.update sizes block none
  | resize granted block _ new => if granted then Function.update sizes block (some new) else sizes

/-- What callers and the system keep to: a block that is granted is not in use yet, and a block that is
given back or resized is in use and has the size that the caller tells. -/
def Allowed (sizes : Nat → Option UInt64) : Call → Prop
  | allocate _ granted block _ => granted = true → sizes block = none
  | release block size => sizes block = some size
  | resize _ block old _ => sizes block = some old

instance (sizes : Nat → Option UInt64) (call : Call) : Decidable (call.Allowed sizes) :=
  match call with
  | allocate _ granted block _ => inferInstanceAs (Decidable (granted = true → sizes block = none))
  | release block size => inferInstanceAs (Decidable (sizes block = some size))
  | resize _ block old _ => inferInstanceAs (Decidable (sizes block = some old))

end Call

/-- The sizes of the blocks in use after some calls. -/
def sizesOf (calls : List Call) : Nat → Option UInt64 :=
  calls.foldl Call.sizesAfter fun _ => none

/-- The counters after a call. -/
def Statistics.count (statistics : Statistics) : Call → Statistics
  | .allocate _ granted _ size => if granted then statistics.allocated size else statistics
  | .release _ size => statistics.deallocated size
  | .resize granted _ old new =>
    if granted then (statistics.deallocated old).allocated new else statistics

/-- A call that is refused is not counted. -/
lemma Statistics.count_of_isRefused {statistics : Statistics} {call : Call}
    (h : call.isRefused = true) : statistics.count call = statistics := by
  cases call with
  | allocate zeroed granted block size =>
    cases granted with
    | false => rfl
    | true => cases h
  | release block size => cases h
  | resize granted block old new =>
    cases granted with
    | false => rfl
    | true => cases h

namespace Heap

variable {heap : Heap}

/-- The number of bytes in all blocks. -/
def total (heap : Heap) : Nat :=
  (heap.blocks.map fun block => block.2.toNat).sum

/-- Makes a call. -/
def perform (heap : Heap) : Call → Heap
  | .allocate _ granted block size => heap.allocate granted block size
  | .release block _ => heap.release block
  | .resize granted block _ new => heap.resize granted block new

/-- The heap after some calls, from one without blocks. -/
def after (calls : List Call) : Heap :=
  calls.foldl perform {}

/-- A call that is refused changes nothing. -/
lemma perform_of_isRefused {call : Call} (h : call.isRefused = true) : heap.perform call = heap := by
  cases call with
  | allocate zeroed granted block size =>
    cases granted with
    | false => rfl
    | true => cases h
  | release block size => cases h
  | resize granted block old new =>
    cases granted with
    | false =>
      simp only [perform, resize]
      split <;> rfl
    | true => cases h

/-! ### Heaps whose counters are exact -/

/-- The blocks of a heap are those in use, and its counters agree with them. -/
structure Exact (heap : Heap) (sizes : Nat → Option UInt64) : Prop where
  /-- No block is listed twice. -/
  nodup : (heap.blocks.map Prod.fst).Nodup
  /-- The blocks listed are those in use, with their sizes. -/
  lookup_eq : ∀ block, heap.blocks.lookup block = sizes block
  /-- The bytes in use are those of the blocks. -/
  bytesInUse_eq : heap.statistics.bytesInUse.toNat = heap.total
  /-- Every block that was allocated was given back or is in use. -/
  allocations_eq : heap.statistics.allocations =
    heap.statistics.deallocations + UInt64.ofNat heap.blocks.length

/-- Blocks that are not empty have a byte each, at least. -/
lemma length_blocks_le (hfilled : ∀ entry ∈ heap.blocks, entry.2 ≠ 0) :
    heap.blocks.length ≤ heap.total := by
  rw [total, ← List.length_map (fun block : Nat × UInt64 => block.2.toNat)]
  refine List.length_le_sum_of_one_le _ fun count hcount => ?_
  obtain ⟨entry, hentry, rfl⟩ := List.mem_map.mp hcount
  refine Nat.pos_of_ne_zero fun hzero => hfilled entry hentry ?_
  exact UInt64.toNat_inj.mp hzero

/-- A heap without blocks is exact. -/
lemma exact_empty : Exact {} fun _ => none where
  nodup := List.nodup_nil
  lookup_eq _ := rfl
  bytesInUse_eq := rfl
  allocations_eq := rfl

namespace Exact

/-- Allocating a block adds it to those in use. -/
lemma blocks_allocate (h : Exact heap sizes) (hfresh : sizes block = none) :
    (heap.allocate true block size).blocks = (block, size) :: heap.blocks := by
  change (block, size) :: heap.without block = _
  rw [without, filter_eq_self_of_lookup ((h.lookup_eq block).trans hfresh)]

/-- Allocating a block adds its size to the bytes of all blocks. -/
lemma total_allocate (h : Exact heap sizes) (hfresh : sizes block = none) :
    (heap.allocate true block size).total = size.toNat + heap.total := by
  rw [total, h.blocks_allocate hfresh, List.map_cons, List.sum_cons, total]

/-- The blocks are one that is in use and the others. -/
lemma perm_without (h : Exact heap sizes) (hused : sizes block = some size) :
    heap.blocks.Perm ((block, size) :: heap.without block) :=
  perm_cons_filter h.nodup ((h.lookup_eq block).trans hused)

/-- Giving back a block takes it from those in use, and counts its size. -/
lemma release_eq (h : Exact heap sizes) (hused : sizes block = some size) :
    heap.release block = ⟨heap.without block, heap.statistics.deallocated size⟩ := by
  simp only [release, h.lookup_eq, hused]

/-- Giving back a block takes its size from the bytes of all blocks. -/
lemma total_release (h : Exact heap sizes) (hused : sizes block = some size) :
    size.toNat + (heap.release block).total = heap.total := by
  have hperm := (h.perm_without hused).map fun block => block.2.toNat
  rw [h.release_eq hused, total, total, hperm.sum_eq, List.map_cons, List.sum_cons]

/-- Resizing a block gives it back and allocates it anew. -/
lemma resize_eq (h : Exact heap sizes) (hused : sizes block = some size) (new : UInt64) :
    heap.resize true block new = (heap.release block).allocate true block new := by
  have hwithout : (heap.release block).without block = heap.without block := by
    rw [h.release_eq hused]
    exact List.filter_filter.trans (List.filter_congr fun _ _ => Bool.and_self _)
  simp only [resize, h.lookup_eq, hused, if_true]
  simp only [allocate, hwithout, if_true]
  rw [h.release_eq hused]

/-- A heap stays exact when a block is allocated that is not in use, if its bytes can be counted. -/
lemma allocate (h : Exact heap sizes) (hfresh : sizes block = none)
    (hfits : (heap.allocate true block size).total < 2 ^ 64) :
    Exact (heap.allocate true block size) (Function.update sizes block (some size)) where
  nodup := by
    rw [h.blocks_allocate hfresh, List.map_cons, List.nodup_cons]
    refine ⟨fun hmem => ?_, h.nodup⟩
    obtain ⟨entry, hentry, rfl⟩ := List.mem_map.mp hmem
    have hnone := List.lookup_eq_none_iff.mp ((h.lookup_eq entry.1).trans hfresh) entry hentry
    exact bne_iff_ne.mp hnone rfl
  lookup_eq other := by
    rw [h.blocks_allocate hfresh, List.lookup_cons]
    by_cases hsame : other = block
    · rw [hsame, beq_self_eq_true, Function.update_self]
    · rw [beq_eq_false_iff_ne.mpr hsame, Function.update_of_ne hsame]
      exact h.lookup_eq other
  bytesInUse_eq := by
    rw [h.total_allocate hfresh] at hfits ⊢
    change (heap.statistics.bytesInUse + size).toNat = _
    rw [UInt64.toNat_add, h.bytesInUse_eq, Nat.add_comm, Nat.mod_eq_of_lt hfits]
  allocations_eq := by
    rw [h.blocks_allocate hfresh, List.length_cons, UInt64.ofNat_add, ← UInt64.add_assoc]
    exact congrArg (· + 1) h.allocations_eq

/-- A heap stays exact when a block in use is given back. -/
lemma release (h : Exact heap sizes) (hused : sizes block = some size) :
    Exact (heap.release block) (Function.update sizes block none) where
  nodup := by
    have hperm := (h.perm_without hused).map Prod.fst
    rw [h.release_eq hused]
    exact (List.nodup_cons.mp (hperm.nodup_iff.mp h.nodup)).2
  lookup_eq other := by
    rw [h.release_eq hused]
    by_cases hsame : other = block
    · rw [hsame, Function.update_self]
      exact lookup_filter_self block heap.blocks
    · rw [Function.update_of_ne hsame, ← h.lookup_eq other]
      exact lookup_filter_ne hsame heap.blocks
  bytesInUse_eq := by
    have htotal := h.total_release hused
    have hle : size.toNat ≤ heap.statistics.bytesInUse.toNat := by
      rw [h.bytesInUse_eq]
      omega
    have hstatistics : (heap.release block).statistics.bytesInUse =
        heap.statistics.bytesInUse - size := by rw [h.release_eq hused]; rfl
    rw [hstatistics, UInt64.toNat_sub_of_le _ _ hle, h.bytesInUse_eq]
    omega
  allocations_eq := by
    have hlength := (h.perm_without hused).length_eq
    have hallocations := h.allocations_eq
    rw [hlength, List.length_cons, UInt64.ofNat_add, UInt64.add_comm (UInt64.ofNat _),
      ← UInt64.add_assoc] at hallocations
    rw [h.release_eq hused]
    exact hallocations

/-- A heap stays exact when an allowed call is made, if the bytes it leaves can be counted. -/
lemma perform (h : Exact heap sizes) {call : Call} (hallowed : call.Allowed sizes)
    (hfits : (heap.perform call).total < 2 ^ 64) :
    Exact (heap.perform call) (call.sizesAfter sizes) := by
  cases call with
  | allocate zeroed granted block size =>
    cases granted with
    | false => exact h
    | true => exact h.allocate (hallowed rfl) hfits
  | release block size => exact h.release hallowed
  | resize granted block old new =>
    cases granted with
    | false =>
      rw [perform_of_isRefused rfl]
      exact h
    | true =>
      rw [Heap.perform, h.resize_eq hallowed] at hfits ⊢
      have hagain := (h.release hallowed).allocate (Function.update_self block none sizes) hfits
      rwa [Function.update_idem] at hagain

/-- The counters follow from what an allowed call says. -/
lemma statistics_perform (h : Exact heap sizes) {call : Call} (hallowed : call.Allowed sizes) :
    (heap.perform call).statistics = heap.statistics.count call := by
  cases call with
  | allocate zeroed granted block size => cases granted <;> rfl
  | release block size => rw [Heap.perform, h.release_eq hallowed, Statistics.count]
  | resize granted block old new =>
    cases granted with
    | false => rw [perform_of_isRefused rfl]; rfl
    | true => rw [Heap.perform, h.resize_eq hallowed, h.release_eq hallowed]; rfl

/-- Allocating a block raises the peak to the bytes that are in use then, if they are more. -/
lemma peakBytes_allocate (h : Exact heap sizes) (hfresh : sizes block = none)
    (hfits : (heap.allocate true block size).total < 2 ^ 64) :
    (heap.allocate true block size).statistics.peakBytes.toNat =
      max heap.statistics.peakBytes.toNat (heap.allocate true block size).total := by
  rw [← (h.allocate hfresh hfits).bytesInUse_eq]
  exact UInt64.toNat_max _ _

/-- An allowed call raises the peak to the bytes that are in use then, if they are more. -/
lemma peakBytes_perform (h : Exact heap sizes) {call : Call} (hallowed : call.Allowed sizes)
    (hfits : (heap.perform call).total < 2 ^ 64)
    (hpeak : heap.total ≤ heap.statistics.peakBytes.toNat) :
    (heap.perform call).statistics.peakBytes.toNat =
      max heap.statistics.peakBytes.toNat (heap.perform call).total := by
  have hrelease : ∀ {block size}, sizes block = some size →
      (heap.release block).statistics.peakBytes = heap.statistics.peakBytes := by
    intro block size hused
    rw [h.release_eq hused]
    rfl
  cases call with
  | allocate zeroed granted block size =>
    cases granted with
    | false => exact (Nat.max_eq_left hpeak).symm
    | true => exact h.peakBytes_allocate (hallowed rfl) hfits
  | release block size =>
    have htotal := h.total_release hallowed
    rw [Heap.perform, hrelease hallowed, Nat.max_eq_left (by omega)]
  | resize granted block old new =>
    cases granted with
    | false =>
      rw [perform_of_isRefused rfl]
      exact (Nat.max_eq_left hpeak).symm
    | true =>
      rw [Heap.perform, h.resize_eq hallowed] at hfits ⊢
      rw [(h.release hallowed).peakBytes_allocate (Function.update_self block none sizes) hfits,
        hrelease hallowed]

end Exact

end Heap

/-! ### Valid traces -/

/-- Calls that are allowed one after the other, and never leave more bytes in use than can be
counted. -/
inductive Valid : List Call → Prop where
  /-- Nothing is called. -/
  | nil : Valid []
  /-- One more call is made. -/
  | concat {calls : List Call} (hcalls : Valid calls) (call : Call)
      (hallowed : call.Allowed (sizesOf calls))
      (hfits : (Heap.after (calls ++ [call])).total < 2 ^ 64) : Valid (calls ++ [call])

/-- The bytes in all blocks at any time during some calls. -/
def totals (calls : List Call) : Set Nat :=
  {total | ∃ earlier, earlier <+: calls ∧ (Heap.after earlier).total = total}

variable {calls : List Call}

/-- The heap after one more call. -/
lemma Heap.after_concat (calls : List Call) (call : Call) :
    Heap.after (calls ++ [call]) = (Heap.after calls).perform call := by
  rw [Heap.after, List.foldl_concat, Heap.after]

/-- The sizes of blocks after one more call. -/
lemma sizesOf_concat (calls : List Call) (call : Call) :
    sizesOf (calls ++ [call]) = call.sizesAfter (sizesOf calls) := by
  rw [sizesOf, List.foldl_concat, sizesOf]

/-- One more call adds one more time. -/
lemma totals_concat (calls : List Call) (call : Call) :
    totals (calls ++ [call]) = insert (Heap.after (calls ++ [call])).total (totals calls) := by
  ext total
  simp only [totals, Set.mem_ofPred_eq, Set.mem_insert_iff, List.prefix_concat_iff]
  constructor
  · rintro ⟨earlier, rfl | hearlier, htotal⟩
    · exact .inl htotal.symm
    · exact .inr ⟨earlier, hearlier, htotal⟩
  · rintro (rfl | ⟨earlier, hearlier, htotal⟩)
    · exact ⟨calls ++ [call], .inl rfl, rfl⟩
    · exact ⟨earlier, .inr hearlier, htotal⟩

namespace Valid

/-- The beginning of a valid trace is valid. -/
lemma of_prefix (h : Valid calls) {earlier : List Call} (hearlier : earlier <+: calls) :
    Valid earlier := by
  induction h with
  | nil =>
    rw [List.prefix_nil.mp hearlier]
    exact .nil
  | concat hcalls call hallowed hfits ih =>
    obtain rfl | hearlier := List.prefix_concat_iff.mp hearlier
    · exact hcalls.concat call hallowed hfits
    · exact ih hearlier

/-- After a valid trace the heap is exact. -/
lemma exact (h : Valid calls) : (Heap.after calls).Exact (sizesOf calls) := by
  induction h with
  | nil => exact Heap.exact_empty
  | concat hcalls call hallowed hfits ih =>
    rw [Heap.after_concat] at hfits ⊢
    rw [sizesOf_concat]
    exact ih.perform hallowed hfits

/-- After a valid trace the counters are those that follow from what the calls say. -/
lemma statistics_eq (h : Valid calls) :
    (Heap.after calls).statistics = calls.foldl Statistics.count {} := by
  induction h with
  | nil => rfl
  | concat hcalls call hallowed hfits ih =>
    rw [Heap.after_concat, hcalls.exact.statistics_perform hallowed, ih, List.foldl_concat]

/-- After a valid trace the peak is the most that was in use at any time. -/
lemma isGreatest_peakBytes (h : Valid calls) :
    IsGreatest (totals calls) (Heap.after calls).statistics.peakBytes.toNat := by
  induction h with
  | nil =>
    refine ⟨⟨[], List.prefix_rfl, rfl⟩, ?_⟩
    rintro total ⟨earlier, hearlier, rfl⟩
    rw [List.prefix_nil.mp hearlier]
    exact Nat.le_refl 0
  | @concat calls hcalls call hallowed hfits ih =>
    have hpeak : (Heap.after calls).total ≤ (Heap.after calls).statistics.peakBytes.toNat :=
      ih.2 ⟨calls, List.prefix_rfl, rfl⟩
    rw [totals_concat, Heap.after_concat] at *
    rw [hcalls.exact.peakBytes_perform hallowed hfits hpeak, Nat.max_comm]
    exact ih.insert _

end Valid

/-- **The counters are exact after every call of a valid trace.**  They follow from what the calls say
and whether they are granted. The bytes in use are those of the blocks in use, each of which counts once
with its size; the blocks allocated less the blocks given back are the blocks in use; and the peak is the
most bytes that were in use at any time so far. A call that is refused changes no counter and no block. -/
theorem exact_after_each_call (hvalid : Valid calls) {earlier : List Call}
    (hearlier : earlier <+: calls) :
    let heap := Heap.after earlier
    let counters := earlier.foldl Statistics.count {}
    heap.statistics = counters ∧
    (heap.blocks.map Prod.fst).Nodup ∧
    (∀ block, heap.blocks.lookup block = sizesOf earlier block) ∧
    counters.bytesInUse.toNat = heap.total ∧
    counters.allocations - counters.deallocations = UInt64.ofNat heap.blocks.length ∧
    ((∀ entry ∈ heap.blocks, entry.2 ≠ 0) →
      (counters.allocations - counters.deallocations).toNat = heap.blocks.length) ∧
    IsGreatest (totals earlier) counters.peakBytes.toNat ∧
    ∀ call, call.isRefused = true → counters.count call = counters ∧ heap.perform call = heap := by
  intro heap counters
  have hprefix := hvalid.of_prefix hearlier
  have hexact := hprefix.exact
  have hcounters : heap.statistics = counters := hprefix.statistics_eq
  have hbytes : counters.bytesInUse.toNat = heap.total := hcounters ▸ hexact.bytesInUse_eq
  have hbalance : counters.allocations - counters.deallocations =
      UInt64.ofNat heap.blocks.length := by
    rw [← hcounters, hexact.allocations_eq, UInt64.add_comm, UInt64.add_sub_cancel]
  refine ⟨hcounters, hexact.nodup, hexact.lookup_eq, hbytes, hbalance, fun hfilled => ?_,
    hcounters ▸ hprefix.isGreatest_peakBytes, fun call hrefused => ?_⟩
  · have hfits : heap.blocks.length < UInt64.size := by
      calc heap.blocks.length ≤ heap.total := Heap.length_blocks_le hfilled
        _ = counters.bytesInUse.toNat := hbytes.symm
        _ < UInt64.size := counters.bytesInUse.toNat_lt
    rw [hbalance, UInt64.toNat_ofNat_of_lt' hfits]
  · exact ⟨Statistics.count_of_isRefused hrefused, Heap.perform_of_isRefused hrefused⟩

/-- A block grows after another was refused, and shrinks the bytes in use again when it is given back; a
block that is refused a new size keeps the one it has. -/
theorem exact_after_growth_and_refusal :
    let calls : List Call := [.allocate false true 1 100, .allocate true false 2 50,
      .allocate true true 2 28, .resize true 1 100 300, .resize false 2 28 900, .release 1 300]
    let counters := calls.foldl Statistics.count {}
    Valid calls ∧ calls <+: calls ∧
    counters.bytesInUse.toNat = (Heap.after calls).total ∧
    IsGreatest (totals calls) counters.peakBytes.toNat ∧
    counters = ⟨3, 2, 28, 328⟩ := by
  intro calls counters
  have hvalid : Valid calls :=
    Valid.nil
      |>.concat (.allocate false true 1 100) (by decide) (by decide)
      |>.concat (.allocate true false 2 50) (by decide) (by decide)
      |>.concat (.allocate true true 2 28) (by decide) (by decide)
      |>.concat (.resize true 1 100 300) (by decide) (by decide)
      |>.concat (.resize false 2 28 900) (by decide) (by decide)
      |>.concat (.release 1 300) (by decide) (by decide)
  obtain ⟨-, -, -, hbytes, -, -, hpeak, -⟩ := exact_after_each_call hvalid List.prefix_rfl
  exact ⟨hvalid, List.prefix_rfl, hbytes, hpeak, by decide⟩

end PrefetchInfo.Allocation
