import Mathlib
import PrefetchInfo.Error.Backtrace

/-!
# A walk visits each record once

A walk over a chain is a place in the list of its records, the most recent first: what is left is that list
without the records that were consumed before. Whatever is asked of the walk, in whatever order, is answered
from the records that are left, and a walk that has found none will find none any more.
-/

namespace PrefetchInfo.Backtrace

variable (walk : Backtrace)

/-! ### The records that are left -/

/-- The records still to be visited, in the order of the walk. -/
def remaining : List ErrorRecord :=
  (walk.records.take walk.left).reverse

/-- All records are left at the start. -/
lemma remaining_start (chain : ErrorChain) : (start chain).remaining = chain.records.reverse := by
  rw [remaining, start, List.take_length]

/-- The walk counts the records that are left. -/
lemma length_remaining : walk.remaining.length = walk.left := by
  rw [remaining, List.length_reverse, List.length_take, Nat.min_eq_left walk.left_le]

/-- Skipped records are left out. -/
lemma remaining_skip (count : Nat) : (walk.skip count).remaining = walk.remaining.drop count := by
  have hshort : walk.left - count ≤ walk.left := Nat.sub_le _ _
  rw [remaining, remaining, List.drop_reverse, List.length_take, Nat.min_eq_left walk.left_le,
    List.take_take, Nat.min_eq_left hshort, skip]

/-- The record behind `n` others is found among those that are left. -/
lemma nth_fst (n : Nat) : (walk.nth n).1 = walk.remaining[n]? := by
  have hlength := walk.length_remaining
  unfold nth
  split
  · rename_i hlt
    have hplace : walk.left - 1 - n < walk.left := by omega
    have htake : (walk.records.take walk.left).length = walk.left := by
      rwa [remaining, List.length_reverse] at hlength
    rw [remaining, List.getElem?_reverse (htake.symm ▸ hlt), htake, List.getElem?_take_of_lt hplace]
  · rename_i hge
    exact (List.getElem?_eq_none (by omega)).symm

/-- The next record is the first of those that are left. -/
lemma next_fst : walk.next.1 = walk.remaining.head? := by
  rw [next, nth_fst, List.head?_eq_getElem?]

/-- The walk goes on behind the record that was asked for. -/
lemma remaining_nth (n : Nat) : (walk.nth n).2.remaining = walk.remaining.drop (n + 1) :=
  walk.remaining_skip (n + 1)

/-- Skipping some records and then others is skipping all of them at once. -/
lemma skip_skip (first second : Nat) : (walk.skip first).skip second = walk.skip (first + second) := by
  simp only [skip, Nat.sub_sub]

/-- Asking for the record behind `n` others is asking for the next record `n` times and then once more. -/
lemma nth_eq_iterate_next (n : Nat) : walk.nth n = ((fun walk => walk.next.2)^[n] walk).next := by
  induction n generalizing walk with
  | zero => rfl
  | succ n ih =>
    rw [Function.iterate_succ_apply, ← ih walk.next.2]
    refine Prod.ext ?_ ?_
    · rw [nth_fst, nth_fst, next, remaining_nth, List.getElem?_drop, Nat.add_comm]
    · change walk.skip (n + 1 + 1) = (walk.skip 1).skip (n + 1)
      rw [skip_skip, Nat.add_comm 1]

/-- The rest of a walk are the records that are left, and none is left behind it. -/
lemma rest_spec : walk.rest.1 = walk.remaining ∧ walk.rest.2.remaining = [] := by
  induction walk using rest.induct with
  | case1 walk hpos ih =>
    obtain ⟨hrecords, hend⟩ := ih
    have hrest : walk.next.2.remaining = walk.remaining.tail := by
      rw [next, remaining_nth, ← List.drop_one]
    rw [rest, dif_pos hpos]
    refine ⟨?_, hend⟩
    rw [hrecords, hrest, next_fst]
    cases walk.remaining <;> rfl
  | case2 walk hnone =>
    have hlength := walk.length_remaining
    have hnil : walk.remaining = [] := List.eq_nil_of_length_eq_zero (by omega)
    rw [rest, dif_neg hnone]
    exact ⟨hnil.symm, hnil⟩

/-! ### Actions on a walk -/

/-- Something that is done with a walk. -/
inductive Action where
  /-- Asks for the next record. -/
  | next
  /-- Asks for the record behind `n` others. -/
  | nth (n : Nat)
  /-- Asks how many records are left. -/
  | length
  /-- Asks between which bounds their number is. -/
  | sizeHint
  /-- Lists what a copy of the walk still visits. -/
  | fork
  /-- Lists what the walk itself still visits. -/
  | rest
  deriving DecidableEq, Repr

/-- What is answered to an action. -/
inductive Answer where
  /-- A record, if one was found. -/
  | record (found : Option ErrorRecord)
  /-- A number of records. -/
  | count (number : Nat)
  /-- The bounds of a number of records, of which the upper one may be missing. -/
  | bounds (least : Nat) (most : Option Nat)
  /-- A list of records. -/
  | records (listed : List ErrorRecord)
  deriving DecidableEq, Repr

/-- Performs an action: its answer, and the walk after it. -/
def perform : Action → Answer × Backtrace
  | .next => (.record walk.next.1, walk.next.2)
  | .nth n => (.record (walk.nth n).1, (walk.nth n).2)
  | .length => (.count walk.length, walk)
  | .sizeHint => (.bounds walk.sizeHint.1 walk.sizeHint.2, walk)
  | .fork => (.records walk.rest.1, walk)
  | .rest => (.records walk.rest.1, walk.rest.2)

/-- The walk after actions, one after the other. -/
def after (actions : List Action) : Backtrace :=
  actions.foldl (fun walk action => (walk.perform action).2) walk

/-- How many of the records that are left an action consumes: what is asked for with all that stands before
it, as far as there is anything left. -/
def Action.consumes (left : Nat) : Action → Nat
  | next => min 1 left
  | nth n => min (n + 1) left
  | rest => left
  | length | sizeHint | fork => 0

/-- How many of `total` records actions have consumed, one after the other. -/
def consumed (total : Nat) (actions : List Action) : Nat :=
  actions.foldl (fun count action => count + action.consumes (total - count)) 0

/-- What an action is answered with, given the records that are left. -/
def Action.answer (left : List ErrorRecord) : Action → Answer
  | next => .record left.head?
  | nth n => .record left[n]?
  | length => .count left.length
  | sizeHint => .bounds left.length (some left.length)
  | fork | rest => .records left

/-- No more is consumed than is left. -/
lemma Action.consumes_le (action : Action) (left : Nat) : action.consumes left ≤ left := by
  cases action <;> simp only [consumes] <;> omega

/-- An action is answered from the records that are left, and consumes as many of them as it should. -/
lemma perform_spec (action : Action) :
    (walk.perform action).1 = action.answer walk.remaining ∧
      (walk.perform action).2.remaining =
        walk.remaining.drop (action.consumes walk.remaining.length) := by
  have hdrop : ∀ count, walk.remaining.drop (min count walk.remaining.length) =
      walk.remaining.drop count := by
    intro count
    rcases Nat.le_total count walk.remaining.length with hle | hge
    · rw [Nat.min_eq_left hle]
    · rw [Nat.min_eq_right hge, List.drop_length, List.drop_eq_nil_of_le hge]
  cases action with
  | next =>
    refine ⟨congrArg Answer.record walk.next_fst, ?_⟩
    exact (walk.remaining_nth 0).trans (hdrop 1).symm
  | nth n =>
    refine ⟨congrArg Answer.record (walk.nth_fst n), ?_⟩
    exact (walk.remaining_nth n).trans (hdrop (n + 1)).symm
  | length => exact ⟨congrArg Answer.count walk.length_remaining.symm, rfl⟩
  | sizeHint =>
    refine ⟨?_, rfl⟩
    rw [Action.answer, length_remaining]
    rfl
  | fork => exact ⟨congrArg Answer.records walk.rest_spec.1, rfl⟩
  | rest =>
    obtain ⟨hrecords, hend⟩ := walk.rest_spec
    refine ⟨congrArg Answer.records hrecords, hend.trans ?_⟩
    exact List.drop_length.symm

/-- Actions after others go on with the walk that those have left. -/
lemma after_append (earlier later : List Action) :
    walk.after (earlier ++ later) = (walk.after earlier).after later :=
  List.foldl_append

/-- What an action consumes is counted from what is left. -/
lemma consumed_concat (total : Nat) (actions : List Action) (action : Action) :
    consumed total (actions ++ [action]) =
      consumed total actions + action.consumes (total - consumed total actions) := by
  rw [consumed, List.foldl_append]
  rfl

/-- After actions all records are left but those that they have consumed, and no more have been consumed
than there were. -/
lemma remaining_after (actions : List Action) :
    consumed walk.remaining.length actions ≤ walk.remaining.length ∧
      (walk.after actions).remaining =
        walk.remaining.drop (consumed walk.remaining.length actions) := by
  induction actions using List.reverseRecOn with
  | nil => exact ⟨Nat.zero_le _, rfl⟩
  | append_singleton actions action ih =>
    obtain ⟨hle, hremaining⟩ := ih
    have hmore := action.consumes_le
      (walk.remaining.length - consumed walk.remaining.length actions)
    rw [consumed_concat]
    refine ⟨by omega, ?_⟩
    rw [after_append]
    change ((walk.after actions).perform action).2.remaining = _
    rw [(perform_spec _ action).2, hremaining, List.length_drop, List.drop_drop]

/-- If no record was found, none is left. -/
lemma remaining_eq_nil_of_none {action : Action} (h : (walk.perform action).1 = .record none) :
    (walk.perform action).2.remaining = [] := by
  obtain ⟨hanswer, hremaining⟩ := walk.perform_spec action
  rw [hanswer] at h
  cases action with
  | next =>
    have hnone : walk.remaining.head? = none := Answer.record.inj h
    rw [hremaining, List.head?_eq_none_iff.mp hnone, List.drop_nil]
  | nth n =>
    have hnone : walk.remaining[n]? = none := Answer.record.inj h
    have hle : walk.remaining.length ≤ n := List.getElem?_eq_none_iff.mp hnone
    have hall : min (n + 1) walk.remaining.length = walk.remaining.length := by omega
    rw [hremaining, Action.consumes, hall, List.drop_length]
  | length | sizeHint | fork | rest => cases h

/-- If none is left, no record is found. -/
lemma found_eq_none_of_nil {action : Action} {found : Option ErrorRecord}
    (hnil : walk.remaining = []) (h : (walk.perform action).1 = .record found) : found = none := by
  rw [(walk.perform_spec action).1, hnil] at h
  cases action with
  | next => exact (Answer.record.inj h).symm
  | nth n => exact (Answer.record.inj h).symm
  | length | sizeHint | fork | rest => cases h

/-- **A walk is an exact cursor that stays at its end.**  After any actions on a walk over a chain, the
records that are left are those of the chain, the most recent first, without as many as the actions have
consumed. The next record is the first of them; the record behind `n` others is the one in this place among
them, if there are so many, and it is the same as to ask `n` times for the next one and then once more. Their
number, both its bounds, and what the walk and a copy of it list are exact, and each action consumes as many
as it should. Once no record was found, none is found by any later action. -/
theorem exact_until_end (chain : ErrorChain) (actions : List Action) :
    let walk := (start chain).after actions
    let count := consumed chain.length actions
    let left := chain.records.reverse.drop count
    count ≤ chain.length ∧
    (walk.perform .next).1 = .record left.head? ∧
    (∀ n, (walk.perform (.nth n)).1 = .record left[n]?) ∧
    (∀ n, walk.nth n = ((fun walk => walk.next.2)^[n] walk).next) ∧
    (walk.perform .length).1 = .count left.length ∧
    (walk.perform .sizeHint).1 = .bounds left.length (some left.length) ∧
    (walk.perform .fork).1 = .records left ∧
    (walk.perform .rest).1 = .records left ∧
    (∀ action, consumed chain.length (actions ++ [action]) = count + action.consumes left.length) ∧
    (∀ earlier action later, actions = earlier ++ action :: later →
      (((start chain).after earlier).perform action).1 = .record none →
      ∀ further found, (walk.perform further).1 = .record found → found = none) := by
  intro walk count left
  have hlength : (start chain).remaining.length = chain.length := by
    rw [remaining_start, List.length_reverse, ErrorChain.records, List.length_reverse,
      ErrorChain.length]
  obtain ⟨hle, hremaining⟩ := (start chain).remaining_after actions
  rw [hlength] at hle hremaining
  rw [remaining_start] at hremaining
  have hanswer : ∀ action, (walk.perform action).1 = action.answer left := by
    intro action
    rw [(walk.perform_spec action).1, hremaining]
  refine ⟨hle, hanswer .next, fun n => hanswer (.nth n), walk.nth_eq_iterate_next, hanswer .length,
    hanswer .sizeHint, hanswer .fork, hanswer .rest, fun action => ?_, ?_⟩
  · rw [consumed_concat, List.length_drop, ← remaining_start, hlength]
  · rintro earlier action later rfl hnone further found hfound
    have hnil := ((start chain).after earlier).remaining_eq_nil_of_none hnone
    obtain ⟨-, hlater⟩ :=
      (((start chain).after earlier).perform action).2.remaining_after later
    rw [hnil, List.drop_nil] at hlater
    have hwalk : walk = (((start chain).after earlier).perform action).2.after later :=
      (start chain).after_append earlier (action :: later)
    have hend : walk.remaining = [] := by rw [hwalk, hlater]
    exact walk.found_eq_none_of_nil hend hfound

/-- Behind the more recent of two records the walk finds no sixth one, and after that not even the root
cause, which it has passed over. -/
theorem exact_until_end_of_two :
    let chain := (ErrorChain.single .generic "root").append .generic "latest"
    let walk := (start chain).after [.next, .nth 5, .length]
    consumed chain.length [.next, .nth 5, .length] = 2 ∧
    (((start chain).after [.next]).perform (.nth 5)).1 = .record none ∧
    (walk.perform .length).1 = .count 0 ∧
    ∀ n found, (walk.perform (.nth n)).1 = .record found → found = none := by
  intro chain walk
  have hnone : (((start chain).after [.next]).perform (.nth 5)).1 = .record none := by decide
  obtain ⟨-, -, -, -, hlength, -, -, -, -, hend⟩ := exact_until_end chain [.next, .nth 5, .length]
  refine ⟨by decide, hnone, hlength, fun n => ?_⟩
  exact hend [.next] (.nth 5) [.length] rfl hnone (.nth n)

end PrefetchInfo.Backtrace
