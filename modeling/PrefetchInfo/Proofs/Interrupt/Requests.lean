import Mathlib.Data.List.Induction
import Mathlib.Data.List.Perm.Basic
import Mathlib.Tactic.Lemma
import PrefetchInfo.Interrupt.AbortFlag
import PrefetchInfo.Proofs.Interrupt.Throughout

/-!
# Requests that arrive during a call

A program makes calls on an abort flag, one after the other, and the interruption trap makes requests of
its own whenever it likes, also between two steps of a call. A call changes the name at its first step
and the request at its last one. So a request that arrives in between comes after the call as far as
names go, and before it as far as requests go. This makes no difference if the call is a request itself.
But a reset has forgotten the name before it takes the request back: of a named request that arrives in
between only the half is wiped, and the name stays behind.
-/

namespace PrefetchInfo.AbortFlag

/-! ### Calls -/

/-- A request to stop. -/
inductive Request where
  /-- A request that names no interruption. -/
  | plain
  /-- A request on behalf of an interruption. -/
  | named (signal : Signal)
  deriving DecidableEq, Repr

/-- A call that changes a flag. -/
inductive Call where
  /-- A request is made. -/
  | request (request : Request)
  /-- The flag is reset. -/
  | reset
  deriving DecidableEq, Repr

namespace Call

/-- The steps of a call. -/
def routine : Call → Routine AbortFlag Unit
  | request .plain => AbortFlag.request
  | request (.named signal) => requestFrom signal
  | reset => AbortFlag.reset

/-- Whether a call leaves a request. -/
def requests : Call → Bool
  | request _ => true
  | reset => false

/-- The name that a call leaves, given the one before. -/
def names : Call → Option Signal → Option Signal
  | request .plain, name => name
  | request (.named signal), _ => some signal
  | reset, _ => none

/-- The last step of a call. -/
def lastStep (call : Call) : Routine AbortFlag Unit :=
  Routine.atomically fun flag => ((), { flag with requested := call.requests })

/-- A call that nothing interrupts leaves its request, and its name if it has one. -/
lemma run_routine (call : Call) (flag : AbortFlag) :
    (call.routine.run flag).2 = ⟨call.requests, call.names flag.signal⟩ := by
  rcases call with (_ | signal) | _ <;> rfl

/-- The first step of a call changes the name, and only the last one is left; a request without a name
makes its only step. -/
lemma advance_routine (call : Call) (flag : AbortFlag) :
    call.routine.advance flag = (call.lastStep, ⟨flag.requested, call.names flag.signal⟩) ∨
      call = .request .plain ∧ call.routine.advance flag = (.finished (), ⟨true, flag.signal⟩) := by
  rcases call with (_ | signal) | _
  · exact .inr ⟨rfl, rfl⟩
  · exact .inl rfl
  · exact .inl rfl

end Call

/-- The new flag after calls that nothing interrupts. -/
def after (calls : List Call) : AbortFlag :=
  calls.foldl (fun flag call => (call.routine.run flag).2) {}

/-- A further call leaves its request, and its name if it has one. -/
lemma after_concat (calls : List Call) (call : Call) :
    after (calls ++ [call]) = ⟨call.requests, call.names (after calls).signal⟩ := by
  rw [after, List.foldl_append, List.foldl_cons, List.foldl_nil, Call.run_routine, after]

/-- As long as nothing interrupts the calls, a flag has no name without a request. -/
lemma not_named_only_after (calls : List Call) :
    ¬((after calls).requested = false ∧ (after calls).signal ≠ none) := by
  obtain rfl | ⟨earlier, call, rfl⟩ := calls.eq_nil_or_concat'
  · rintro ⟨-, hsignal⟩
    exact hsignal rfl
  · rw [after_concat]
    cases call with
    | request request =>
      rintro ⟨hrequested, -⟩
      cases hrequested
    | reset =>
      rintro ⟨-, hsignal⟩
      exact hsignal rfl

/-- After a call that leaves a request there is one, and requests since then do not change that. -/
lemma after_append_requests (calls : List Call) (requests : List Request) {call : Call}
    (hcall : call.requests = true) :
    (after (calls ++ call :: requests.map .request)).requested = true := by
  obtain rfl | ⟨earlier, request, rfl⟩ := requests.eq_nil_or_concat'
  · rw [List.map_nil, after_concat, hcall]
  · rw [List.map_append, ← List.cons_append, ← List.append_assoc, List.map_singleton, after_concat]
    rfl

/-- After a reset a flag has a name just if one of the requests since then has one. -/
lemma signal_after_reset (calls : List Call) (requests : List Request) :
    (after (calls ++ .reset :: requests.map .request)).signal ≠ none ↔
      ∃ signal, .named signal ∈ requests := by
  induction requests using List.reverseRecOn with
  | nil =>
    rw [List.map_nil, after_concat]
    exact iff_of_false (fun h => h rfl) (fun ⟨_, h⟩ => by cases h)
  | append_singleton requests request ih =>
    rw [List.map_append, ← List.cons_append, ← List.append_assoc, List.map_singleton, after_concat]
    cases request with
    | plain => simpa [Call.names] using ih
    | named signal => exact iff_of_true (fun h => by cases h) ⟨signal, by simp⟩

/-! ### Programs and the requests that interrupt them -/

/-- Something that happens to a program. -/
inductive Move where
  /-- A call begins with its first step. -/
  | begin (call : Call)
  /-- The call that is going on makes its next step. -/
  | advance
  /-- A request arrives and is made as a whole. -/
  | arrive (request : Request)
  deriving DecidableEq, Repr

/-- The call that begins with something that happens, if one does. -/
def Move.call? : Move → Option Call
  | begin call => some call
  | advance => none
  | arrive request => some (.request request)

/-- The call of the program that begins with something that happens, if one does. -/
def Move.begun? : Move → Option Call
  | begin call => some call
  | advance | arrive _ => none

/-- The calls of a program and the requests that arrive, in the order in which they begin. -/
def calls (moves : List Move) : List Call :=
  moves.filterMap Move.call?

/-- A program that makes calls on a flag. -/
structure Program where
  /-- The flag. -/
  flag : AbortFlag
  /-- What is left of the call that is going on, if there is one. -/
  rest : Option (Routine AbortFlag Unit)

namespace Program

/-- A program that has made no call on a new flag. -/
def start : Program :=
  ⟨{}, none⟩

/-- The program after a step of a call, which has ended if nothing is left of it. -/
def proceed : Routine AbortFlag Unit × AbortFlag → Program
  | (.finished (), flag) => ⟨flag, none⟩
  | (rest, flag) => ⟨flag, some rest⟩

/-- The program after something has happened. A call begins only when no other is going on, and a step
is made only while one is. -/
def move (program : Program) : Move → Option Program
  | .begin call =>
    match program.rest with
    | none => some (proceed (call.routine.advance program.flag))
    | some _ => none
  | .advance => program.rest.map fun rest => proceed (rest.advance program.flag)
  | .arrive request =>
    some { program with flag := ((Call.request request).routine.run program.flag).2 }

/-- The program after a run, if it can happen. -/
def run (program : Program) (moves : List Move) : Option Program :=
  moves.foldlM move program

end Program

variable {moves : List Move} {call call' : Call} {requests requests' : List Request}
  {program next : Program} {flag : AbortFlag} {rest : Routine AbortFlag Unit}

/-- The last call of the program to begin, and the requests that have arrived since. -/
def Interrupted (moves : List Move) (call : Call) (requests : List Request) : Prop :=
  ∃ earlier, moves = earlier ++ .begin call :: requests.map .arrive

/-- The run ends with the last step of a reset, and a named request has arrived before that step. -/
def SplitsReset (moves : List Move) : Prop :=
  ∃ during requests signal, moves = during ++ [.advance] ∧ Interrupted during .reset requests ∧
    .named signal ∈ requests

/-- The call of the program that was the last to begin. -/
lemma Interrupted.getLast?_begun (h : Interrupted moves call requests) :
    (moves.filterMap Move.begun?).getLast? = some call := by
  obtain ⟨earlier, rfl⟩ := h
  have hnone : (requests.map Move.arrive).filterMap Move.begun? = [] := by
    rw [List.filterMap_eq_nil_iff]
    intro move hmove
    obtain ⟨request, -, rfl⟩ := List.mem_map.mp hmove
    rfl
  have hbegin : (Move.begin call).begun? = some call := rfl
  rw [List.filterMap_append, List.filterMap_cons_some hbegin, hnone, List.getLast?_concat]

/-- No two calls of the program were the last to begin. -/
lemma Interrupted.call_eq (h : Interrupted moves call requests)
    (h' : Interrupted moves call' requests') : call = call' :=
  Option.some.inj (h.getLast?_begun.symm.trans h'.getLast?_begun)

/-- A call that has just begun. -/
lemma interrupted_begin (moves : List Move) (call : Call) :
    Interrupted (moves ++ [.begin call]) call [] :=
  ⟨moves, rfl⟩

/-- A further request arrives. -/
lemma Interrupted.arrive (h : Interrupted moves call requests) (request : Request) :
    Interrupted (moves ++ [.arrive request]) call (requests ++ [request]) := by
  obtain ⟨earlier, rfl⟩ := h
  exact ⟨earlier, by simp⟩

/-- The calls up to the last of the program, that one, and the requests since. -/
lemma Interrupted.calls_eq (h : Interrupted moves call requests) :
    ∃ earlier, calls moves = earlier ++ call :: requests.map .request := by
  obtain ⟨earlier, rfl⟩ := h
  have hrequests : calls (requests.map .arrive) = requests.map .request := by
    rw [calls, List.filterMap_map, ← List.filterMap_eq_map]
    rfl
  refine ⟨calls earlier, ?_⟩
  rw [← hrequests, calls, calls, calls, List.filterMap_append]
  rfl

/-- The flag after the calls of a run and the one that begins next. -/
lemma after_calls_concat (moves : List Move) {move : Move} (h : move.call? = some call) :
    after (calls (moves ++ [move])) = ⟨call.requests, call.names (after (calls moves)).signal⟩ := by
  rw [calls, List.filterMap_append, List.filterMap_cons_some h, List.filterMap_nil, after_concat, calls]

/-- The calls of a run are those before a step that is not the first of a call. -/
lemma calls_concat_advance (moves : List Move) : calls (moves ++ [.advance]) = calls moves := by
  rw [calls, List.filterMap_append, List.filterMap_cons_none rfl, List.filterMap_nil, List.append_nil,
    calls]

/-- How a run on a new flag leaves a program. -/
inductive Leaves (moves : List Move) : Program → Prop where
  /-- No call is going on, and the last step was not that of a reset: the flag is as if each call had been
  made as a whole when it began. -/
  | settled
      (h : ∀ during requests, moves = during ++ [.advance] → ¬Interrupted during .reset requests) :
      Leaves moves ⟨after (calls moves), none⟩
  /-- A reset has made its last step: there is no request, and the name is that of the calls in the order
  in which they began. -/
  | reset {during : List Move} {requests : List Request} (hmoves : moves = during ++ [.advance])
      (h : Interrupted during .reset requests) :
      Leaves moves ⟨⟨false, (after (calls moves)).signal⟩, none⟩
  /-- A call is going on, and the name is as above. -/
  | within {call : Call} {requests : List Request} {requested : Bool}
      (h : Interrupted moves call requests) :
      Leaves moves ⟨⟨requested, (after (calls moves)).signal⟩, some call.lastStep⟩

/-- The name is that of the calls in the order in which they began. -/
lemma Leaves.signal_eq (h : Leaves moves program) :
    program.flag.signal = (after (calls moves)).signal := by
  cases h <;> rfl

/-- A call that is made as a whole when it begins leaves the flag as it should. -/
lemma leaves_concat (moves : List Move) {move : Move} (h : move.call? = some call) :
    Leaves (moves ++ [move]) ⟨⟨call.requests, call.names (after (calls moves)).signal⟩, none⟩ := by
  rw [← after_calls_concat moves h]
  refine .settled fun during requests hmoves => ?_
  obtain ⟨-, rfl⟩ := List.append_singleton_inj.mp hmoves
  cases h

/-- What the first step of a call makes of a program left by a run. -/
lemma Leaves.begin (h : Leaves moves ⟨flag, none⟩) (call : Call) :
    Leaves (moves ++ [.begin call]) (.proceed (call.routine.advance flag)) := by
  have hsignal : flag.signal = (after (calls moves)).signal := h.signal_eq
  have hcall : (Move.begin call).call? = some call := rfl
  rcases call.advance_routine flag with hadvance | ⟨rfl, hadvance⟩
  · have hwithin : Leaves (moves ++ [.begin call]) ⟨⟨flag.requested, _⟩, some call.lastStep⟩ :=
      .within (interrupted_begin moves call)
    rw [after_calls_concat moves hcall, ← hsignal] at hwithin
    rwa [hadvance]
  · rw [hadvance, hsignal]
    exact leaves_concat moves hcall

/-- What the last step of a call makes of a program left by a run. -/
lemma Leaves.advance (h : Leaves moves ⟨flag, some rest⟩) :
    Leaves (moves ++ [.advance]) (.proceed (rest.advance flag)) := by
  cases h with
  | @within call requests requested h =>
    have hcalls := calls_concat_advance moves
    cases call with
    | reset =>
      rw [← hcalls]
      exact .reset rfl h
    | request request =>
      -- What arrived within the call left a request, and so does the call: their order is of no matter.
      obtain ⟨earlier, hearlier⟩ := h.calls_eq
      have hrequested : true = (after (calls moves)).requested := by
        rw [hearlier, after_append_requests earlier requests rfl]
      have hsettled : Leaves (moves ++ [.advance]) ⟨after (calls (moves ++ [.advance])), none⟩ := by
        refine .settled fun during requests hmoves hreset => ?_
        obtain ⟨rfl, -⟩ := List.append_singleton_inj.mp hmoves
        cases h.call_eq hreset
      have hflag : ⟨true, (after (calls moves)).signal⟩ = after (calls moves) := by
        rw [hrequested]
      rwa [hcalls, ← hflag] at hsettled

/-- What a request that arrives makes of a program left by a run. -/
lemma Leaves.arrive (h : Leaves moves program) (request : Request) :
    Leaves (moves ++ [.arrive request])
      { program with flag := ((Call.request request).routine.run program.flag).2 } := by
  have hcall : (Move.arrive request).call? = some (.request request) := rfl
  rw [Call.run_routine, h.signal_eq]
  cases h with
  | settled _ => exact leaves_concat moves hcall
  | reset _ _ => exact leaves_concat moves hcall
  | within h =>
    rw [← after_calls_concat moves hcall]
    exact .within (h.arrive request)

/-- What one thing that happens makes of a program left by a run. -/
lemma Leaves.move (h : Leaves moves program) {move : Move}
    (hmove : program.move move = some next) : Leaves (moves ++ [move]) next := by
  obtain ⟨flag, rest⟩ := program
  cases move with
  | begin call =>
    cases rest with
    | none =>
      obtain rfl := Option.some.inj hmove
      exact h.begin call
    | some rest => cases hmove
  | advance =>
    cases rest with
    | none => cases hmove
    | some rest =>
      obtain rfl := Option.some.inj hmove
      exact h.advance
  | arrive request =>
    obtain rfl := Option.some.inj hmove
    exact h.arrive request

/-- What a run leaves. -/
lemma leaves_of_run (h : Program.start.run moves = some program) : Leaves moves program := by
  induction moves using List.reverseRecOn generalizing program with
  | nil =>
    obtain rfl := Option.some.inj h
    exact .settled fun during requests h => by simp at h
  | append_singleton moves move ih =>
    rw [Program.run, List.foldlM_append] at h
    obtain ⟨before, hbefore, hmove⟩ := Option.bind_eq_some_iff.mp h
    simp only [List.foldlM_cons, List.foldlM_nil, bind_pure] at hmove
    exact (ih hbefore).move hmove

/-- A flag without a call that is going on has a name and no request just if the run splits a reset. -/
lemma Leaves.named_iff (h : Leaves moves ⟨flag, none⟩) :
    (flag.requested = false ∧ flag.signal ≠ none) ↔ SplitsReset moves := by
  cases h with
  | settled h =>
    constructor
    · intro hnamed
      exact absurd hnamed (not_named_only_after _)
    · rintro ⟨during, requests, signal, hmoves, hreset, -⟩
      exact absurd hreset (h during requests hmoves)
  | @reset during requests hmoves h =>
    subst hmoves
    rw [calls_concat_advance]
    constructor
    · rintro ⟨-, hsignal⟩
      obtain ⟨earlier, hcalls⟩ := h.calls_eq
      rw [hcalls, signal_after_reset] at hsignal
      obtain ⟨signal, hmem⟩ := hsignal
      exact ⟨during, requests, signal, rfl, h, hmem⟩
    · rintro ⟨during', requests', signal, hmoves, h', hmem⟩
      obtain ⟨rfl, -⟩ := List.append_singleton_inj.mp hmoves
      obtain ⟨earlier, hcalls⟩ := h'.calls_eq
      refine ⟨rfl, ?_⟩
      rw [hcalls, signal_after_reset]
      exact ⟨signal, hmem⟩

/-- A reset that leaves no name might as well have come after the requests that arrived within it. -/
lemma exists_order_of_reset (h : Interrupted moves .reset requests) :
    ∃ order, order.Perm (calls moves) ∧ after order = ⟨false, none⟩ := by
  obtain ⟨earlier, hcalls⟩ := h.calls_eq
  refine ⟨earlier ++ requests.map .request ++ [.reset], ?_, after_concat _ _⟩
  rw [hcalls, List.append_assoc]
  exact (List.perm_append_singleton _ _).append_left earlier

/-- A flag without a call that is going on is as the calls leave it in some order unless it has a name and
no request. -/
lemma Leaves.exists_order_iff (h : Leaves moves ⟨flag, none⟩) :
    (∃ order, order.Perm (calls moves) ∧ after order = flag) ↔
      ¬(flag.requested = false ∧ flag.signal ≠ none) := by
  constructor
  · rintro ⟨order, -, rfl⟩
    exact not_named_only_after order
  · intro hnamed
    cases h with
    | settled _ => exact ⟨calls moves, .refl _, rfl⟩
    | @reset during requests hmoves h =>
      have hsignal : (after (calls moves)).signal = none := by
        by_contra hsignal
        exact hnamed ⟨rfl, hsignal⟩
      rw [hsignal, hmoves, calls_concat_advance]
      exact exists_order_of_reset h

/-- **A named request within a reset is all that can keep a flag from being as the calls leave it in some
order.** Let requests arrive between the steps of the calls of a program. When no call is going on, the
flag is as these calls and requests leave it in some order in which nothing interrupts them, unless the
last thing to happen is that a reset ends and a named request has arrived since it began. In that case, and
in no other, the flag has a name but no request. -/
theorem ordered_unless_reset_split (hrun : Program.start.run moves = some program)
    (hrest : program.rest = none) :
    ((∃ order, order.Perm (calls moves) ∧ after order = program.flag) ↔ ¬SplitsReset moves) ∧
      ((program.flag.requested = false ∧ program.flag.signal ≠ none) ↔ SplitsReset moves) := by
  obtain ⟨flag, rest⟩ := program
  obtain rfl : rest = none := hrest
  have hleaves := leaves_of_run hrun
  exact ⟨hleaves.exists_order_iff.trans (not_congr hleaves.named_iff), hleaves.named_iff⟩

/-- A reset wipes a request without a name that arrives within it, and a request takes the name of one that
arrives within it. -/
theorem ordered_if_plain_request_within_reset :
    let moves := [.begin .reset, .arrive .plain, .advance, .begin (.request (.named .hangup)),
      .arrive (.named .interrupt), .advance]
    Program.start.run moves = some ⟨⟨true, some .interrupt⟩, none⟩ ∧
      ∃ order, order.Perm (calls moves) ∧ after order = ⟨true, some .interrupt⟩ := by
  intro moves
  have hrun : Program.start.run moves = some ⟨⟨true, some .interrupt⟩, none⟩ := rfl
  obtain ⟨hordered, hnamed⟩ := ordered_unless_reset_split hrun rfl
  exact ⟨hrun, hordered.mpr fun hsplit => nomatch (hnamed.mpr hsplit).1⟩

/-- A reset takes only the half of a named request that arrives within it: there is no request then, but a
name, which no order of the two accounts for. -/
theorem name_left_by_reset :
    let moves := [.begin .reset, .arrive (.named .hangup), .advance]
    Program.start.run moves = some ⟨⟨false, some .hangup⟩, none⟩ ∧
      ∀ order : List Call, order.Perm (calls moves) → after order ≠ ⟨false, some .hangup⟩ := by
  refine ⟨rfl, fun order _ hafter => ?_⟩
  have hnamed := not_named_only_after order
  rw [hafter] at hnamed
  exact hnamed ⟨rfl, Option.some_ne_none _⟩

end PrefetchInfo.AbortFlag
