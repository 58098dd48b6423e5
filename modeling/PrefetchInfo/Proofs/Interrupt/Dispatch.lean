import PrefetchInfo.Proofs.History
import PrefetchInfo.Proofs.Interrupt.Trapping
import PrefetchInfo.Proofs.Status.Causes

/-!
# Which handler is invoked

A program attaches and detaches handlers through any number of controllers, with status codes or without
them, and the codes of interruptions are passed to the trap in between. The controllers have no state of
their own: they all stand for the one trap of the process. As long as the platform does what it is asked,
the history of the requests determines which handlers are invoked, and with what: each trapped
interruption goes to the handler attached last, unless it has been detached. If a handler makes requests
itself, they follow the request that invoked it.
-/

namespace PrefetchInfo

namespace Signal

/-- An interruption is found by its code, and by no other code. -/
lemma ofRaw?_eq_some_iff {raw : Int32} {signal : Signal} :
    ofRaw? raw = some signal ↔ signal.raw = raw := by
  constructor
  · intro h
    have hfound := List.find?_some (show all.find? (fun other => other.raw = raw) = some signal from h)
    exact of_decide_eq_true hfound
  · rintro rfl
    cases signal <;> decide

/-- Three codes are those of interruptions that are trapped. -/
lemma isSome_ofRaw?_iff {raw : Int32} :
    (ofRaw? raw).isSome = true ↔ raw = 2 ∨ raw = 1 ∨ raw = 15 := by
  constructor
  · intro h
    obtain ⟨signal, hsignal⟩ := Option.isSome_iff_exists.mp h
    have hraw := ofRaw?_eq_some_iff.mp hsignal
    cases signal with
    | interrupt => exact .inl hraw.symm
    | hangup => exact .inr (.inl hraw.symm)
    | terminate => exact .inr (.inr hraw.symm)
  · rintro (rfl | rfl | rfl) <;> decide

end Signal

namespace Dispatch

variable {κ η : Type}

/-! ### Requests -/

/-- Something that is asked of the trap, through a controller or by the platform. -/
inductive Request (κ η : Type) where
  /-- A handler is attached. -/
  | attach (controller : κ) (handler : η)
  /-- The handler is detached. -/
  | detach (controller : κ)
  /-- A handler is attached, if there is one, by a caller who wants a status. -/
  | attachStatus (controller : κ) (handler : Option η)
  /-- The handler is detached by a caller who wants a status. -/
  | detachStatus (controller : κ)
  /-- A code is passed to the trap. -/
  | deliver (raw : Int32)

/-- The handler that a request puts in the place of the one before, or that there is none from then on;
nothing for a request that leaves the one before in its place. -/
def Request.settles : Request κ η → Option (Option η)
  | attach _ handler | attachStatus _ (some handler) => some (some handler)
  | detach _ | detachStatus _ => some none
  | attachStatus _ none | deliver _ => none

/-- The handler that is attached after requests, given the one attached before them. -/
def attached (before : Option η) (requests : List (Request κ η)) : Option η :=
  lastSettled Request.settles before requests

/-- The invocation that a code leads to while the given handler, if any, is attached. -/
def invocation (current : Option η) (raw : Int32) : List (Signal × η) :=
  (Signal.ofRaw? raw).toList.flatMap fun signal => current.toList.map (signal, ·)

/-- The invocation that a request leads to: only that of a code does. -/
def Request.invokes (current : Option η) : Request κ η → List (Signal × η)
  | deliver raw => invocation current raw
  | _ => []

/-- A request that settles which handler is attached invokes none. -/
lemma Request.invokes_of_settles {request : Request κ η} {next : Option η}
    (h : request.settles = some next) (current : Option η) : request.invokes current = [] := by
  cases request with
  | deliver raw => cases h
  | attach controller handler => rfl
  | detach controller => rfl
  | attachStatus controller handler => rfl
  | detachStatus controller => rfl

/-- The invocations that requests lead to, given the handler attached before them. -/
def invocations (before : Option η) : List (Request κ η) → List (Signal × η)
  | [] => []
  | request :: requests =>
    request.invokes before ++ invocations (request.settles.getD before) requests

/-! ### Programs -/

/-- What a request is answered with. -/
inductive Answer where
  /-- What came of attaching a handler. -/
  | attached (result : Except ErrorChain Unit)
  /-- The handler is detached. -/
  | detached
  /-- A status. -/
  | reported (status : Int)
  /-- Whether the code is that of an interruption that is trapped. -/
  | trapped (whether : Bool)

/-- The request was not refused. -/
def Answer.Succeeded : Answer → Prop
  | .attached result => result = .ok ()
  | .reported status => status = Status.success
  | .detached | .trapped _ => True

/-- A program with controllers, as far as it matters for interruptions. -/
structure Program (η : Type) where
  /-- The trap of the process, which all controllers share. -/
  trap : Trap η
  /-- The slot for errors. -/
  slot : Option ErrorChain
  /-- The invocations of handlers so far, in order. -/
  invoked : List (Signal × η)

namespace Program

/-- A program that has just started, with a slot for errors. -/
def start (slot : Option ErrorChain) : Program η :=
  ⟨.unset, slot, []⟩

/-- Whether a handler is attached, as a controller has it. -/
def isAttached (program : Program η) (_controller : κ) : Bool :=
  program.trap.isAttached

/-- The program with the trap and the slot that a call with a status leaves. -/
def reporting (program : Program η) (result : Status.SignalResult × Trap η) : Answer × Program η :=
  (.reported result.1.status, { program with trap := result.2, slot := result.1.slot })

variable [DecidableEq η]

/-- The answer to a request, and the program after it, on a platform that does what it is asked. -/
def perform (program : Program η) : Request κ η → Answer × Program η
  | .attach _ handler =>
    let ((result, _), trap) := (Trap.attach .willing handler).run program.trap
    (.attached result, { program with trap })
  | .detach _ =>
    let (_, trap) := (Trap.detach .willing).run program.trap
    (.detached, { program with trap })
  | .attachStatus _ handler =>
    program.reporting ((Status.signalAttach .willing handler program.slot).run program.trap)
  | .detachStatus _ =>
    program.reporting ((Status.signalDetach .willing program.slot).run program.trap)
  | .deliver raw =>
    match program.trap.dispatch raw with
    | none => (.trapped false, program)
    | some (signal, handler) =>
      (.trapped true, { program with invoked := program.invoked ++ handler.toList.map (signal, ·) })

/-- The program after requests, one after the other. -/
def run (program : Program η) (requests : List (Request κ η)) : Program η :=
  requests.foldl (fun program request => (program.perform request).2) program

end Program

/-! ### One request -/

namespace Program

variable [DecidableEq η] (program : Program η)

/-- A code that is passed to the trap is recognized just if it is that of an interruption, which is then
passed on to the handler; nothing else changes. -/
lemma perform_deliver (raw : Int32) :
    program.perform (.deliver raw : Request κ η) =
      (.trapped (Signal.ofRaw? raw).isSome,
        { program with invoked := program.invoked ++ invocation program.trap.handler raw }) := by
  rcases hsignal : Signal.ofRaw? raw with _ | signal
  · simp only [perform, Trap.dispatch, invocation, hsignal, Option.map_none, Option.isSome_none,
      Option.toList_none, List.flatMap_nil, List.append_nil]
  · simp only [perform, Trap.dispatch, invocation, hsignal, Option.map_some, Option.isSome_some,
      Option.toList_some, List.flatMap_singleton]

/-- A request that attaches a handler or detaches it succeeds. It changes nothing but the trap. -/
lemma perform_of_settles {request : Request κ η} {next : Option η}
    (h : request.settles = some next) :
    (program.perform request).1.Succeeded ∧
      (program.perform request).2.trap.handler = next ∧
      (program.perform request).2.slot = program.slot ∧
      (program.perform request).2.invoked = program.invoked := by
  have hattach := fun handler : η => Trap.run_attach_willing handler program.trap
  have hdetach := Trap.run_detach_willing program.trap
  cases request with
  | attach controller handler =>
    obtain rfl := Option.some.inj h
    exact ⟨(hattach handler).1, (hattach handler).2, rfl, rfl⟩
  | detach controller =>
    obtain rfl := Option.some.inj h
    exact ⟨trivial, hdetach, rfl, rfl⟩
  | attachStatus controller handler =>
    cases handler with
    | none => cases h
    | some handler =>
      obtain rfl := Option.some.inj h
      obtain ⟨hok, hhandler⟩ := hattach handler
      rcases hrun : (Trap.attach .willing handler).run program.trap with ⟨⟨result, events⟩, trap⟩
      rw [hrun] at hok hhandler
      obtain rfl : result = .ok () := hok
      simp only [perform, Status.signalAttach, Routine.run_bind, hrun]
      exact ⟨rfl, hhandler, rfl, rfl⟩
  | detachStatus controller =>
    obtain rfl := Option.some.inj h
    simp only [perform, Status.signalDetach, Routine.run_bind]
    exact ⟨rfl, hdetach, rfl, rfl⟩
  | deliver raw => cases h

/-- Without a handler to attach, a call with a status changes nothing but the slot. -/
lemma perform_attachStatus_none (controller : κ) :
    program.perform (.attachStatus controller none) =
      (.reported Status.failure, { program with
        slot := ErrorChain.set program.slot (.argument .invalidValue) "invalid signal handler" }) :=
  rfl

/-- A request leaves the handler that it settles, or the one before, and leads to the invocation that it
should. -/
lemma perform_spec (request : Request κ η) :
    (program.perform request).2.trap.handler = request.settles.getD program.trap.handler ∧
      (program.perform request).2.invoked =
        program.invoked ++ request.invokes program.trap.handler := by
  rcases hsettles : request.settles with _ | next
  · cases request with
    | attachStatus controller handler =>
      cases handler with
      | none => exact ⟨rfl, (List.append_nil _).symm⟩
      | some handler => cases hsettles
    | deliver raw =>
      rw [perform_deliver]
      exact ⟨rfl, rfl⟩
    | attach controller handler => cases hsettles
    | detach controller => cases hsettles
    | detachStatus controller => cases hsettles
  · obtain ⟨-, hhandler, -, hinvoked⟩ := program.perform_of_settles hsettles
    refine ⟨hhandler, ?_⟩
    rw [hinvoked, Request.invokes_of_settles hsettles, List.append_nil]

end Program

/-! ### A whole history -/

/-- A handler that is not attached is not invoked until it is attached again. -/
lemma notMem_invocations {handler : η} {before : Option η} {requests : List (Request κ η)}
    (hbefore : before ≠ some handler)
    (hrequests : ∀ request ∈ requests, request.settles ≠ some (some handler)) (signal : Signal) :
    (signal, handler) ∉ invocations before requests := by
  induction requests generalizing before with
  | nil => exact List.not_mem_nil
  | cons request requests ih =>
    have hothers := fun other hother => hrequests other (List.mem_cons_of_mem _ hother)
    have hrequest := hrequests request List.mem_cons_self
    have hnext : request.settles.getD before ≠ some handler := by
      rcases hsettles : request.settles with _ | next
      · exact hbefore
      · rw [hsettles] at hrequest
        exact fun hnext => hrequest (congrArg some hnext)
    rw [invocations, List.mem_append, not_or]
    refine ⟨?_, ih hnext hothers⟩
    cases request with
    | deliver raw =>
      rw [Request.invokes, invocation, List.mem_flatMap]
      rintro ⟨other, -, hmem⟩
      obtain ⟨current, hcurrent, heq⟩ := List.mem_map.mp hmem
      obtain ⟨rfl, rfl⟩ := Prod.mk.inj heq
      exact hbefore (Option.mem_toList.mp hcurrent)
    | attach controller handler => exact List.not_mem_nil
    | detach controller => exact List.not_mem_nil
    | attachStatus controller handler => exact List.not_mem_nil
    | detachStatus controller => exact List.not_mem_nil

namespace Program

variable [DecidableEq η]

/-- After requests the handler is attached that should be, and the handlers have been invoked that should
have been. -/
lemma run_spec (program : Program η) (requests : List (Request κ η)) :
    (program.run requests).trap.handler = attached program.trap.handler requests ∧
      (program.run requests).invoked =
        program.invoked ++ invocations program.trap.handler requests := by
  induction requests generalizing program with
  | nil => exact ⟨rfl, (List.append_nil _).symm⟩
  | cons request requests ih =>
    obtain ⟨hhandler, hinvoked⟩ := program.perform_spec request
    obtain ⟨hhandlers, hall⟩ := ih (program.perform request).2
    rw [hhandler] at hhandlers hall
    refine ⟨hhandlers, ?_⟩
    change (run _ requests).invoked = _
    rw [hall, hinvoked, invocations, List.append_assoc]

end Program

/-- **Interruptions reach the handler attached last.**  After any requests, through any controllers, the
handler of the latest request that has attached one is attached, unless it has been detached since, and
all controllers agree on whether there is one. A code is recognized just if it is that of an interruption
which is trapped; then the handler that is attached, if there is one, is invoked once, with that
interruption, and otherwise nothing happens. So the invocations so far are those that the requests should
have led to, and a handler that has been replaced or detached is not invoked before it is attached again.
Requests to attach a handler and to detach it succeed; one with no handler changes nothing but the
slot. -/
theorem reaches_attached_handler [DecidableEq η] (slot : Option ErrorChain)
    (requests : List (Request κ η)) :
    let program : Program η := (Program.start slot).run requests
    (∀ handler, attached none requests = some handler ↔
      ∃ earlier request later, requests = earlier ++ request :: later ∧
        request.settles = some (some handler) ∧ ∀ other ∈ later, other.settles = none) ∧
    (∀ controller : κ, program.isAttached controller = (attached none requests).isSome) ∧
    (∀ raw : Int32, ∃ recognized,
      (program.perform (.deliver raw : Request κ η)).1 = .trapped recognized ∧
      (recognized = true ↔ raw = 2 ∨ raw = 1 ∨ raw = 15)) ∧
    (∀ signal : Signal,
      (program.perform (.deliver signal.raw : Request κ η)).2 =
        { program with
          invoked := program.invoked ++ (attached none requests).toList.map (signal, ·) }) ∧
    (∀ raw : Int32, (∀ signal : Signal, signal.raw ≠ raw) →
      (program.perform (.deliver raw : Request κ η)).2 = program) ∧
    program.invoked = invocations none requests ∧
    (∀ earlier later handler, requests = earlier ++ later → attached none earlier ≠ some handler →
      (∀ request ∈ later, request.settles ≠ some (some handler)) →
      ∃ added, program.invoked = ((Program.start slot).run earlier).invoked ++ added ∧
        ∀ signal, (signal, handler) ∉ added) ∧
    (∀ request : Request κ η, request.settles ≠ none →
      (program.perform request).1.Succeeded ∧ (program.perform request).2.slot = program.slot) ∧
    (∀ controller : κ,
      program.perform (.attachStatus controller none) =
        (.reported Status.failure, { program with
          slot := ErrorChain.set program.slot (.argument .invalidValue)
            "invalid signal handler" })) := by
  intro program
  obtain ⟨hhandler, hinvoked⟩ : program.trap.handler = attached none requests ∧
      program.invoked = invocations none requests := (Program.start slot).run_spec requests
  have hdeliver : ∀ raw, program.perform (.deliver raw : Request κ η) =
      (.trapped (Signal.ofRaw? raw).isSome, { program with
        invoked := program.invoked ++ invocation (attached none requests) raw }) := by
    intro raw
    rw [program.perform_deliver raw, hhandler]
  refine ⟨fun handler => ?_, fun controller => ?_, fun raw => ?_, fun signal => ?_,
    fun raw hraw => ?_, hinvoked, ?_, fun request hrequest => ?_, fun controller => ?_⟩
  · rw [attached, lastSettled_eq_iff]
    simp only [reduceCtorEq, false_and, or_false]
  · exact congrArg Option.isSome hhandler
  · refine ⟨(Signal.ofRaw? raw).isSome, ?_, Signal.isSome_ofRaw?_iff⟩
    rw [hdeliver]
  · have hfound : Signal.ofRaw? signal.raw = some signal := Signal.ofRaw?_eq_some_iff.mpr rfl
    rw [hdeliver, invocation, hfound, Option.toList_some, List.flatMap_singleton]
  · have hnone : Signal.ofRaw? raw = none := by
      rw [Option.eq_none_iff_forall_ne_some]
      intro signal hsignal
      exact hraw signal (Signal.ofRaw?_eq_some_iff.mp hsignal)
    rw [hdeliver, invocation, hnone, Option.toList_none, List.flatMap_nil, List.append_nil]
  · rintro earlier later handler rfl hreplaced hlater
    obtain ⟨hbetween, -⟩ := (Program.start slot).run_spec earlier
    obtain ⟨-, hadded⟩ := ((Program.start slot).run earlier).run_spec later
    rw [hbetween] at hadded
    refine ⟨invocations (attached none earlier) later, ?_, notMem_invocations hreplaced hlater⟩
    simp only [program, Program.run, List.foldl_append]
    exact hadded
  · obtain ⟨next, hnext⟩ := Option.ne_none_iff_exists'.mp hrequest
    obtain ⟨hsucceeded, -, hslot, -⟩ := program.perform_of_settles hnext
    exact ⟨hsucceeded, hslot⟩
  · exact program.perform_attachStatus_none controller

/-- The handler 1 is replaced through a second controller, a request without a handler fails, and a code
that is not trapped is passed over. -/
example :
    let requests : List (Request Nat Nat) := [.attach 0 1, .deliver 2, .attach 1 2, .attachStatus 0 none,
      .deliver 1, .deliver (-1), .detachStatus 1, .deliver 15]
    ((Program.start none).run requests).invoked = [(.interrupt, 1), (.hangup, 2)] := by
  decide

end Dispatch

end PrefetchInfo
