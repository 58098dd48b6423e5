import PrefetchInfo.Error.Chain
import PrefetchInfo.Event
import PrefetchInfo.Interrupt.Routine
import PrefetchInfo.Interrupt.Signal

/-!
# The interruption trap

A process has one slot for an interruption handler. While a handler is attached, the interruptions
are trapped: instead of ending the process they are passed to the handler. Attaching publishes the
handler before the first interruption is trapped, and detaching gives all interruptions back to the
platform before it withdraws the handler, so a trapped interruption always finds one.
-/

namespace PrefetchInfo

/-- The state of the trap, for handlers named by `η`. -/
structure Trap (η : Type) where
  /-- The handler that trapped interruptions are passed to. -/
  handler : Option η
  /-- Whether the interruptions are known to be trapped. -/
  armed : Bool
  /-- The interruptions the platform passes to the trap; any other ends the process. -/
  trapped : Signal → Bool
  /-- The codes of memory faults that were reported to the process before. -/
  faults : List Int32

/-- What the platform answers when it is asked to trap an interruption or to stop doing so. -/
structure Platform where
  /-- Why it does not trap an interruption, if it does not. -/
  refusesTrap : Signal → Option Failure
  /-- Why it goes on trapping an interruption, if it does. -/
  refusesRelease : Signal → Option Failure

/-- The platform that does what it is asked. -/
def Platform.willing : Platform :=
  ⟨fun _ => none, fun _ => none⟩

namespace Trap

variable {η : Type}

/-- The trap of a process that has just started. -/
def unset : Trap η :=
  ⟨none, false, fun _ => false, []⟩

/-- Whether a handler is attached. -/
def isAttached (trap : Trap η) : Bool :=
  trap.handler.isSome

/-- The trap with the disposition of one interruption changed. -/
def dispose (trap : Trap η) (signal : Signal) (trapped : Bool) : Trap η :=
  { trap with trapped := fun other => if other = signal then trapped else trap.trapped other }

/-! ### Asking the platform -/

/-- Asks the platform to change the disposition of interruptions, one after the other, up to the first
that it refuses to change. -/
def disposeAll (refuses : Signal → Option Failure) (trapped : Bool) :
    List Signal → Routine (Trap η) (Except Failure Unit)
  | [] => pure (.ok ())
  | signal :: signals => do
    match refuses signal with
    | some failure => Routine.atomically fun trap => (.error failure, trap)
    | none =>
      Routine.atomically fun trap => ((), trap.dispose signal trapped)
      disposeAll refuses trapped signals

/-- Gives all interruptions back to the platform. -/
def uninstall (platform : Platform) : Routine (Trap η) (Except Failure Unit) :=
  disposeAll platform.refusesRelease false Signal.all

/-- Has all interruptions trapped, or none of them. -/
def install (platform : Platform) : Routine (Trap η) (Except Failure Unit) := do
  match ← disposeAll platform.refusesTrap true Signal.all with
  | .ok () => pure (.ok ())
  | .error failure =>
    let _ ← uninstall platform
    pure (.error failure)

/-! ### Attaching and detaching -/

/-- Attaches a handler in place of the one before. If the interruptions cannot be trapped, the one
before stays. -/
def attach [DecidableEq η] (platform : Platform) (handler : η) :
    Routine (Trap η) (Except ErrorChain Unit × List Event) := do
  let previous ← Routine.atomically fun trap => (trap.handler, { trap with handler := some handler })
  let replaced : List Event :=
    if previous.isSome ∧ previous ≠ some handler then [.handlerReplaced] else []
  let armed ← Routine.atomically fun trap => (trap.armed, trap)
  if armed then pure (.ok (), replaced)
  else
    match ← install platform with
    | .ok () =>
      Routine.atomically fun trap => ((), { trap with armed := true })
      pure (.ok (), .trapRegistered :: replaced)
    | .error failure =>
      Routine.atomically fun trap => ((), { trap with handler := previous })
      pure (context (.error failure) (.runtime .setFailed) "unable to register interruption trap", [])

/-- Detaches the handler, if there is one, and lets the platform end the process again. -/
def detach (platform : Platform) : Routine (Trap η) (List Event) := do
  let armed ← Routine.atomically fun trap => (trap.armed, { trap with armed := false })
  let events : List Event ←
    if armed then do
      match ← uninstall platform with
      | .ok () => pure [.trapRemoved]
      | .error failure => pure [.trapRemovalFailed failure]
    else pure []
  Routine.atomically fun trap => ((), { trap with handler := none })
  pure events

/-! ### Interruptions -/

/-- What becomes of a code passed to the trap: the interruption it stands for and the handler that is
called with it; nothing for a code that is not trapped. -/
def dispatch (trap : Trap η) (raw : Int32) : Option (Signal × Option η) :=
  (Signal.ofRaw? raw).map fun signal => (signal, trap.handler)

/-- What an interruption of the process leads to. -/
inductive Arrival (η : Type) where
  /-- No such code can be sent. -/
  | refused
  /-- The platform ends the process. -/
  | ends
  /-- Nothing happens. -/
  | ignored
  /-- The handler, if there is one, is called with the interruption. -/
  | handled (signal : Signal) (handler : Option η)
  deriving DecidableEq, Repr

/-- The highest code of the platform. -/
def maxCode : Int32 := 64

/-- The codes that leave a process alone that does not trap them: zero, which only asks whether the
process is there, a broken pipe, which the process learns of when it writes, and the news of a child,
of being continued, of urgent data and of a changed window. -/
def harmless : List Int32 :=
  [0, 13, 17, 18, 23, 28]

/-- The codes of memory faults. A process looks for the fault when it is told of one for the first time
and, if there is none, goes on; the next time the platform decides. -/
def memoryFaults : List Int32 :=
  [7, 11]

/-- The codes that the threads of a process keep for themselves. -/
def reserved : List Int32 :=
  [32, 33]

/-- What becomes of a code that the platform delivers to the process, and the trap after that. -/
def arrive (trap : Trap η) (raw : Int32) : Arrival η × Trap η :=
  match trap.dispatch raw with
  | some (signal, handler) =>
    (if trap.trapped signal then .handled signal handler else .ends, trap)
  | none =>
    if raw < 0 ∨ maxCode < raw then (.refused, trap)
    else if raw ∈ harmless then (.ignored, trap)
    else if raw ∈ memoryFaults ∧ raw ∉ trap.faults then
      (.ignored, { trap with faults := raw :: trap.faults })
    else (.ends, trap)

/-- What becomes of a code that the process sends to itself, and the trap after that; the codes of its
threads cannot be sent in this way. -/
def raise (trap : Trap η) (raw : Int32) : Arrival η × Trap η :=
  if raw ∈ reserved then (.refused, trap) else trap.arrive raw

end Trap

end PrefetchInfo
