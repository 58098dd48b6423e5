import PrefetchInfo.Error.Chain
import PrefetchInfo.Interrupt.Routine
import PrefetchInfo.Interrupt.Signal

/-!
# Abort flags

An abort flag carries a request to stop from an interruption handler to the work that is to be
stopped, which looks at the flag now and then. A request on behalf of an interruption names it before
it is seen, and the name is cleared before the request.
-/

namespace PrefetchInfo

/-- A request to stop. -/
structure AbortFlag where
  /-- Whether somebody asks to stop. -/
  requested : Bool := false
  /-- The interruption on whose behalf, if there is one. -/
  signal : Option Signal := none
  deriving DecidableEq, Repr

namespace AbortFlag

/-- Asks to stop. -/
def request : Routine AbortFlag Unit :=
  Routine.atomically fun flag => ((), { flag with requested := true })

/-- Asks to stop on behalf of an interruption. -/
def requestFrom (signal : Signal) : Routine AbortFlag Unit := do
  Routine.atomically fun flag => ((), { flag with signal := some signal })
  request

/-- Takes a request back. -/
def reset : Routine AbortFlag Unit := do
  Routine.atomically fun flag => ((), { flag with signal := none })
  Routine.atomically fun flag => ((), { flag with requested := false })

/-- Fails once somebody asks to stop. -/
def check (flag : AbortFlag) : Except ErrorChain Unit :=
  if flag.requested then .error (.single (.runtime .abortRequested) "abort requested") else .ok ()

end AbortFlag

end PrefetchInfo
