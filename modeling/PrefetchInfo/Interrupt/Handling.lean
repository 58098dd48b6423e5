import PrefetchInfo.Allocation.Report
import PrefetchInfo.Interrupt.Trap

/-!
# Handling an interruption

A process that counts its allocations reports them each time that it handles an interruption, before the
handler is called, and whether or not one is attached. A code that is not trapped leads to nothing.
-/

namespace PrefetchInfo

open Allocation (Statistics)

/-- What a code passed to the trap leads to, for handlers named by `η`. -/
structure Handling (η : Type) where
  /-- Whether the code is that of an interruption that is trapped. -/
  recognized : Bool
  /-- What is handed to standard error first, write by write. -/
  written : List Bytes
  /-- The interruption and the handler that is called with it then. -/
  called : Option (Signal × η)
  deriving DecidableEq, Repr

/-- What a code passed to the trap leads to in a process that counts its allocations. -/
def Trap.handle {η : Type} (trap : Trap η) (statistics : Statistics) (raw : Int32) : Handling η :=
  match trap.dispatch raw with
  | none => ⟨false, [], none⟩
  | some (signal, handler) =>
    ⟨true, (Allocation.report? statistics).toList, handler.map fun handler => (signal, handler)⟩

end PrefetchInfo
