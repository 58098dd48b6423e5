/-!
# Operations that can be interrupted

An operation that shares state with an interruption handler is more than the change it makes: the
handler may run between any two of its steps. A `Routine` keeps those steps apart. Each of them acts
on the shared state at once and lets the rest of the operation depend on what it found there.
-/

namespace PrefetchInfo

/-- An operation on the shared state `σ` that ends with a value, step by step. -/
inductive Routine (σ α : Type) where
  /-- No step is left. -/
  | finished (value : α)
  /-- A step that acts on the state, and the steps that follow, which may depend on the state the
  step found. -/
  | step (effect : σ → σ) (next : σ → Routine σ α)

namespace Routine

variable {σ α β : Type}

/-- A step that acts on the state and finds something out. -/
def atomically (act : σ → α × σ) : Routine σ α :=
  .step (fun s => (act s).2) fun s => .finished (act s).1

/-- One operation after another, which may depend on the value of the first. -/
def andThen : Routine σ α → (α → Routine σ β) → Routine σ β
  | finished value, rest => rest value
  | step effect next, rest => step effect fun s => (next s).andThen rest

instance : Monad (Routine σ) where
  pure := finished
  bind := andThen

/-- An operation that nothing interrupts: its value, and the state it leaves. -/
def run : Routine σ α → σ → α × σ
  | finished value, s => (value, s)
  | step effect next, s => (next s).run (effect s)

end Routine

end PrefetchInfo
