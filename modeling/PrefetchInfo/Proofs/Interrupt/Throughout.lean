import Mathlib.Tactic.Lemma
import PrefetchInfo.Interrupt.Routine

/-!
# What holds at every step of an operation

An interruption may arrive before any step of an operation and after the last one, and meets the state
as it is then. `Routine.Throughout` says that something holds in all of these states, and what holds
besides when the operation has ended. It is shown for an operation from what it is for its parts.
-/

namespace PrefetchInfo.Routine

variable {σ α β : Type} {P P' : σ → Prop} {Q Q' : α → σ → Prop} {s : σ}

/-- From a state on, `P` holds before each step of an operation and after the last one, and `Q` of its
value and of the state it leaves. -/
def Throughout (P : σ → Prop) (Q : α → σ → Prop) : Routine σ α → σ → Prop
  | finished value, s => P s ∧ Q value s
  | step effect next, s => P s ∧ (next s).Throughout P Q (effect s)

/-- What is left of an operation after its next step, and the state after that step. -/
def advance : Routine σ α → σ → Routine σ α × σ
  | finished value, s => (finished value, s)
  | step effect next, s => (next s, effect s)

/-- What holds throughout an operation holds now. -/
lemma Throughout.now {routine : Routine σ α} (h : routine.Throughout P Q s) : P s := by
  cases routine with
  | finished value => exact h.1
  | step effect next => exact h.1

/-- What holds throughout an operation holds throughout what is left of it. -/
lemma Throughout.advance {routine : Routine σ α} (h : routine.Throughout P Q s) :
    (routine.advance s).1.Throughout P Q (routine.advance s).2 := by
  cases routine with
  | finished value => exact h
  | step effect next => exact h.2

/-- What follows from what holds throughout an operation holds throughout it. -/
lemma Throughout.mono {routine : Routine σ α} (h : routine.Throughout P Q s)
    (hP : ∀ s, P s → P' s) (hQ : ∀ value s, P s → Q value s → Q' value s) :
    routine.Throughout P' Q' s := by
  induction routine generalizing s with
  | finished value => exact ⟨hP s h.1, hQ value s h.1 h.2⟩
  | step effect next ih => exact ⟨hP s h.1, ih s h.2⟩

/-! ### Parts of operations -/

/-- An operation without a step leaves the state alone. -/
lemma throughout_pure {value : α} :
    (pure value : Routine σ α).Throughout P Q s ↔ P s ∧ Q value s :=
  Iff.rfl

/-- An operation of a single step meets the state before it and the state after it. -/
lemma throughout_atomically {act : σ → α × σ} :
    (atomically act).Throughout P Q s ↔ P s ∧ P (act s).2 ∧ Q (act s).1 (act s).2 :=
  Iff.rfl

/-- Of two operations one after the other, the second begins where the first has ended. -/
lemma throughout_bind {first : Routine σ α} {rest : α → Routine σ β} {Q : β → σ → Prop} :
    (first >>= rest).Throughout P Q s ↔
      first.Throughout P (fun value s => (rest value).Throughout P Q s) s := by
  induction first generalizing s with
  | finished value =>
    constructor
    · intro h
      have hrest : (rest value).Throughout P Q s := h
      exact ⟨hrest.now, hrest⟩
    · intro h
      exact h.2
  | step effect next ih =>
    constructor
    · intro h
      exact ⟨h.1, (ih s).mp h.2⟩
    · intro h
      exact ⟨h.1, (ih s).mpr h.2⟩

end PrefetchInfo.Routine
