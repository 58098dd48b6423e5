import Mathlib.Tactic.Lemma

/-!
# What was settled last

Of the things that happen one after the other some settle a matter and others leave it as it was. The
history decides how the matter stands in the end: as the latest of those has settled it.
-/

namespace PrefetchInfo

variable {α β : Type}

/-- How a matter stands after a history: as the latest event that settles it says, or as it stood before
if none does. -/
def lastSettled (settles : α → Option β) (before : β) (history : List α) : β :=
  history.foldl (fun current event => (settles event).getD current) before

variable {settles : α → Option β} {before value : β} {history : List α}

/-- After its first event a history goes on from what this one has settled. -/
lemma lastSettled_cons (first : α) :
    lastSettled settles before (first :: history) =
      lastSettled settles ((settles first).getD before) history :=
  rfl

/-- A matter stands as it does because an event has settled it so, and none after that has settled it, or
because none has settled it at all. -/
lemma lastSettled_eq_iff :
    lastSettled settles before history = value ↔
      (∃ earlier event later, history = earlier ++ event :: later ∧
        settles event = some value ∧ ∀ other ∈ later, settles other = none) ∨
      (before = value ∧ ∀ other ∈ history, settles other = none) := by
  induction history generalizing before with
  | nil =>
    constructor
    · intro h
      exact .inr ⟨h, fun _ hother => absurd hother List.not_mem_nil⟩
    · rintro (⟨earlier, event, later, hhistory, -⟩ | ⟨h, -⟩)
      · cases earlier <;> cases hhistory
      · exact h
  | cons first history ih =>
    rw [lastSettled_cons, ih]
    constructor
    · rintro (⟨earlier, event, later, rfl, hevent, hlater⟩ | ⟨hfirst, hothers⟩)
      · exact .inl ⟨first :: earlier, event, later, rfl, hevent, hlater⟩
      · rcases hsettles : settles first with _ | next
        · rw [hsettles] at hfirst
          exact .inr ⟨hfirst, List.forall_mem_cons.mpr ⟨hsettles, hothers⟩⟩
        · rw [hsettles] at hfirst
          obtain rfl : next = value := hfirst
          exact .inl ⟨[], first, history, rfl, hsettles, hothers⟩
    · rintro (⟨earlier, event, later, hhistory, hevent, hlater⟩ | ⟨hbefore, hall⟩)
      · rcases earlier with _ | ⟨other, earlier⟩
        · obtain ⟨rfl, rfl⟩ := List.cons.inj hhistory
          exact .inr ⟨by rw [hevent]; rfl, hlater⟩
        · obtain ⟨rfl, rfl⟩ := List.cons.inj hhistory
          exact .inl ⟨earlier, event, later, rfl, hevent, hlater⟩
      · obtain ⟨hfirst, hothers⟩ := List.forall_mem_cons.mp hall
        exact .inr ⟨by rw [hfirst]; exact hbefore, hothers⟩

end PrefetchInfo
