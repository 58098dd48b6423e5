import PrefetchInfo.Proofs.Status.Causes

/-!
# Chains only grow

Whatever is done to an error slot, setting an error, appending a record, giving a failed result context,
or making a status call, adds records at the newest end of the chain in it and takes none away. So the
records that a slot holds at one time are the first of those that it holds later: the root cause stays
the record everything began with, and no kind that a chain contains is ever lost.
-/

namespace PrefetchInfo

/-! ### Context -/

section Context

variable {ε α σ : Type} [Cause ε] {result : Except ε α} {kind : ErrorKind} {message : String}
  {chain : ErrorChain}

/-- A result with context has failed just if the result had, and then its chain is that of the failure
with one more record. -/
lemma context_eq_error_iff :
    context result kind message = .error chain ↔
      ∃ cause, result = .error cause ∧ chain = (Cause.toChain cause).append kind message := by
  rcases result with cause | value
  · constructor
    · intro h
      exact ⟨cause, rfl, (Except.error.inj h).symm⟩
    · rintro ⟨_, hcause, rfl⟩
      cases hcause
      rfl
  · constructor
    · intro h
      cases h
    · rintro ⟨_, hcause, -⟩
      cases hcause

/-- Building the message only if it is needed gives the same result, and the state that building it once
leaves if the result has failed, and the state before otherwise. -/
lemma contextWith_eq (result : Except ε α) (kind : ErrorKind) (build : σ → String × σ) (s : σ) :
    contextWith result kind build s =
      (context result kind (build s).1,
        match result with
        | .ok _ => s
        | .error _ => (build s).2) := by
  rcases result with cause | value <;> rfl

end Context

namespace ErrorChain

open Status Notify

/-! ### Chains with the same beginning -/

variable {chain grown : ErrorChain}

/-- The records of a chain begin with its root cause and end with its latest record. -/
lemma records_ends (chain : ErrorChain) :
    chain.records.head? = some chain.rootCause ∧ chain.records.getLast? = some chain.latest := by
  obtain ⟨latest, causes⟩ := chain
  rw [records, newestFirst, List.head?_reverse, List.getLast?_reverse, List.getLast?_cons, rootCause,
    List.getLastD_eq_getLast?]
  exact ⟨rfl, rfl⟩

/-- A chain contains a kind just if one of its records is of that kind. -/
lemma contains_eq_true_iff {kind : ErrorKind} :
    chain.contains kind = true ↔ ∃ record ∈ chain.records, record.kind = kind := by
  simp only [contains, records, List.any_eq_true, List.mem_reverse, decide_eq_true_eq]

/-- A chain whose records begin with those of another has the same root cause. -/
lemma rootCause_of_prefix (h : chain.records <+: grown.records) :
    grown.rootCause = chain.rootCause := by
  obtain ⟨more, hrecords⟩ := h
  have hroot := (records_ends grown).1
  rw [← hrecords, List.head?_append, (records_ends chain).1] at hroot
  exact (Option.some.inj hroot).symm

/-- A chain whose records begin with those of another contains all kinds that this one contains. -/
lemma contains_of_prefix (h : chain.records <+: grown.records) {kind : ErrorKind}
    (hkind : chain.contains kind = true) : grown.contains kind = true := by
  obtain ⟨record, hmem, hrecord⟩ := contains_eq_true_iff.mp hkind
  exact contains_eq_true_iff.mpr ⟨record, h.subset hmem, hrecord⟩

/-! ### Operations on a slot -/

variable {σ φ ω η τ : Type}

/-- Something that is done to an error slot. -/
inductive Operation (ω η τ : Type) where
  /-- An error is set. -/
  | set (kind : ErrorKind) (message : String)
  /-- A record is appended to the chain in the slot, if there is one. -/
  | append (kind : ErrorKind) (message : String)
  /-- The result that has failed with the chain in the slot, or has not failed if there is none, is given
  context. -/
  | context (kind : ErrorKind) (message : String)
  /-- The same, with a message that is built only if it is needed. -/
  | contextWith (kind : ErrorKind) (build : τ → String × τ)
  /-- A status call is made with the slot. -/
  | call (call : Call ω η)

/-- An error slot and what else the operations on it change. -/
structure Scene (σ φ ω η τ : Type) where
  /-- The slot. -/
  slot : Option ErrorChain
  /-- The services that status calls are made to. -/
  services : Services σ φ ω η
  /-- What messages are built from. -/
  source : τ

/-- The result that a slot stands for: it has failed with the chain in the slot, if there is one. -/
def outcome : Option ErrorChain → Except ErrorChain Unit
  | some chain => .error chain
  | none => .ok ()

/-- The slot that stands for a result. -/
def slotOf : Except ErrorChain Unit → Option ErrorChain
  | .error chain => some chain
  | .ok () => none

namespace Scene

variable [DecidableEq η] (outlets : Outlets σ φ ω)

/-- Does something to the slot. -/
def perform (scene : Scene σ φ ω η τ) : Operation ω η τ → Scene σ φ ω η τ
  | .set kind message => { scene with slot := ErrorChain.set scene.slot kind message }
  | .append kind message => { scene with slot := scene.slot.map (·.append kind message) }
  | .context kind message =>
    { scene with slot := slotOf (context (outcome scene.slot) kind message) }
  | .contextWith kind build =>
    let (result, source) := contextWith (outcome scene.slot) kind build scene.source
    { scene with slot := slotOf result, source }
  | .call call =>
    let report := Status.perform outlets scene.slot scene.services call
    { scene with slot := report.slot, services := report.services }

/-- Does one thing after the other to the slot. -/
def run (scene : Scene σ φ ω η τ) (operations : List (Operation ω η τ)) : Scene σ φ ω η τ :=
  operations.foldl (perform outlets) scene

/-- The records that an operation adds: one, if there is something that it can be added to, and for a
status call those that the answer of the service has to say. -/
def added (scene : Scene σ φ ω η τ) : Operation ω η τ → List ErrorRecord
  | .set kind message => [⟨kind, message⟩]
  | .append kind message | .context kind message => scene.slot.toList.map fun _ => ⟨kind, message⟩
  | .contextWith kind build => scene.slot.toList.map fun _ => ⟨kind, (build scene.source).1⟩
  | .call call => (serve outlets scene.services call).1.causes

/-- The records that operations add one after the other. -/
def addedBy (scene : Scene σ φ ω η τ) : List (Operation ω η τ) → List ErrorRecord
  | [] => []
  | operation :: operations =>
    scene.added outlets operation ++
      (scene.perform outlets operation).addedBy operations

/-- **An operation adds its records behind those that the slot held,** and changes none of these. -/
lemma slotRecords_perform (scene : Scene σ φ ω η τ) (operation : Operation ω η τ) :
    slotRecords (scene.perform outlets operation).slot =
      slotRecords scene.slot ++ scene.added outlets operation := by
  obtain ⟨slot, services, source⟩ := scene
  cases operation with
  | set kind message => exact slotRecords_set slot kind message
  | append kind message | context kind message | contextWith kind build =>
    rcases slot with _ | chain
    · rfl
    · exact records_append chain kind _
  | call call =>
    have hslot := Answer.slotRecords_slot slot (serve outlets services call).1
    simpa only [perform, perform_eq, added] using hslot

/-- After operations a slot holds what it held before and behind it what they added, in order. -/
lemma slotRecords_run (scene : Scene σ φ ω η τ) (operations : List (Operation ω η τ)) :
    slotRecords (scene.run outlets operations).slot =
      slotRecords scene.slot ++ scene.addedBy outlets operations := by
  induction operations generalizing scene with
  | nil => exact (List.append_nil _).symm
  | cons operation operations ih =>
    change slotRecords ((scene.perform outlets operation).run _ operations).slot = _
    rw [ih, slotRecords_perform, addedBy, List.append_assoc]

/-- Further operations go on from what earlier ones have left. -/
lemma run_append (scene : Scene σ φ ω η τ) (earlier later : List (Operation ω η τ)) :
    scene.run outlets (earlier ++ later) = (scene.run outlets earlier).run outlets later :=
  List.foldl_append

end Scene

/-- A slot that holds what another did and more holds a chain if that one did, and this chain has
grown. -/
lemma exists_grown {slot : Option ErrorChain} {more : List ErrorRecord}
    (h : slotRecords slot = chain.records ++ more) :
    ∃ grown, slot = some grown ∧ chain.records <+: grown.records := by
  rcases slot with _ | grown
  · have hnone : chain.records = [] := (List.append_eq_nil_iff.mp h.symm).1
    have hhead := (records_ends chain).1
    rw [hnone] at hhead
    cases hhead
  · exact ⟨grown, rfl, more, h.symm⟩

variable [DecidableEq η] {ε α β : Type} [Cause ε]

/-- **A slot never forgets a cause.**  Whatever the slot held in the beginning, and whatever is done to
it: what it holds later are the records it held earlier, as they were, and behind them those that were
added since. A chain in the slot has at least one record, so that it has a latest one and a root cause,
which is the first of all that were added. Once there is a chain, its root cause stays the same, no kind
that it contains is lost, and it goes on to tell of an operation that was aborted if it does so now.
Context adds one record to the chain of a result that has failed. If its message is built only when it
is needed, the result is the same; building it takes place once if the result has failed, and not at all
otherwise. -/
theorem never_forgets_a_cause (outlets : Outlets σ φ ω) (scene : Scene σ φ ω η τ)
    (earlier later : List (Operation ω η τ)) :
    let before := scene.run outlets earlier
    let after := scene.run outlets (earlier ++ later)
    let added := before.addedBy outlets later
    slotRecords after.slot = slotRecords before.slot ++ added ∧
    (∀ chain, after.slot = some chain →
      chain.records.getLast? = some chain.latest ∧ chain.records.head? = some chain.rootCause ∧
      (slotRecords before.slot ++ added).head? = some chain.rootCause) ∧
    (∀ chain, before.slot = some chain → ∃ grown, after.slot = some grown ∧
      grown.rootCause = chain.rootCause ∧
      (∀ kind, chain.contains kind = true → grown.contains kind = true) ∧
      (chain.isAbort = true → grown.isAbort = true)) ∧
    (∀ (result : Except ε α) kind message chain,
      context result kind message = .error chain ↔
        ∃ cause, result = .error cause ∧ chain = (Cause.toChain cause).append kind message) ∧
    (∀ (result : Except ε α) kind (build : β → String × β) state,
      contextWith result kind build state =
        (context result kind (build state).1,
          match result with
          | .ok _ => state
          | .error _ => (build state).2)) := by
  intro before after added
  have hrecords : slotRecords after.slot = slotRecords before.slot ++ added := by
    simp only [after, Scene.run_append]
    exact Scene.slotRecords_run outlets before later
  refine ⟨hrecords, fun chain hafter => ⟨(records_ends chain).2, (records_ends chain).1, ?_⟩,
    fun chain hbefore => ?_, fun _ _ _ _ => context_eq_error_iff, contextWith_eq⟩
  · rw [← hrecords, hafter]
    exact (records_ends chain).1
  · rw [hbefore] at hrecords
    obtain ⟨grown, hgrown, hprefix⟩ := exists_grown hrecords
    exact ⟨grown, hgrown, rootCause_of_prefix hprefix,
      fun kind hkind => contains_of_prefix hprefix hkind,
      fun habort => contains_of_prefix hprefix habort⟩

end ErrorChain

end PrefetchInfo
