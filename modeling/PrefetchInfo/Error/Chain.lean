import PrefetchInfo.Error.Kind
import PrefetchInfo.System.Failure

/-!
# Error chains

A failure is told as a chain of records: the root cause and, on top of it, one record for every
layer that failed because of the one below. A chain is never empty and only ever grows at its newest
end; a slot for an error holds a chain or nothing.
-/

namespace PrefetchInfo

/-- A single failure of a chain. -/
structure ErrorRecord where
  /-- What kind of failure it is. -/
  kind : ErrorKind
  /-- What it says. -/
  message : String
  deriving DecidableEq, Repr

/-- A failure and its causes. -/
structure ErrorChain where
  /-- The outermost failure. -/
  latest : ErrorRecord
  /-- The failures that led to it, the most recent first. -/
  causes : List ErrorRecord
  deriving DecidableEq, Repr

namespace ErrorChain

/-- The chain of a single record. -/
def single (kind : ErrorKind) (message : String) : ErrorChain :=
  ⟨⟨kind, message⟩, []⟩

/-- Adds a record, whose cause is the failure that was outermost before. -/
def append (chain : ErrorChain) (kind : ErrorKind) (message : String) : ErrorChain :=
  ⟨⟨kind, message⟩, chain.latest :: chain.causes⟩

/-- The records of a chain, the most recent first. -/
def newestFirst (chain : ErrorChain) : List ErrorRecord :=
  chain.latest :: chain.causes

/-- The records of a chain in the order in which they were added, the root cause first. -/
def records (chain : ErrorChain) : List ErrorRecord :=
  chain.newestFirst.reverse

/-- The record everything began with. -/
def rootCause (chain : ErrorChain) : ErrorRecord :=
  chain.causes.getLastD chain.latest

/-- The kind of the outermost failure. -/
def kind (chain : ErrorChain) : ErrorKind :=
  chain.latest.kind

/-- The number of records of a chain. -/
def length (chain : ErrorChain) : Nat :=
  chain.newestFirst.length

/-- Whether some record of a chain is of a given kind. -/
def contains (chain : ErrorChain) (kind : ErrorKind) : Bool :=
  chain.newestFirst.any (·.kind = kind)

/-- Whether a chain tells of an aborted operation. -/
def isAbort (chain : ErrorChain) : Bool :=
  chain.contains (.runtime .abortRequested)

/-- A chain in short: what its outermost failure says. -/
def brief (chain : ErrorChain) : String :=
  chain.latest.message

/-- A chain in full: what its records say, the most recent first, one below the other. -/
def full (chain : ErrorChain) : String :=
  "\n".intercalate (chain.newestFirst.map ErrorRecord.message)

/-- The chain that begins with a failure of input or output. -/
def ofFailure (failure : Failure) : ErrorChain :=
  let code : InOutError :=
    match failure.kind with
    | .notFound => .invalidResource
    | .permissionDenied => .accessDenied
    | _ => .generic
  single (.inOut code) failure.text

/-- The chain with the given records, the root cause first, if there are any. -/
def ofRecords? (records : List ErrorRecord) : Option ErrorChain :=
  match records.reverse with
  | [] => none
  | latest :: causes => some ⟨latest, causes⟩

theorem records_single (kind : ErrorKind) (message : String) :
    (single kind message).records = [⟨kind, message⟩] := rfl

theorem records_append (chain : ErrorChain) (kind : ErrorKind) (message : String) :
    (chain.append kind message).records = chain.records ++ [⟨kind, message⟩] := by
  simp [records, newestFirst, append]

/-! ### Slots for an error -/

/-- Adds a record to the chain in a slot, beginning one if the slot is empty. -/
def set (slot : Option ErrorChain) (kind : ErrorKind) (message : String) : Option ErrorChain :=
  match slot with
  | some chain => some (chain.append kind message)
  | none => some (single kind message)

/-- The records in a slot, the root cause first; none if the slot is empty. -/
def slotRecords (slot : Option ErrorChain) : List ErrorRecord :=
  (slot.map records).getD []

end ErrorChain

/-! ### Failing with context -/

/-- The failures a chain can begin with. -/
class Cause (ε : Type) where
  /-- The chain that tells of a failure and nothing else. -/
  toChain : ε → ErrorChain

instance : Cause Failure := ⟨ErrorChain.ofFailure⟩

instance : Cause ErrorChain := ⟨id⟩

variable {ε α : Type} [Cause ε]

/-- Adds a record to the failure of a result, and leaves success alone. -/
def context (result : Except ε α) (kind : ErrorKind) (message : String) : Except ErrorChain α :=
  result.mapError fun failure => (Cause.toChain failure).append kind message

/-- Adds a record to the failure of a result, building its message only then; building it may have
an effect on a state. -/
def contextWith {σ : Type} (result : Except ε α) (kind : ErrorKind)
    (message : σ → String × σ) (state : σ) : Except ErrorChain α × σ :=
  match result with
  | .ok value => (.ok value, state)
  | .error failure =>
    let (text, state) := message state
    (.error ((Cause.toChain failure).append kind text), state)

end PrefetchInfo
