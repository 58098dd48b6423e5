import PrefetchInfo.Notify.Destination
import PrefetchInfo.Proofs.Device.BlockBuffer

/-!
# Accounts of what places have received

A notify stream reaches three kinds of places: standard error, lent writers, and files. `Outlets.Account`
is an account of what each of them has received in a state of the world, together with the laws of the
world that a stream relies on: what a place takes is added to what it has received, nobody else's
writing changes that, and opening a file for appending leaves what is in it.
-/

namespace PrefetchInfo.Notify

variable {σ φ ω : Type}

/-- A place that diagnostics can go to. -/
inductive Place (φ ω : Type) where
  /-- Standard error. -/
  | standardError
  /-- A writer lent by the caller. -/
  | writer (writer : ω)
  /-- A file. -/
  | file (file : φ)
  deriving DecidableEq, Repr

/-- The place that a destination stands for. -/
def Destination.place : Destination φ ω → Place φ ω
  | .standardError => .standardError
  | .external writer => .writer writer
  | .owned _ file _ => .file file

namespace Outlets

variable {outlets : Outlets σ φ ω}

/-! ### Moves of the world -/

/-- A place as a device. -/
def device (outlets : Outlets σ φ ω) : Place φ ω → Device σ
  | .standardError => outlets.standardError
  | .writer writer => outlets.writer writer
  | .file file => outlets.file file

/-- Anything a stream does to the world around it. -/
inductive Move (outlets : Outlets σ φ ω) : σ → σ → Prop where
  /-- Bytes are offered to a place, or it is flushed. -/
  | operate (place : Place φ ω) {s s' : σ} (h : (outlets.device place).Step s s') : Move outlets s s'
  /-- A path is opened for appending, or it is tried in vain. -/
  | openFile (path : Bytes) (s : σ) : Move outlets s (outlets.openFile path s).2
  /-- Developers are told of an event. -/
  | record (event : Event) (s : σ) : Move outlets s (outlets.record event s)

/-- Any number of moves. -/
def Reaches (outlets : Outlets σ φ ω) : σ → σ → Prop :=
  Relation.ReflTransGen outlets.Move

namespace Reaches

/-- A world in which nothing was done is as it was. -/
lemma refl (outlets : Outlets σ φ ω) (s : σ) : outlets.Reaches s s :=
  Relation.ReflTransGen.refl

/-- Moves can go on where others ended. -/
lemma trans {s t u : σ} (hst : outlets.Reaches s t) (htu : outlets.Reaches t u) :
    outlets.Reaches s u :=
  Relation.ReflTransGen.trans hst htu

/-- Operations on a place are moves. -/
lemma of_device (place : Place φ ω) {s s' : σ} (h : (outlets.device place).Reaches s s') :
    outlets.Reaches s s' :=
  h.keeps (P := outlets.Reaches s) (fun hstep hs => hs.tail (.operate place hstep)) (refl outlets s)

/-- Opening a path is a move. -/
lemma openFile {path : Bytes} {s s' : σ} {result : Except Failure φ}
    (h : outlets.openFile path s = (result, s')) : outlets.Reaches s s' := by
  have hs : (outlets.openFile path s).2 = s' := by rw [h]
  exact hs ▸ Relation.ReflTransGen.single (.openFile path s)

/-- Telling developers of an event is a move. -/
lemma record (outlets : Outlets σ φ ω) (event : Event) (s : σ) :
    outlets.Reaches s (outlets.record event s) :=
  Relation.ReflTransGen.single (.record event s)

/-- What every move keeps, any number of moves keep. -/
lemma keeps {P : σ → Prop} (hP : ∀ {s s'}, outlets.Move s s' → P s → P s') {s s' : σ}
    (h : outlets.Reaches s s') (hs : P s) : P s' :=
  keeps_of_reflTransGen h (fun _ _ => hP) hs

end Reaches

/-! ### Accounts -/

/-- An account of what places have received in a state of the world. -/
structure Account (outlets : Outlets σ φ ω) where
  /-- What a place has received. -/
  received : Place φ ω → σ → Bytes
  /-- Whether a place is of a kind that keeps what it takes; a file that does not exist yet is. -/
  keeps : Place φ ω → σ → Prop
  /-- Whether a file exists. -/
  present : φ → σ → Prop
  /-- Whether writing to a place succeeds, if need be in several attempts. -/
  takes : Place φ ω → σ → Prop
  keeps_of_move : ∀ {place s s'}, outlets.Move s s' → keeps place s → keeps place s'
  present_of_move : ∀ {file s s'}, outlets.Move s s' → present file s → present file s'
  takes_of_move : ∀ {place s s'}, outlets.Move s s' → takes place s → takes place s'
  /-- A place that keeps what it takes delivers, a file from the time on when it exists. -/
  delivers : ∀ place, (outlets.device place).DeliversWhile
    (fun s => keeps place s ∧ ∀ file, place = .file file → present file s) (received place)
  /-- Operations on one place leave alone what another has received. -/
  apart : ∀ {place other s s'}, place ≠ other → (outlets.device other).Step s s' →
    received place s' = received place s
  /-- Opening a file leaves alone what is in it, and what other places have received. -/
  received_openFile : ∀ place path s,
    received place (outlets.openFile path s).2 = received place s
  /-- A file that was opened exists. -/
  present_openFile : ∀ {path s file s'}, outlets.openFile path s = (.ok file, s') → present file s'
  /-- The developer log is not part of what places receive. -/
  received_record : ∀ place event s, received place (outlets.record event s) = received place s
  willing : ∀ place, (outlets.device place).Willing (takes place)
  flush_ok : ∀ {file s}, takes (.file file) s → ((outlets.file file).flush s).1 = .ok ()
  ready_ok : ∀ {writer s}, takes (.writer writer) s → outlets.ready writer s = .ok ()

namespace Account

variable (account : outlets.Account)

/-- A place that keeps what it takes and, if it is a file, exists. -/
def Fit (place : Place φ ω) (s : σ) : Prop :=
  account.keeps place s ∧ ∀ file, place = .file file → account.present file s

/-- A file that keeps what it takes delivers from the time on when it exists. -/
lemma delivers_file (file : φ) : (outlets.file file).DeliversWhile (account.Fit (.file file))
    (account.received (.file file)) :=
  account.delivers (.file file)

/-- A file to which writing succeeds is willing. -/
lemma willing_file (file : φ) : (outlets.file file).Willing (account.takes (.file file)) :=
  account.willing (.file file)

/-- No moves change that a place keeps what it takes. -/
lemma keeps_of_reaches {place : Place φ ω} {s s' : σ} (h : outlets.Reaches s s')
    (hs : account.keeps place s) : account.keeps place s' :=
  h.keeps account.keeps_of_move hs

/-- No moves remove a file. -/
lemma present_of_reaches {file : φ} {s s' : σ} (h : outlets.Reaches s s')
    (hs : account.present file s) : account.present file s' :=
  h.keeps account.present_of_move hs

/-- No moves change that writing to a place succeeds. -/
lemma takes_of_reaches {place : Place φ ω} {s s' : σ} (h : outlets.Reaches s s')
    (hs : account.takes place s) : account.takes place s' :=
  h.keeps account.takes_of_move hs

/-- No operations on one place change what another has received. -/
lemma received_of_reaches {place other : Place φ ω} (hne : place ≠ other) {s s' : σ}
    (h : (outlets.device other).Reaches s s') :
    account.received place s' = account.received place s :=
  h.keeps (P := fun t => account.received place t = account.received place s)
    (fun hstep ht => (account.apart hne hstep).trans ht) rfl

end Account

end Outlets

end PrefetchInfo.Notify
