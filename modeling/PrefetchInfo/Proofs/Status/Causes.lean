import Mathlib.Tactic.Lemma
import PrefetchInfo.Status
import PrefetchInfo.World

/-!
# Status calls and the causes they keep

A status call asks a service to do something, reports with a number what came of it, and tells in a slot
why it failed. `Status.serve` is what the service does when it is asked, with no slot in sight. A status
call does just that to the services, whatever is in the slot; it leaves the slot alone if it succeeds,
and adds what it has to say behind the earlier records if it fails. So any number of calls, one after
the other, leave in the slot what was there and then what each of them had to say, in order.
-/

namespace PrefetchInfo

/-- An operation after another acts on the state that the first one has left. -/
lemma Routine.run_bind {σ α β : Type} (first : Routine σ α) (rest : α → Routine σ β) (s : σ) :
    (first >>= rest).run s = (rest (first.run s).1).run (first.run s).2 := by
  induction first generalizing s with
  | finished value => rfl
  | step effect next ih => exact ih s (effect s)

/-! ### Records in a slot -/

namespace ErrorChain

/-- Appending records one by one leaves them behind the records of a chain, in order. -/
lemma records_foldl_append (existing : ErrorChain) (more : List ErrorRecord) :
    (more.foldl (fun (merged : ErrorChain) (record : ErrorRecord) =>
      merged.append record.kind record.message) existing).records = existing.records ++ more := by
  induction more generalizing existing with
  | nil => exact (List.append_nil _).symm
  | cons record more ih =>
    rw [List.foldl_cons, ih, records_append, List.append_assoc]
    rfl

/-- Setting an error leaves its record behind those that were in the slot. -/
lemma slotRecords_set (slot : Option ErrorChain) (kind : ErrorKind) (message : String) :
    slotRecords (set slot kind message) = slotRecords slot ++ [⟨kind, message⟩] := by
  cases slot with
  | none => exact records_single kind message
  | some chain => exact records_append chain kind message

end ErrorChain

namespace Status

open ErrorChain Notify

/-- A failure leaves the records of its chain and a summary of its kind behind those that were in the
slot. -/
lemma slotRecords_fail (slot : Option ErrorChain) (chain : ErrorChain) (summary : String) :
    slotRecords (fail slot chain summary) =
      slotRecords slot ++ (chain.records ++ [⟨chain.kind, summary⟩]) := by
  cases slot with
  | none => exact records_append chain chain.kind summary
  | some existing =>
    change ErrorChain.records (ErrorChain.append _ _ _) = existing.records ++ _
    rw [records_append, records_foldl_append, List.append_assoc]

/-! ### Services and calls -/

variable {σ φ ω η : Type}

/-- The services that report with a status: a notify stream in its world, and the interruption trap. -/
structure Services (σ φ ω η : Type) where
  /-- The notify stream. -/
  stream : NotifyStream φ ω
  /-- The world around it. -/
  world : σ
  /-- The interruption trap. -/
  trap : Trap η

/-- A status call that can fail or has a sibling that can. -/
inductive Call (ω η : Type) where
  /-- Diagnostics are redirected to a lent writer, or back to standard error. -/
  | setStream (writer : Option ω)
  /-- A file is opened for diagnostics, if there is a path. -/
  | openFile (path : Option Bytes)
  /-- The file for diagnostics is closed. -/
  | close
  /-- An interruption handler is attached, if there is one; the platform answers as given. -/
  | attach (platform : Platform) (handler : Option η)
  /-- The interruption handler is detached; the platform answers as given. -/
  | detach (platform : Platform)

/-- The call needs an input that is missing. -/
def Call.LacksInput {ω η : Type} : Call ω η → Prop
  | .openFile none | .attach _ none => True
  | _ => False

/-- What a status call leaves behind. -/
structure Report (σ φ ω η : Type) where
  /-- The status of the call. -/
  status : Int
  /-- The slot after the call. -/
  slot : Option ErrorChain
  /-- The services after the call. -/
  services : Services σ φ ω η
  /-- What developers are told by the trap; the world has what they are told by the stream. -/
  events : List Event

/-- The answer of a service to a call. -/
inductive Answer where
  /-- The input that the call needs is missing. -/
  | missing (complaint : String)
  /-- The service did what it was asked to, with this status. -/
  | done (status : Int)
  /-- The service failed. -/
  | failed (chain : ErrorChain) (summary : String)
  deriving DecidableEq, Repr

namespace Answer

/-- The answer of a service whose method ended like this. -/
def ofResult {α : Type} (status : α → Int) (summary : String) : Except ErrorChain α → Answer
  | .ok value => done (status value)
  | .error chain => failed chain summary

/-- The status that an answer is reported with. -/
def status : Answer → Int
  | missing _ => failure
  | done status => status
  | failed _ _ => failure

/-- What an answer has to say about a failure: that an argument is invalid if the input is missing, or
all that the service says and a summary of the same kind. -/
def causes : Answer → List ErrorRecord
  | missing complaint => [⟨.argument .invalidValue, complaint⟩]
  | done _ => []
  | failed chain summary => chain.records ++ [⟨chain.kind, summary⟩]

/-- The slot that an answer leaves. -/
def slot (slot : Option ErrorChain) : Answer → Option ErrorChain
  | missing complaint => set slot (.argument .invalidValue) complaint
  | done _ => slot
  | failed chain summary => fail slot chain summary

/-- An answer leaves its causes behind the records that were in the slot. -/
lemma slotRecords_slot (before : Option ErrorChain) (answer : Answer) :
    slotRecords (answer.slot before) = slotRecords before ++ answer.causes := by
  cases answer with
  | missing complaint => exact slotRecords_set before _ complaint
  | done status => exact (List.append_nil _).symm
  | failed chain summary => exact slotRecords_fail before chain summary

end Answer

variable [DecidableEq η]

/-- What the services do when they are asked by a call, and what the trap tells developers. Nothing is
done if the input is missing. -/
def serve (outlets : Outlets σ φ ω) (services : Services σ φ ω η) :
    Call ω η → Answer × Services σ φ ω η × List Event
  | .setStream writer =>
    let (result, stream, world) := services.stream.setStream outlets writer services.world
    (.ofResult (fun _ => success) "unable to set notify stream" result,
      { services with stream, world }, [])
  | .openFile none => (.missing "invalid notify stream filename", services, [])
  | .openFile (some path) =>
    let (result, stream, world) := services.stream.openFile outlets path services.world
    (.ofResult NotifyStream.Status.code "unable to open notify stream" result,
      { services with stream, world }, [])
  | .close =>
    let (status, stream, world) := services.stream.close outlets services.world
    (.done status.code, { services with stream, world }, [])
  | .attach _ none => (.missing "invalid signal handler", services, [])
  | .attach platform (some handler) =>
    let ((result, events), trap) := (Trap.attach platform handler).run services.trap
    (.ofResult (fun _ => success) "unable to attach signal handler" result,
      { services with trap }, events)
  | .detach platform =>
    let (events, trap) := (Trap.detach platform).run services.trap
    (.done success, { services with trap }, events)

/-- The report of a call on the notify stream, which leaves the trap alone. -/
def NotifyResult.report (result : NotifyResult σ φ ω) (services : Services σ φ ω η) :
    Report σ φ ω η :=
  ⟨result.status, result.slot, { services with stream := result.stream, world := result.world }, []⟩

/-- The report of a call on the trap, which leaves the notify stream alone. -/
def SignalResult.report (result : SignalResult × Trap η) (services : Services σ φ ω η) :
    Report σ φ ω η :=
  ⟨result.1.status, result.1.slot, { services with trap := result.2 }, result.1.events⟩

/-- Makes a status call. -/
def perform (outlets : Outlets σ φ ω) (slot : Option ErrorChain) (services : Services σ φ ω η) :
    Call ω η → Report σ φ ω η
  | .setStream writer =>
    (notifySetStream outlets services.stream writer slot services.world).report services
  | .openFile path =>
    (notifyOpen outlets services.stream path slot services.world).report services
  | .close => (notifyClose outlets services.stream slot services.world).report services
  | .attach platform handler =>
    SignalResult.report ((signalAttach platform handler slot).run services.trap) services
  | .detach platform =>
    SignalResult.report ((signalDetach platform slot).run services.trap) services

variable {outlets : Outlets σ φ ω}

/-! ### One call -/

/-- **A status call reports what the services answer.**  It does to them what they are asked for and
nothing else, and takes its status from their answer; to the slot it does what the answer says. -/
theorem perform_eq (slot : Option ErrorChain) (services : Services σ φ ω η) (call : Call ω η) :
    perform outlets slot services call =
      ⟨(serve outlets services call).1.status,
        (serve outlets services call).1.slot slot,
        (serve outlets services call).2.1, (serve outlets services call).2.2⟩ := by
  cases call with
  | setStream writer =>
    rcases hs : services.stream.setStream outlets writer services.world with
      ⟨chain | _, stream, world⟩ <;>
      simp only [perform, serve, notifySetStream, hs] <;> rfl
  | openFile path =>
    cases path with
    | none => rfl
    | some path =>
      rcases ho : services.stream.openFile outlets path services.world with
        ⟨chain | status, stream, world⟩ <;>
        simp only [perform, serve, notifyOpen, ho] <;> rfl
  | close => rfl
  | attach platform handler =>
    cases handler with
    | none => rfl
    | some handler =>
      rcases ha : (Trap.attach platform handler).run services.trap with
        ⟨⟨chain | _, events⟩, trap⟩ <;>
        simp only [perform, serve, signalAttach, Routine.run_bind, ha] <;> rfl
  | detach platform => simp only [perform, serve, signalDetach, Routine.run_bind]; rfl

/-- What the services may answer to a call: that its input is missing, and then they are as they were;
what they did; or why they failed. -/
lemma serve_cases (outlets : Outlets σ φ ω) (services : Services σ φ ω η)
    (call : Call ω η) :
    (∃ complaint, call.LacksInput ∧
      serve outlets services call = (.missing complaint, services, [])) ∨
    (∃ status after, ¬call.LacksInput ∧ (status = 0 ∨ status = 1) ∧
      serve outlets services call = (.done status, after)) ∨
    (∃ chain summary after, ¬call.LacksInput ∧
      serve outlets services call = (.failed chain summary, after)) := by
  have hcode : ∀ status : NotifyStream.Status, status.code = 0 ∨ status.code = 1 := by
    rintro (_ | _)
    · exact .inr rfl
    · exact .inl rfl
  cases call with
  | setStream writer =>
    rcases hs : services.stream.setStream outlets writer services.world with
      ⟨chain | _, stream, world⟩
    · exact .inr (.inr ⟨chain, _, _, id, by simp only [serve, hs]; rfl⟩)
    · exact .inr (.inl ⟨success, _, id, .inr rfl, by simp only [serve, hs]; rfl⟩)
  | openFile path =>
    cases path with
    | none => exact .inl ⟨_, trivial, rfl⟩
    | some path =>
      rcases ho : services.stream.openFile outlets path services.world with
        ⟨chain | status, stream, world⟩
      · exact .inr (.inr ⟨chain, _, _, id, by simp only [serve, ho]; rfl⟩)
      · exact .inr (.inl ⟨status.code, _, id, hcode status, by simp only [serve, ho]; rfl⟩)
  | close => exact .inr (.inl ⟨_, _, id, hcode _, rfl⟩)
  | attach platform handler =>
    cases handler with
    | none => exact .inl ⟨_, trivial, rfl⟩
    | some handler =>
      rcases ha : (Trap.attach platform handler).run services.trap with
        ⟨⟨chain | _, events⟩, trap⟩
      · exact .inr (.inr ⟨chain, _, _, id, by simp only [serve, ha]; rfl⟩)
      · exact .inr (.inl ⟨success, _, id, .inr rfl, by simp only [serve, ha]; rfl⟩)
  | detach platform => exact .inr (.inl ⟨success, _, id, .inr rfl, rfl⟩)

/-- What a faithful report is of a call that was made with `slot` and `services`, when the services
answer and do what `served` says. -/
structure Report.Faithful (report : Report σ φ ω η) (slot : Option ErrorChain)
    (services : Services σ φ ω η) (call : Call ω η)
    (served : Answer × Services σ φ ω η × List Event) : Prop where
  /-- The services are where they went by themselves. -/
  services_eq : report.services = served.2.1
  /-- Developers are told what the services tell them. -/
  events_eq : report.events = served.2.2
  /-- Without the input it needs, a call does nothing to the services. -/
  idle : call.LacksInput → report.services = services ∧ report.events = []
  /-- The status is that of failure, or one of two others. -/
  status_mem : report.status = failure ∨ report.status = 0 ∨ report.status = 1
  /-- A call fails just if its input is missing or the service fails. -/
  failure_iff : report.status = failure ↔
    call.LacksInput ∨ ∃ chain summary, served.1 = .failed chain summary
  /-- A call that does not fail leaves the slot alone. -/
  slot_eq : report.status ≠ failure → report.slot = slot
  /-- A call that lacks its input adds that an argument is invalid. -/
  lacking : call.LacksInput → ∃ complaint,
    slotRecords report.slot = slotRecords slot ++ [⟨.argument .invalidValue, complaint⟩]
  /-- A call whose service fails adds all that the service says, and a summary of the same kind. -/
  failing : ∀ chain summary, served.1 = .failed chain summary →
    slotRecords report.slot = slotRecords slot ++ chain.records ++ [⟨chain.kind, summary⟩]

/-- The report of a status call is faithful. -/
lemma faithful_perform (slot : Option ErrorChain) (services : Services σ φ ω η) (call : Call ω η) :
    (perform outlets slot services call).Faithful slot services call
      (serve outlets services call) := by
  have hslot := fun answer => Answer.slotRecords_slot slot answer
  rw [perform_eq]
  rcases serve_cases outlets services call with
    ⟨complaint, hlacks, hserve⟩ | ⟨status, after, hgiven, hstatus, hserve⟩ |
    ⟨chain, summary, after, hgiven, hserve⟩ <;> rw [hserve]
  case inl =>
    exact {
      services_eq := rfl
      events_eq := rfl
      idle := fun _ => ⟨rfl, rfl⟩
      status_mem := .inl rfl
      failure_iff := iff_of_true rfl (.inl hlacks)
      slot_eq := fun hne => absurd rfl hne
      lacking := fun _ => ⟨complaint, hslot (.missing complaint)⟩
      failing := fun _ _ hfailed => by cases hfailed }
  case inr.inl =>
    have hne : status ≠ failure := by rcases hstatus with rfl | rfl <;> decide
    exact {
      services_eq := rfl
      events_eq := rfl
      idle := fun hlacks => absurd hlacks hgiven
      status_mem := .inr hstatus
      failure_iff := by
        refine iff_of_false hne ?_
        rintro (hlacks | ⟨chain, summary, hfailed⟩)
        · exact hgiven hlacks
        · cases hfailed
      slot_eq := fun _ => rfl
      lacking := fun hlacks => absurd hlacks hgiven
      failing := fun _ _ hfailed => by cases hfailed }
  case inr.inr =>
    exact {
      services_eq := rfl
      events_eq := rfl
      idle := fun hlacks => absurd hlacks hgiven
      status_mem := .inl rfl
      failure_iff := iff_of_true rfl (.inr ⟨chain, summary, rfl⟩)
      slot_eq := fun hne => absurd rfl hne
      lacking := fun hlacks => absurd hlacks hgiven
      failing := by
        rintro _ _ hfailed
        cases hfailed
        rw [List.append_assoc]
        exact hslot (.failed chain summary) }

/-! ### Calls one after the other -/

/-- Makes status calls one after the other with the same slot: their statuses, the slot and the services
after them. -/
def run (outlets : Outlets σ φ ω) (slot : Option ErrorChain)
    (services : Services σ φ ω η) :
    List (Call ω η) → List Int × Option ErrorChain × Services σ φ ω η
  | [] => ([], slot, services)
  | call :: calls =>
    let report := perform outlets slot services call
    let (statuses, slot, services) := run outlets report.slot report.services calls
    (report.status :: statuses, slot, services)

/-- What the services answer to calls one after the other, and where that leads them. -/
def serveAll (outlets : Outlets σ φ ω) (services : Services σ φ ω η) :
    List (Call ω η) → List Answer × Services σ φ ω η
  | [] => ([], services)
  | call :: calls =>
    let (answer, services, _) := serve outlets services call
    let (answers, services) := serveAll outlets services calls
    (answer :: answers, services)

/-- Status calls lead the services where they go by themselves, take their statuses from the answers,
and add to the slot what the answers say, in order. -/
lemma run_spec (outlets : Outlets σ φ ω) (slot : Option ErrorChain)
    (services : Services σ φ ω η) (calls : List (Call ω η)) :
    (run outlets slot services calls).1 =
      (serveAll outlets services calls).1.map Answer.status ∧
    (run outlets slot services calls).2.2 = (serveAll outlets services calls).2 ∧
    slotRecords (run outlets slot services calls).2.1 =
      slotRecords slot ++ (serveAll outlets services calls).1.flatMap Answer.causes := by
  induction calls generalizing slot services with
  | nil => exact ⟨rfl, rfl, (List.append_nil _).symm⟩
  | cons call calls ih =>
    rcases hserve : serve outlets services call with ⟨answer, after, events⟩
    obtain ⟨hstatuses, hservices, hrecords⟩ := ih (answer.slot slot) after
    simp only [run, serveAll, perform_eq, hserve, List.map_cons, List.flatMap_cons]
    refine ⟨by rw [hstatuses], hservices, ?_⟩
    rw [hrecords, Answer.slotRecords_slot, List.append_assoc]

/-- Further calls go on with the slot and the services that earlier ones have left. -/
lemma run_append (slot : Option ErrorChain) (services : Services σ φ ω η)
    (calls more : List (Call ω η)) :
    (run outlets slot services (calls ++ more)).2 =
      (run outlets (run outlets slot services calls).2.1
        (run outlets slot services calls).2.2 more).2 := by
  induction calls generalizing slot services with
  | nil => rfl
  | cons call calls ih => exact ih _ _

/-- **Status calls report faithfully and keep earlier causes.**  Each call reports what its service
answers, whatever is in the slot. Calls one after the other leave in the slot what was there before and
then what each of them adds, so that at all times the slot has only grown at its newest end. -/
theorem reports_faithfully (outlets : Outlets σ φ ω) :
    (∀ slot services (call : Call ω η), (perform outlets slot services call).Faithful slot
      services call (serve outlets services call)) ∧
    (∀ slot services (calls : List (Call ω η)),
      (run outlets slot services calls).1 =
        (serveAll outlets services calls).1.map Answer.status ∧
      (run outlets slot services calls).2.2 =
        (serveAll outlets services calls).2 ∧
      slotRecords (run outlets slot services calls).2.1 = slotRecords slot ++
        (serveAll outlets services calls).1.flatMap Answer.causes) ∧
    (∀ slot services (calls more : List (Call ω η)),
      slotRecords (run outlets slot services calls).2.1 <+:
        slotRecords (run outlets slot services (calls ++ more)).2.1) := by
  refine ⟨fun slot services call => faithful_perform slot services call,
    fun slot services calls => run_spec outlets slot services calls,
    fun slot services calls more => ?_⟩
  rw [run_append]
  have hmore := run_spec outlets (run outlets slot services calls).2.1
    (run outlets slot services calls).2.2 more
  rw [hmore.2.2]
  exact List.prefix_append _ _

/-- An earlier cause stays below what two failing calls add; the call between them adds nothing. -/
example : slotRecords (run World.outlets (some (.single (.runtime .setFailed) "earlier"))
    ⟨.silent, .ofFiles ⟨[], []⟩, (Trap.unset : Trap Unit)⟩
    [.openFile none, .close, .openFile (some [])]).2.1 =
    [⟨.runtime .setFailed, "earlier"⟩,
     ⟨.argument .invalidValue, "invalid notify stream filename"⟩,
     ⟨.argument .invalidValue, "invalid notify stream filename"⟩,
     ⟨.argument .invalidValue, "unable to open notify stream"⟩] := by
  rfl

end Status

end PrefetchInfo
