import Mathlib
import PrefetchInfo.Proofs.Device.Sink
import PrefetchInfo.Proofs.Files.Detection
import PrefetchInfo.Proofs.History
import PrefetchInfo.Proofs.Info.Printed
import PrefetchInfo.Proofs.World.Account

/-!
# The life of a handle

A handle is opened, printed and closed in any order, while the files change and somebody asks to stop,
or takes that back, at any moment, also while a file is being opened. A call that fails leaves the handle
as it was. So the answers to the calls tell which file is open: that of the latest call to open which
succeeded, unless it was closed since. And what is printed is taken from the header that was read then.
-/

namespace PrefetchInfo.Info.Handle

open Notify

variable {τ σ φ ω : Type}

/-! ### Calls -/

/-- A call on a handle. -/
inductive Call (τ σ φ ω : Type) where
  /-- A file is opened, given how opening its path for reading ends at that time, and the abort flag as
  it is before and after its header is read. -/
  | openInput (path : Bytes) (opened : Except Failure Source) (before after : AbortFlag)
  /-- The file is closed. -/
  | closeInput
  /-- What is known of the file is printed, with a notify stream, and a device and a world in whatever
  states. -/
  | print (stream : NotifyStream φ ω) (t : τ) (s : σ)

/-- A call and its answer. -/
abbrev Exchange (τ σ φ ω : Type) := Call τ σ φ ω × Except ErrorChain Unit

/-- Makes a call: its answer, and the handle after it. -/
def perform (out : Device τ) (outlets : Outlets σ φ ω) (handle : Handle) :
    Call τ σ φ ω → Except ErrorChain Unit × Handle
  | .openInput path opened before after =>
    let (answer, handle, _) := handle.openInput path opened before after
    (answer, handle)
  | .closeInput =>
    let (answer, handle, _) := handle.closeInput
    (answer, handle)
  | .print stream t s => ((handle.print out outlets stream t s).1, handle)

/-- Makes calls one after the other: the calls with their answers, and the handle after them. -/
def run (out : Device τ) (outlets : Outlets σ φ ω) (handle : Handle) :
    List (Call τ σ φ ω) → List (Exchange τ σ φ ω) × Handle
  | [] => ([], handle)
  | call :: calls =>
    let (answer, handle) := handle.perform out outlets call
    let (exchanges, handle) := handle.run out outlets calls
    ((call, answer) :: exchanges, handle)

/-- What an exchange settles about the file that is open: if the call succeeded, a file is open from then
on whose signature was read, or none is. -/
def Exchange.settles : Exchange τ σ φ ω → Option (Option InputFile)
  | (.openInput path opened _ _, .ok ()) =>
    some ((Signature.ofFile path opened).1.toOption.join.map fun signature => ⟨path, signature⟩)
  | (.closeInput, .ok ()) => some none
  | _ => none

/-- An exchange has opened a file just if it was a call to open that file, which succeeded, and the
signature was read. -/
lemma settles_eq_some_iff {exchange : Exchange τ σ φ ω} {input : InputFile} :
    exchange.settles = some (some input) ↔ ∃ opened before after,
      exchange = (.openInput input.path opened before after, .ok ()) ∧
        input.signature.ReadFrom opened := by
  obtain ⟨path, signature⟩ := input
  constructor
  · intro h
    rcases exchange with ⟨⟨other, opened, before, after⟩ | _ | ⟨stream, t, s⟩, chain | _⟩
    · cases h
    · rcases hcheck : (Signature.ofFile other opened).1 with chain | _ | found <;>
        simp only [Exchange.settles, hcheck] at h <;> cases h
      exact ⟨opened, before, after, rfl, Signature.ofFile_eq_some_iff.mp hcheck⟩
    · cases h
    · cases h
    · cases h
    · cases h
  · rintro ⟨opened, before, after, rfl, hread⟩
    have hcheck : (Signature.ofFile path opened).1 = .ok (some signature) :=
      Signature.ofFile_eq_some_iff.mpr hread
    simp only [Exchange.settles, hcheck]
    rfl

/-- An exchange settles nothing just if the call failed or has only printed. -/
lemma settles_eq_none_iff {exchange : Exchange τ σ φ ω} :
    exchange.settles = none ↔ exchange.2 = .ok () → ∃ stream t s, exchange.1 = .print stream t s := by
  rcases exchange with ⟨⟨path, opened, before, after⟩ | _ | ⟨stream, t, s⟩, chain | _⟩ <;>
    simp [Exchange.settles]

/-! ### One call -/

variable {out : Device τ} {outlets : Outlets σ φ ω} {handle : Handle}

/-- A flag that is not set lets pass. -/
lemma check_of_clear {flag : AbortFlag} (h : flag.requested = false) : flag.check = .ok () := by
  simp only [AbortFlag.check, h, Bool.false_eq_true, if_false]

/-- A flag that is set does not. -/
lemma check_of_requested {flag : AbortFlag} (h : flag.requested = true) :
    flag.check = .error (.single (.runtime .abortRequested) "abort requested") := by
  simp only [AbortFlag.check, h, if_true]

/-- The answer to a call to open: a file is open already; somebody asks to stop; the header cannot be read;
somebody asks to stop after that; there is no signature; or the file is open from then on. -/
lemma openInput_fst (handle : Handle) (path : Bytes) (opened : Except Failure Source)
    (before after : AbortFlag) :
    (handle.openInput path opened before after).1 =
      if handle.input.isSome then
        .error (.single (.runtime .valueAlreadySet) "input file already open")
      else if before.requested then
        .error (.single (.runtime .abortRequested) "abort requested")
      else match (Signature.ofFile path opened).1 with
        | .error chain => .error chain
        | .ok detected =>
          if after.requested then
            .error (.single (.runtime .abortRequested) "abort requested")
          else (handle.accept path detected).1 := by
  unfold openInput
  rcases handle.input.isSome with _ | _
  · rcases hbefore : before.requested with _ | _
    · rw [check_of_clear hbefore]
      rcases Signature.ofFile path opened with ⟨chain | detected, events⟩
      · rfl
      · rcases hafter : after.requested with _ | _
        · rw [check_of_clear hafter]
          rfl
        · rw [check_of_requested hafter]
          rfl
    · rw [check_of_requested hbefore]
      rfl
  · rfl

/-- Opening a file succeeds just if no file is open, nobody asks to stop, and a signature is found. -/
lemma openInput_ok_iff {path : Bytes} {opened : Except Failure Source} {before after : AbortFlag} :
    (handle.openInput path opened before after).1 = .ok () ↔
      handle.input = none ∧ before.requested = false ∧ after.requested = false ∧
        ∃ signature, (Signature.ofFile path opened).1 = .ok (some signature) := by
  rw [openInput_fst]
  rcases handle.input with _ | input
  · rcases before.requested with _ | _
    · rcases (Signature.ofFile path opened).1 with chain | detected
      · simp
      · rcases after.requested with _ | _
        · rcases detected with _ | signature <;> simp [accept]
        · simp
    · simp
  · simp

/-- While a file is open, opening another fails, whatever the path and the abort flag. -/
lemma openInput_of_open {path : Bytes} {opened : Except Failure Source} {before after : AbortFlag}
    (h : handle.input ≠ none) :
    (handle.openInput path opened before after).1 =
      .error (.single (.runtime .valueAlreadySet) "input file already open") := by
  rw [openInput_fst, if_pos (Option.isSome_iff_ne_none.mpr h)]

/-- While no file is open, a request to stop that is seen makes opening fail. -/
lemma openInput_of_requested {path : Bytes} {opened : Except Failure Source}
    {before after : AbortFlag} (h : handle.input = none)
    (hrequested : before.requested = true ∨
      after.requested = true ∧ ∃ detected, (Signature.ofFile path opened).1 = .ok detected) :
    (handle.openInput path opened before after).1 =
      .error (.single (.runtime .abortRequested) "abort requested") := by
  rw [openInput_fst, if_neg (by simp [h])]
  rcases hbefore : before.requested with _ | _
  · obtain ⟨hafter, detected, hcheck⟩ := hrequested.resolve_left (by simp [hbefore])
    simp only [hcheck, hafter, Bool.false_eq_true, if_false, if_true]
  · rfl

/-- **The handle that opening a file leaves.**  If opening succeeds, the handle holds the file and the
signature that was found; if it fails, wherever it does, the handle is as it was. -/
lemma handle_openInput (handle : Handle) (path : Bytes) (opened : Except Failure Source)
    (before after : AbortFlag) :
    (handle.openInput path opened before after).2.1 =
      match (handle.openInput path opened before after).1 with
      | .ok () => { handle with
          input := (Signature.ofFile path opened).1.toOption.join.map (InputFile.mk path) }
      | .error _ => handle := by
  unfold openInput
  split
  · rfl
  · rcases before.check with chain | _
    · rfl
    · rcases Signature.ofFile path opened with ⟨chain | detected, events⟩
      · rfl
      · rcases after.check with chain | _
        · rfl
        · rcases detected with _ | signature <;> rfl

/-- A call settles which file is open just if it succeeds and does not only print, and it changes nothing
else about the handle. -/
lemma eq_of_perform {call : Call τ σ φ ω} {answer : Except ErrorChain Unit} {next : Handle}
    (h : handle.perform out outlets call = (answer, next)) :
    next = { handle with
      input := (Exchange.settles (call, answer)).getD handle.input } := by
  cases call with
  | openInput path opened before after =>
    have hhandle := handle_openInput handle path opened before after
    rcases hopen : handle.openInput path opened before after with ⟨chain | _, left, events⟩ <;>
      simp only [perform, hopen] at h hhandle <;> cases h
    · exact hhandle
    · exact hhandle
  | closeInput =>
    rcases handle with ⟨codepage, _ | input⟩ <;> cases h <;> rfl
  | print stream t s =>
    obtain ⟨rfl, rfl⟩ := Prod.mk.inj h
    rfl

/-- A call to close succeeds just if a file is open, and after it none is. -/
lemma perform_closeInput (out : Device τ) (outlets : Outlets σ φ ω) (handle : Handle) :
    ((handle.perform out outlets .closeInput).1 = .ok () ↔ handle.input ≠ none) ∧
      (handle.perform out outlets .closeInput).2.input = none := by
  rcases handle with ⟨codepage, _ | input⟩
  · exact ⟨iff_of_false (fun hok => nomatch hok) (fun hne => hne rfl), rfl⟩
  · exact ⟨iff_of_true rfl (fun hnone => nomatch hnone), rfl⟩

/-- A call that fails leaves the handle as it was. -/
lemma perform_of_error {call : Call τ σ φ ω} {chain : ErrorChain}
    (h : (handle.perform out outlets call).1 = .error chain) :
    (handle.perform out outlets call).2 = handle := by
  rcases hperform : handle.perform out outlets call with ⟨answer, next⟩
  rw [hperform] at h
  obtain rfl : answer = .error chain := h
  have hnext := eq_of_perform hperform
  cases call with
  | openInput path opened before after => exact hnext
  | closeInput => exact hnext
  | print stream t s => exact hnext

/-! ### A whole life -/

/-- After calls the handle is as their answers say. -/
lemma run_spec (out : Device τ) (outlets : Outlets σ φ ω) (handle : Handle)
    (calls : List (Call τ σ φ ω)) :
    (handle.run out outlets calls).2 = { handle with
      input := lastSettled Exchange.settles handle.input (handle.run out outlets calls).1 } := by
  induction calls generalizing handle with
  | nil => rfl
  | cons call calls ih =>
    rcases hperform : handle.perform out outlets call with ⟨answer, next⟩
    have hnext := eq_of_perform hperform
    simp only [run, hperform, ih, lastSettled_cons]
    rw [hnext]

variable {fit : τ → Prop} {content : τ → Bytes} [DecidableEq φ] [DecidableEq ω]

/-- **A handle is open or closed, and keeps the header that it read.**  After any calls on a new handle,
while the files change and the abort flag is set and reset as they please, the file that is open is that
of the latest call to open which succeeded, with the header that was read then, unless a call to close
has succeeded since; and the codepage is that of the beginning. A call to open succeeds just if no file
is open, the flag is clear before the header is read and after that, and a signature is found. With a
file open it says so, whatever else; a flag that is set, at the beginning or once the header was read,
aborts it. A call to close succeeds just if a file is open, and none is open after it. Calls that fail,
and calls to print, leave the handle as it was. What is printed is the description of the file that is
open and, if it is wanted, the dump of its header: a first part of the description arrives and, if
printing succeeds, all of it and the dump do. It succeeds where the device and the destination take all
they are given. -/
theorem keeps_header_of_open_file (codepage : Codepage) (calls : List (Call τ σ φ ω))
    (account : outlets.Account) (hout : out.DeliversWhile fit content) :
    let history := ((new codepage).run out outlets calls).1
    let handle := ((new codepage).run out outlets calls).2
    handle.codepage = codepage ∧
    (∀ input, handle.input = some input ↔ ∃ earlier opened before after later,
      history = earlier ++ (.openInput input.path opened before after, .ok ()) :: later ∧
      input.signature.ReadFrom opened ∧
      ∀ exchange ∈ later, exchange.2 = .ok () → ∃ stream t s, exchange.1 = .print stream t s) ∧
    (∀ path opened before after,
      let answer := (handle.perform out outlets (.openInput path opened before after)).1
      (answer = .ok () ↔ handle.input = none ∧ before.requested = false ∧ after.requested = false ∧
        ∃ signature, (Signature.ofFile path opened).1 = .ok (some signature)) ∧
      (handle.input ≠ none →
        ∃ chain, answer = .error chain ∧ chain.kind = .runtime .valueAlreadySet) ∧
      (handle.input = none → before.requested = true ∨
          after.requested = true ∧ (∃ detected, (Signature.ofFile path opened).1 = .ok detected) →
        ∃ chain, answer = .error chain ∧ chain.isAbort = true)) ∧
    ((handle.perform out outlets .closeInput).1 = .ok () ↔ handle.input ≠ none) ∧
    (handle.perform out outlets .closeInput).2.input = none ∧
    (∀ call chain, (handle.perform out outlets call).1 = .error chain →
      (handle.perform out outlets call).2 = handle) ∧
    (∀ stream t s, (handle.perform out outlets (.print stream t s)).2 = handle) ∧
    (∀ input stream t s, handle.input = some input → fit t →
      let printed := handle.print out outlets stream t s
      let text := utf8 (description input.signature codepage)
      (∃ taken, taken <+: text ∧ content printed.2.1 = content t ++ taken ∧
        (printed.1 = .ok () → taken = text)) ∧
      (printed.1 = .ok () → ∀ place, NotifyStream.Sound account stream s → account.keeps place s →
        NotifyStream.holds account place printed.2.2.1 printed.2.2.2 =
          NotifyStream.holds account place stream s ++
            if stream.verbose = true ∧ stream.destination.place = place
            then dump input.signature.header else []) ∧
      (out.Willing fit → account.takes stream.destination.place s → printed.1 = .ok ())) := by
  intro history handle
  have hrun : handle = ⟨codepage, lastSettled Exchange.settles none history⟩ :=
    run_spec out outlets (new codepage) calls
  have hclose := perform_closeInput out outlets handle
  refine ⟨by rw [hrun], fun input => ?_, fun path opened before after => ⟨?_, fun hopen => ?_, ?_⟩,
    hclose.1, hclose.2, fun call chain herror => perform_of_error herror, fun _ _ _ => rfl, ?_⟩
  · have hinput : handle.input = lastSettled Exchange.settles none history := by rw [hrun]
    rw [hinput, lastSettled_eq_iff]
    simp only [settles_eq_some_iff, settles_eq_none_iff, reduceCtorEq, false_and, or_false]
    constructor
    · rintro ⟨earlier, exchange, later, hhistory, ⟨opened, before, after, rfl, hread⟩, hlater⟩
      exact ⟨earlier, opened, before, after, later, hhistory, hread, hlater⟩
    · rintro ⟨earlier, opened, before, after, later, hhistory, hread, hlater⟩
      exact ⟨earlier, _, later, hhistory, ⟨opened, before, after, rfl, hread⟩, hlater⟩
  · exact openInput_ok_iff
  · exact ⟨_, openInput_of_open hopen, rfl⟩
  · intro hnone hrequested
    exact ⟨_, openInput_of_requested hnone hrequested, rfl⟩
  · intro input stream t s hinput ht
    obtain ⟨hcodepage, hsettled⟩ := Handle.mk.inj hrun
    have hopen : handle = ⟨codepage, some input⟩ := by rw [hrun, ← hsettled, ← hinput]
    intro printed text
    simp only [printed, hopen]
    exact ⟨content_print hout outlets input stream ht s,
      fun hok place hsound hkeeps => holds_print account hsound hkeeps hok,
      fun hwilling htakes => print_ok_of_takes account hwilling ht htakes input⟩

/-- A file of version 17 is opened and then changed to one of version 30. It cannot be opened again while
it is open, and what is printed is still the description of version 17. -/
theorem changed_header_is_not_printed :
    let plain17 : Bytes := [17, 0, 0, 0, 83, 67, 67, 65]
    let plain30 : Bytes := [30, 0, 0, 0, 83, 67, 67, 65]
    let calls : List (Call Sink World Route String) :=
      [.openInput (utf8 "a") (.ok (.ofBytes plain17)) {} {},
        .openInput (utf8 "a") (.ok (.ofBytes plain30)) {} {}]
    let handle := ((new default).run Sink.device World.outlets calls).2
    let printed := handle.print Sink.device World.outlets .silent ({} : Sink) (.ofFiles ⟨[], []⟩)
    handle.input = some ⟨utf8 "a", ⟨.uncompressed, 17, plain17⟩⟩ ∧
    printed.1 = .ok () ∧
    printed.2.1.accepted = utf8 (description ⟨.uncompressed, 17, plain17⟩ default) := by
  intro plain17 plain30 calls handle printed
  obtain ⟨-, -, -, -, -, -, -, hprint⟩ :=
    keeps_header_of_open_file default calls World.account Sink.deliversWhile_roomy
  have hinput : handle.input = some ⟨utf8 "a", ⟨.uncompressed, 17, plain17⟩⟩ := by cbv
  obtain ⟨⟨taken, -, hcontent, hall⟩, -, hok⟩ :=
    hprint _ .silent ({} : Sink) (.ofFiles ⟨[], []⟩) hinput Sink.roomy_default
  have hprinted := hok Sink.willing_roomy trivial
  refine ⟨hinput, hprinted, ?_⟩
  rw [hall hprinted] at hcontent
  exact hcontent

end PrefetchInfo.Info.Handle
