import PrefetchInfo.Proofs.CommandLine.Steps
import PrefetchInfo.Proofs.Files.Detection
import PrefetchInfo.Proofs.Info.HeaderDump
import PrefetchInfo.Proofs.Interrupt.Trapping
import PrefetchInfo.Proofs.Notify.Calls

/-!
# Opening the input file undisturbed

If no interruption arrives, then what comes before the input file is described depends on the files
only: the log file can be opened or it cannot, and after that a signature is found in the input file or
none is. In the first case the run goes on with that signature, in the other it fails.
-/

namespace PrefetchInfo

/-! ### Checking a file -/

/-- The signature of a file is what the check of the file answers, if it answers. -/
lemma FileTree.signatureOf_eq (path : Bytes) (opened : Except Failure Source) :
    signatureOf opened = (Signature.ofFile path opened).1.toOption.join := by
  rcases opened with failure | source
  · rfl
  · change _ = (context (Signature.ofReading (source.take Signature.headerSize)).1 _ _).toOption.join
    rw [signatureOf]
    rcases source.take Signature.headerSize with ⟨bytes, _ | _ | failure⟩
    · rfl
    · rfl
    · simp only [Signature.ofReading]
      split <;> rfl

/-- What opening a file comes to when nobody asks to stop: a signature is found, which the new handle
then holds, or there is none, and opening fails and leaves the handle new. -/
lemma Info.Handle.openInput_cases (codepage : Codepage) (path : Bytes)
    (opened : Except Failure Source) :
    (∃ signature events, FileTree.signatureOf opened = some signature ∧
      (new codepage).openInput path opened {} {} =
        (.ok (), ⟨codepage, some ⟨path, signature⟩⟩, events)) ∨
    (∃ chain events, FileTree.signatureOf opened = none ∧
      (new codepage).openInput path opened {} {} = (.error chain, new codepage, events)) := by
  rw [FileTree.signatureOf_eq path, openInput]
  rcases Signature.ofFile path opened with ⟨chain | _ | signature, events⟩
  · exact .inr ⟨chain, events, rfl, rfl⟩
  · exact .inr ⟨_, _, rfl, rfl⟩
  · exact .inl ⟨signature, _, rfl, rfl⟩

namespace CommandLine

variable {τ : Type} {session : Session τ} {tree : FileTree}

/-! ### Reading the input file -/

/-- How opening an input file ends if nobody asks to stop: with a handle that holds it, or with the reason
why there is none. -/
def reading (codepage : Codepage) (tree : FileTree) (source : Bytes) : Except ErrorChain Info.Handle :=
  let (result, handle, _) :=
    (Info.Handle.new codepage).openInput source (tree.openForReading source) {} {}
  result.map fun _ => handle

variable {codepage : Codepage} {source : Bytes}

/-- Reading ends with a handle just if opening succeeds and leaves that handle. -/
lemma reading_eq_ok_iff {handle : Info.Handle} :
    reading codepage tree source = .ok handle ↔
      ((Info.Handle.new codepage).openInput source (tree.openForReading source) {} {}).1 = .ok () ∧
      ((Info.Handle.new codepage).openInput source (tree.openForReading source) {} {}).2.1 = handle := by
  unfold reading
  rcases (Info.Handle.new codepage).openInput source (tree.openForReading source) {} {} with
    ⟨chain | _, opened, events⟩
  · exact iff_of_false (fun h => nomatch h) (fun h => nomatch h.1)
  · exact ⟨fun h => ⟨rfl, Except.ok.inj h⟩, fun h => congrArg Except.ok h.2⟩

/-- Reading fails just as opening does. -/
lemma reading_eq_error_iff {chain : ErrorChain} :
    reading codepage tree source = .error chain ↔
      ((Info.Handle.new codepage).openInput source (tree.openForReading source) {} {}).1 =
        .error chain := by
  unfold reading
  rcases (Info.Handle.new codepage).openInput source (tree.openForReading source) {} {} with
    ⟨other | _, opened, events⟩
  · exact ⟨fun h => congrArg Except.error (Except.error.inj h),
      fun h => congrArg Except.error (Except.error.inj h)⟩
  · exact iff_of_false (fun h => nomatch h) (fun h => nomatch h)

/-- Either a signature is found, and reading ends with a handle that holds it; or none is, and reading
fails. -/
lemma reading_cases (codepage : Codepage) (tree : FileTree) (source : Bytes) :
    (∃ signature, tree.signatureAt source = some signature ∧
      reading codepage tree source = .ok ⟨codepage, some ⟨source, signature⟩⟩) ∨
    (∃ chain, tree.signatureAt source = none ∧ reading codepage tree source = .error chain) := by
  unfold reading FileTree.signatureAt
  rcases Info.Handle.openInput_cases codepage source (tree.openForReading source) with
    ⟨signature, events, hfound, hopen⟩ | ⟨chain, events, hnone, hopen⟩ <;> rw [hopen]
  · exact .inl ⟨signature, hfound, rfl⟩
  · exact .inr ⟨chain, hnone, rfl⟩

/-! ### Steps up to the input file -/

/-- A session that goes on undisturbed: the files are known, diagnostics go to a vacant destination, and
nobody asks to stop. -/
structure Undisturbed (session : Session τ) (tree : FileTree) : Prop where
  /-- The files are as given. -/
  files_eq : session.world.files = tree
  /-- The destination of diagnostics is vacant. -/
  vacant : session.stream.destination.Vacant
  /-- Nobody asks to stop. -/
  abort_eq : session.abort = {}

/-- Telling developers of events changes no files. -/
lemma files_record (session : Session τ) (events : List Event) :
    (session.record events).world.files = session.world.files := by
  simp only [Session.record]
  induction events generalizing session with
  | nil => rfl
  | cons event events ih =>
    exact ih { session with world := session.world.utter (.event event) }

/-- Telling developers of events disturbs nothing. -/
lemma Undisturbed.record (h : Undisturbed session tree) (events : List Event) :
    Undisturbed (session.record events) tree :=
  ⟨(files_record session events).trans h.files_eq, h.vacant, h.abort_eq⟩

/-- Nothing about the trap disturbs a session. -/
lemma Undisturbed.of_trap (h : Undisturbed session tree) (trap : Trap Handler) :
    Undisturbed { session with trap } tree :=
  ⟨h.files_eq, h.vacant, h.abort_eq⟩

/-- A log file that can be opened becomes the destination of diagnostics that went to standard error. -/
lemma run_openLog_ok {path : Bytes} {route : Route} (hfiles : session.world.files = tree)
    (hdestination : session.stream.destination = .standardError)
    (hopen : (tree.openForAppending path).1 = .ok route) :
    (openLog path).run session = (.ok (),
      { session with
        stream := { session.stream with destination := .owned path route [] }
        world := World.outlets.record (.opened path)
          { session.world with files := (tree.openForAppending path).2 } }.record
        [.diagnosticsTo path]) := by
  have hworld : World.outlets.openFile path session.world =
      (.ok route, { session.world with files := (tree.openForAppending path).2 }) := by
    rw [← hopen, ← hfiles]
    rfl
  rw [run_openLog]
  rcases NotifyStream.openFile_cases World.outlets session.stream path session.world with
    ⟨rfl, _⟩ | ⟨failure, world, _, ho, _⟩ | ⟨file, world, _, ho, hf⟩
  · cases hopen
  · rw [hworld] at ho
    cases ho
  · rw [hworld] at ho
    obtain ⟨hroute, rfl⟩ := Prod.mk.inj ho
    obtain rfl := Except.ok.inj hroute
    have hreplace : session.stream.replace World.outlets (.owned path route []) (.opened path)
        { session.world with files := (tree.openForAppending path).2 } =
        (.ok (), { session.stream with destination := .owned path route [] },
          World.outlets.record (.opened path)
            { session.world with files := (tree.openForAppending path).2 }) := by
      simp only [NotifyStream.replace, NotifyStream.flushOwned, hdestination]
    simp only [hf, hreplace]
    rfl

/-- What opening the log file comes to while diagnostics go to standard error. -/
lemma openLog_cases (session : Session τ) (path : Bytes)
    (hfiles : session.world.files = tree) (hdestination : session.stream.destination = .standardError)
    (habort : session.abort = {}) :
    (∃ tree' session', tree.logging (some path) = some tree' ∧
      (openLog path).run session = (.ok (), session') ∧ Undisturbed session' tree') ∨
    (∃ fault session', tree.logging (some path) = none ∧
      (openLog path).run session = (.error (.failed fault), session')) := by
  rcases hlog : tree.openForAppending path with ⟨failure | route, tree'⟩
  · have hnone : tree.logging (some path) = none := by simp only [FileTree.logging, hlog]
    have hworld : (World.outlets.openFile path session.world).1 = .error failure := by
      change (session.world.files.openForAppending path).1 = _
      rw [hfiles, hlog]
    rw [run_openLog]
    rcases NotifyStream.openFile_cases World.outlets session.stream path session.world with
      ⟨_, hf⟩ | ⟨_, _, _, _, hf⟩ | ⟨_, _, _, ho, _⟩
    · rw [hf]
      exact .inr ⟨_, _, hnone, rfl⟩
    · rw [hf]
      exact .inr ⟨_, _, hnone, rfl⟩
    · rw [ho] at hworld
      cases hworld
  · have hroute : (tree.openForAppending path).1 = .ok route := by rw [hlog]
    have hrun := run_openLog_ok hfiles hdestination hroute
    rw [hlog] at hrun
    refine .inl ⟨tree', _, by simp only [FileTree.logging, hlog], hrun, Undisturbed.record ?_ _⟩
    exact ⟨rfl, Notify.Destination.vacant_owned path route, habort⟩

/-- Attaching the interruption handler succeeds. -/
lemma run_attach_ok (session : Session τ) :
    attach.run session = (.ok (), { session with
      trap := ((Trap.attach .willing Handler.requestAbort).run session.trap).2 }.record
        ((Trap.attach .willing Handler.requestAbort).run session.trap).1.2) := by
  rw [run_attach]
  simp only [(Trap.run_attach_willing Handler.requestAbort session.trap).1]
  rfl

variable {setting : Setting τ}

/-- If no interruption arrives, none does anything to a session. -/
lemma interrupted_of_none (harrivals : setting.arrivals = fun _ => []) (session : Session τ)
    (found : Option Route) :
    session.interrupted (found.elim [] setting.arrivals) = (none, session) := by
  rw [harrivals]
  cases found <;> rfl

/-- If no interruption arrives, opening the input file is reading it. -/
lemma run_openInput_undisturbed (harrivals : setting.arrivals = fun _ => [])
    (h : Undisturbed session tree) (codepage : Codepage) (path : Bytes) :
    (openInput setting (.new codepage) path).run session =
      (ofStep ("Unable to open: " ++ Utf8.lossy path) (reading codepage tree path),
        session.record
          ((Info.Handle.new codepage).openInput path (tree.openForReading path) {} {}).2.2) := by
  rw [run_openInput, interrupted_of_none harrivals]
  simp only [h.files_eq, h.abort_eq, reading]

/-- What opening the input file comes to if no interruption arrives. -/
lemma openInput_cases (harrivals : setting.arrivals = fun _ => []) (h : Undisturbed session tree)
    (codepage : Codepage) (path : Bytes) :
    (∃ signature session', tree.signatureAt path = some signature ∧
      (openInput setting (.new codepage) path).run session =
        (.ok ⟨codepage, some ⟨path, signature⟩⟩, session') ∧ Undisturbed session' tree) ∨
    (∃ fault session', tree.signatureAt path = none ∧
      (openInput setting (.new codepage) path).run session =
        (.error (.failed fault), session')) := by
  rw [run_openInput_undisturbed harrivals h]
  rcases reading_cases codepage tree path with ⟨signature, hfound, hread⟩ | ⟨chain, hnone, hread⟩ <;>
    rw [hread]
  · exact .inl ⟨signature, _, hfound, rfl, h.record _⟩
  · exact .inr ⟨_, _, hnone, rfl⟩

/-- If no interruption arrives, attaching the handler and opening the input file end as reading the input
file ends. -/
lemma run_attach_openInput_fst (harrivals : setting.arrivals = fun _ => [])
    (h : Undisturbed session tree) (codepage : Codepage) (path : Bytes) :
    ((attach >>= fun _ => openInput setting (.new codepage) path).run session).1 =
      ofStep ("Unable to open: " ++ Utf8.lossy path) (reading codepage tree path) := by
  rw [run_bind_ok _ (run_attach_ok session),
    run_openInput_undisturbed harrivals ((h.of_trap _).record _)]

/-- What attaching the interruption handler and opening the input file come to if no interruption
arrives. -/
lemma attach_openInput_cases (harrivals : setting.arrivals = fun _ => [])
    (h : Undisturbed session tree) (codepage : Codepage) (path : Bytes) :
    (∃ signature session', tree.signatureAt path = some signature ∧
      (attach >>= fun _ => openInput setting (.new codepage) path).run session =
        (.ok ⟨codepage, some ⟨path, signature⟩⟩, session') ∧
      session'.stream.destination.Vacant) ∨
    (∃ fault session', tree.signatureAt path = none ∧
      (attach >>= fun _ => openInput setting (.new codepage) path).run session =
        (.error (.failed fault), session')) := by
  rw [run_bind_ok _ (run_attach_ok session)]
  rcases openInput_cases harrivals ((h.of_trap _).record _) codepage path with
    ⟨signature, session', hfound, hrun, h⟩ | ⟨fault, session', hfound, hrun⟩
  · exact .inl ⟨signature, session', hfound, hrun, h.vacant⟩
  · exact .inr ⟨fault, session', hfound, hrun⟩

/-! ### All of it -/

/-- The signature that a run finds in an input file, if no interruption arrives: the log file, if one is
wanted, must be opened first. -/
def found (invocation : Invocation) (files : FileTree) (source : Bytes) : Option Signature :=
  (files.logging invocation.logFile).bind fun files => files.signatureAt source

variable {invocation : Invocation} {files : FileTree}

/-- A signature that a run finds is found in some bytes. -/
lemma exists_detect_of_found {signature : Signature}
    (h : found invocation files source = some signature) :
    ∃ data, Signature.detect data = some signature := by
  obtain ⟨_, _, hat⟩ := Option.bind_eq_some_iff.mp h
  exact FileTree.exists_detect_of_signatureOf hat

/-- If the log file can be opened, then the signature that is found is that of the input file. -/
lemma found_of_logging (h : (files.logging invocation.logFile).isSome) :
    found invocation files source = files.signatureAt source := by
  obtain ⟨tree, hlog⟩ := Option.isSome_iff_exists.mp h
  rw [found, hlog, Option.bind_some]
  exact FileTree.signatureAt_of_logging hlog source

/-- What preparing comes to if no interruption arrives. -/
lemma prepare_cases (setting : Setting τ) (harrivals : setting.arrivals = fun _ => [])
    (invocation : Invocation) (files : FileTree) (source : Bytes) (out : Buffered τ) :
    (∃ signature session', found invocation files source = some signature ∧
      (prepare setting invocation source).run
        ((Session.start invocation ({} : Sink) files).over out) =
        (.ok ⟨invocation.codepage, some ⟨source, signature⟩⟩, session') ∧
      session'.stream.destination.Vacant) ∨
    (∃ fault session', found invocation files source = none ∧
      (prepare setting invocation source).run
        ((Session.start invocation ({} : Sink) files).over out) =
        (.error (.failed fault), session')) := by
  have hstart : Undisturbed ((Session.start invocation ({} : Sink) files).over out) files :=
    ⟨rfl, Notify.Destination.vacant_standardError, rfl⟩
  rcases hlog : invocation.logFile with _ | path <;> simp only [prepare, found, hlog]
  · exact attach_openInput_cases harrivals hstart invocation.codepage source
  · rcases openLog_cases _ path hstart.files_eq rfl hstart.abort_eq with
      ⟨tree', logged, hlogging, hrun, h⟩ | ⟨fault, session', hlogging, hrun⟩
    · rw [run_bind_ok _ hrun, hlogging]
      exact attach_openInput_cases harrivals h invocation.codepage source
    · rw [run_bind_error _ hrun, hlogging]
      exact .inr ⟨fault, session', rfl, rfl⟩

end CommandLine

end PrefetchInfo
