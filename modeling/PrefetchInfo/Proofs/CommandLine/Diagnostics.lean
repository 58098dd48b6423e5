import PrefetchInfo.Proofs.CommandLine.Result
import PrefetchInfo.Proofs.Error.Renderings
import PrefetchInfo.Proofs.World.Logging

/-!
# What a run writes to its log

A run opens its log before it reads the input file, and from then on its diagnostics go there if it is
verbose. They are the header dump of the input file if the run succeeds, and the backtrace of the failure
if the input file cannot be opened. The log is given up at the end of the run, and only then must all of
that have arrived. The header was read before anything was written, so it makes no difference if the log
is the input file itself.
-/

namespace PrefetchInfo.CommandLine

variable {τ α β : Type} {session : Session τ} {verbose : Bool} {route : Route} {text : Bytes}

/-- The records that tell why a run failed, the most recent first, one line each. -/
def Fault.backtrace (fault : Fault) : Bytes :=
  fault.chain?.elim [] fun chain => utf8 chain.backtraceLines

/-- A signature that reading comes to was found in the file. -/
lemma signatureAt_of_reading {codepage : Codepage} {tree : FileTree} {source : Bytes}
    {signature : Signature}
    (h : reading codepage tree source = .ok ⟨codepage, some ⟨source, signature⟩⟩) :
    tree.signatureAt source = some signature := by
  rcases reading_cases codepage tree source with ⟨other, hfound, hread⟩ | ⟨chain, hnone, hread⟩ <;>
    rw [hread] at h
  · cases h
    exact hfound
  · cases h

/-- A signature that is found in a file was read from it. -/
lemma readFrom_of_signatureAt {tree : FileTree} {source : Bytes} {signature : Signature}
    (h : tree.signatureAt source = some signature) :
    signature.ReadFrom (tree.openForReading source) := by
  rw [FileTree.signatureAt, FileTree.signatureOf_eq source] at h
  rcases hcheck : (Signature.ofFile source (tree.openForReading source)).1 with chain | detected
  · rw [hcheck] at h
    cases h
  · rw [hcheck] at h
    obtain rfl : detected = some signature := h
    exact Signature.ofFile_eq_some_iff.mp hcheck

/-! ### Steps that have nothing to tell -/

/-- A part of a run has nothing to tell if it leaves the notify stream and the files alone. -/
def Quiet (m : Act τ α) : Prop :=
  ∀ session, (m.run session).2.stream = session.stream ∧
    (m.run session).2.world.files = session.world.files

/-- Parts that have nothing to tell have nothing to tell one after the other. -/
lemma Quiet.bind {m : Act τ α} {f : α → Act τ β} (hm : Quiet m) (hf : ∀ a, Quiet (f a)) :
    Quiet (m >>= f) := by
  intro session
  have hfirst := hm session
  rw [run_bind]
  rcases hrun : m.run session with ⟨stop | a, between⟩ <;> rw [hrun] at hfirst
  · exact hfirst
  · obtain ⟨hstream', hfiles'⟩ := hf a between
    exact ⟨hstream'.trans hfirst.1, hfiles'.trans hfirst.2⟩

/-- A part of a run that has nothing to tell adds nothing to the log. -/
lemma Quiet.logs {m : Act τ α} (hm : Quiet m)
    (h : session.stream.Logs session.world verbose route text) :
    (m.run session).2.stream.Logs (m.run session).2.world verbose route text := by
  obtain ⟨hstream, hfiles⟩ := hm session
  rw [hstream]
  exact h.of_files_eq hfiles

variable {setting : Setting τ}

lemma quiet_setUp (setting : Setting τ) : Quiet (setUp setting) := by
  intro session
  rw [run_setUp]
  exact ⟨rfl, rfl⟩

lemma quiet_banner (out : Device (Buffered τ)) (kind : Banner.Kind) : Quiet (banner out kind) := by
  intro session
  rw [run_banner]
  exact ⟨rfl, rfl⟩

lemma quiet_flush (out : Device (Buffered τ)) : Quiet (flush out) := by
  intro session
  rw [run_flush]
  exact ⟨rfl, rfl⟩

lemma quiet_attach : Quiet (attach : Act τ Unit) := by
  intro session
  rw [run_attach]
  exact ⟨rfl, files_record _ _⟩

lemma quiet_openInput (harrivals : setting.arrivals = fun _ => []) (handle : Info.Handle)
    (path : Bytes) : Quiet (openInput setting handle path) := by
  intro session
  rw [run_openInput, interrupted_of_none harrivals]
  exact ⟨rfl, files_record _ _⟩

lemma quiet_closeInput (handle : Info.Handle) : Quiet (closeInput handle : Act τ Unit) := by
  intro session
  rw [run_closeInput]
  exact ⟨rfl, files_record _ _⟩

/-! ### Opening the log -/

variable {invocation : Invocation} {files : FileTree} {path source before : Bytes}

/-- Preparing leads to an open log that holds what was in the file before, and ends as reading the input
file ends. -/
lemma logs_prepare (setting : Setting τ) (harrivals : setting.arrivals = fun _ => [])
    (hlog : invocation.logFile = some path) (hopen : (files.openForAppending path).1 = .ok route)
    (hfile : (files.openForAppending path).2.content? route = some before) (source : Bytes)
    (out : Buffered τ) :
    ∃ opened, (prepare setting invocation source).run
        ((Session.start invocation ({} : Sink) files).over out) =
        (ofStep ("Unable to open: " ++ Utf8.lossy source)
          (reading invocation.codepage (files.openForAppending path).2 source), opened) ∧
      opened.stream.destination.Vacant ∧
      opened.stream.Logs opened.world (decide (invocation.verbosity > 0)) route before := by
  -- The session in the moment in which the log is open.
  let logged : Session τ := { (Session.start invocation ({} : Sink) files).over out with
    stream := ⟨decide (invocation.verbosity > 0), .owned path route []⟩
    world := World.outlets.record (.opened path)
      { World.ofFiles files with files := (files.openForAppending path).2 } }
  have hundisturbed : Undisturbed logged (files.openForAppending path).2 :=
    ⟨rfl, Notify.Destination.vacant_owned path route, rfl⟩
  have hlogs : logged.stream.Logs logged.world (decide (invocation.verbosity > 0)) route before := by
    refine ⟨rfl, rfl, Option.isSome_iff_exists.mpr ⟨before, hfile⟩, ?_⟩
    rw [NotifyStream.holds_of_nil World.account rfl]
    exact FileTree.contentAt_eq hfile
  have hopenLog : (openLog path).run ((Session.start invocation ({} : Sink) files).over out) =
      (.ok (), logged.record [.diagnosticsTo path]) :=
    run_openLog_ok rfl rfl hopen
  have hquiet : Quiet (attach >>= fun _ => openInput setting (.new invocation.codepage) source) :=
    quiet_attach.bind fun _ => quiet_openInput harrivals (.new invocation.codepage) source
  have hresult := run_attach_openInput_fst harrivals (hundisturbed.record [.diagnosticsTo path])
    invocation.codepage source
  simp only [prepare, hlog]
  rw [run_bind_ok _ hopenLog]
  refine ⟨_, Prod.ext hresult rfl, ?_, hquiet.logs (hlogs.of_files_eq (files_record _ _))⟩
  rw [(hquiet _).1]
  exact (hundisturbed.record _).vacant

/-! ### Writing to the log -/

/-- Printing adds the header dump to the log, and closing the input file and flushing add nothing. -/
lemma logs_finish {out : Device (Buffered τ)} {codepage : Codepage} {input : Info.InputFile}
    {session' : Session τ} (h : session.stream.Logs session.world verbose route text)
    (hrun : (print out ⟨codepage, some input⟩ >>= fun _ => closeInput ⟨codepage, some input⟩ >>= fun _ =>
      flush out).run session = (.ok (), session')) :
    session'.stream.Logs session'.world verbose route
      (text ++ if verbose = true then Info.Handle.dump input.signature.header else []) := by
  obtain ⟨_, printed, hprint, hrest⟩ := ok_of_run_bind hrun
  have hquiet : Quiet (closeInput ⟨codepage, some input⟩ >>= fun _ => flush out : Act τ Unit) :=
    (quiet_closeInput _).bind fun _ => quiet_flush out
  have hprinted : printed.stream.Logs printed.world verbose route
      (text ++ if verbose = true then Info.Handle.dump input.signature.header else []) := by
    rw [run_print, Prod.mk.injEq] at hprint
    obtain ⟨hresult, rfl⟩ := hprint
    refine h.print ?_
    rcases hp : (Info.Handle.print ⟨codepage, some input⟩ out World.outlets session.stream session.out
      session.world).1 with chain | _
    · rw [hp] at hresult
      cases hresult
    · rfl
  have hlogs := hquiet.logs hprinted
  rwa [hrest] at hlogs

/-- Prints the backtrace of a chain, and tells developers if it cannot be printed. -/
def Session.trace (session : Session τ) (chain : ErrorChain) : Session τ :=
  let (result, stream, world) := session.stream.printBacktrace World.outlets chain session.world
  match result with
  | .ok _ => { session with stream, world }
  | .error reason => { session with stream, world }.record [.backtraceFailed reason.brief]

/-- Printing the backtrace of a chain adds it to the log, if diagnostics are wanted. -/
lemma logs_trace (h : session.stream.Logs session.world verbose route text) (chain : ErrorChain) :
    (session.trace chain).stream.Logs (session.trace chain).world verbose route
      (text ++ if verbose = true then utf8 chain.backtraceLines else []) := by
  have hemit := h.emit chain.backtraceLines
  unfold Session.trace NotifyStream.printBacktrace
  rcases hresult : session.stream.emit World.outlets chain.backtraceLines session.world with
    ⟨reason | count, stream, world⟩ <;> rw [hresult] at hemit
  · exact hemit.of_files_eq rfl
  · exact hemit

/-- Saying why a run failed ends with the backtrace, if there is a chain; what is said before that
appears on standard error. -/
lemma report_cases (session : Session τ) (fault : Fault) :
    ∃ said : Session τ, said.stream = session.stream ∧ said.world.files = session.world.files ∧
      session.report fault = fault.chain?.elim said said.trace := by
  unfold Session.report
  rcases fault.chain? with _ | chain
  · exact ⟨session.say fault.text, rfl, rfl, rfl⟩
  · refine ⟨_, ?_, ?_, rfl⟩
    · split
      · split <;> rfl
      · rfl
    · split
      · split <;> rfl
      · rfl

/-- Saying why a run failed adds the backtrace to the log, if diagnostics are wanted. -/
lemma logs_report (h : session.stream.Logs session.world verbose route text) (fault : Fault) :
    (session.report fault).stream.Logs (session.report fault).world verbose route
      (text ++ if verbose = true then fault.backtrace else []) := by
  obtain ⟨said, hstream, hfiles, hreport⟩ := report_cases session fault
  have hsaid : said.stream.Logs said.world verbose route text := by
    rw [hstream]
    exact h.of_files_eq hfiles
  rw [hreport, Fault.backtrace]
  rcases fault.chain? with _ | chain
  · simp only [Option.elim_none, ite_self, List.append_nil]
    exact hsaid
  · exact logs_trace hsaid chain

/-- At the end of a run the file has all that the log held, and the backtrace if diagnostics are
wanted. -/
lemma content_windUp (h : session.stream.Logs session.world verbose route text) (setting : Setting τ)
    (fault : Option Fault) :
    (session.windUp setting fault).2.files.content? route =
      some (text ++ if verbose = true then fault.elim [] Fault.backtrace else []) := by
  have hdetached : ∀ (trap : Trap Handler) (events : List Event),
      (Session.record { session with trap } events).stream.Logs
        (Session.record { session with trap } events).world verbose route text := by
    intro trap events
    exact h.of_files_eq (files_record _ events)
  rcases fault with _ | fault
  · simp only [Option.elim_none, ite_self, List.append_nil]
    exact (hdetached _ _).close
  · exact (logs_report (hdetached _ _) fault).close

/-! ### A run with a log -/

section Run

variable {device : Device τ} {fit : τ → Prop} {content : τ → Bytes} {stdout : τ}
  (h : device.DeliversWhile fit content) (hwilling : device.Willing fit)
  (hwanes : device.Wanes fit) (hflush : ∀ s, fit s → (device.flush s).1 = .ok ())
  (hs : fit stdout) (hversion : invocation.version = false)
  (hsource : invocation.source = some source) (hlog : invocation.logFile = some path)
  (hopen : (files.openForAppending path).1 = .ok route)
  (hfile : (files.openForAppending path).2.content? route = some before)

include h hwilling hwanes hflush hs hversion hsource hlog hopen hfile

/-- Either the input file can be opened, and then a run succeeds and its log holds the header dump; or it
cannot, and then a run fails and its log holds nothing new so far. -/
lemma logs_act :
    (∃ signature session,
      reading invocation.codepage (files.openForAppending path).2 source =
        .ok ⟨invocation.codepage, some ⟨source, signature⟩⟩ ∧
      (act ⟨device, fun _ => []⟩ invocation).run (Session.start invocation stdout files) =
        (.ok (), session) ∧
      session.stream.Logs session.world (decide (invocation.verbosity > 0)) route
        (before ++ if decide (invocation.verbosity > 0) = true then
          Info.Handle.dump signature.header else [])) ∨
    (∃ chain session,
      reading invocation.codepage (files.openForAppending path).2 source = .error chain ∧
      (act ⟨device, fun _ => []⟩ invocation).run (Session.start invocation stdout files) =
        (.error (.failed (.step ("Unable to open: " ++ Utf8.lossy source) chain)), session) ∧
      session.stream.Logs session.world (decide (invocation.verbosity > 0)) route before) := by
  obtain ⟨hout, hunfailing⟩ := takes_out h hwilling hwanes hflush invocation
  obtain ⟨out, hP, hact⟩ := run_act_eq h hwilling hwanes hflush hs hversion hsource files
  obtain ⟨opened, hprepare, hvacant, hlogs⟩ :=
    logs_prepare ⟨device, fun _ => []⟩ rfl hlog hopen hfile source out
  have hsame := prepare_out_eq ⟨device, fun _ => []⟩ invocation source
    ((Session.start invocation ({} : Sink) files).over out)
  rw [hprepare] at hsame
  rw [hact, inspect_eq]
  rcases reading_cases invocation.codepage (files.openForAppending path).2 source with
    ⟨signature, hfound, hread⟩ | ⟨chain, hnone, hread⟩ <;> rw [hread] at hprepare ⊢
  · obtain ⟨data, hdetect⟩ := FileTree.exists_detect_of_signatureOf hfound
    have hopened : opened.out = out := hsame
    have hok := finish_ok hout hunfailing (hopened ▸ hP) hvacant hdetect invocation.codepage source
    obtain ⟨session, hfinish⟩ : ∃ session, (print (Output.device invocation.mode device)
        ⟨invocation.codepage, some ⟨source, signature⟩⟩ >>= fun _ =>
        closeInput ⟨invocation.codepage, some ⟨source, signature⟩⟩ >>= fun _ =>
        flush (Output.device invocation.mode device)).run opened = (.ok (), session) :=
      ⟨_, Prod.ext hok rfl⟩
    have hfinished := logs_finish hlogs hfinish
    refine .inl ⟨signature, session, rfl, ?_, hfinished⟩
    rw [run_bind_ok _ hprepare]
    exact hfinish
  · refine .inr ⟨chain, opened, rfl, ?_, hlogs⟩
    rw [run_bind_error _ hprepare]

/-- When the run is over, all of that is in the file, and so is the backtrace of a failure. -/
lemma run_logs :
    (∃ signature,
      reading invocation.codepage (files.openForAppending path).2 source =
        .ok ⟨invocation.codepage, some ⟨source, signature⟩⟩ ∧
      (run ⟨device, fun _ => []⟩ invocation stdout files).stop = none ∧
      (run ⟨device, fun _ => []⟩ invocation stdout files).world.files.content? route =
        some (before ++ if invocation.verbosity = 0 then [] else Info.Handle.dump signature.header)) ∨
    (∃ chain,
      reading invocation.codepage (files.openForAppending path).2 source = .error chain ∧
      (run ⟨device, fun _ => []⟩ invocation stdout files).stop =
        some (.failed (.step ("Unable to open: " ++ Utf8.lossy source) chain)) ∧
      (run ⟨device, fun _ => []⟩ invocation stdout files).world.files.content? route =
        some (before ++ if invocation.verbosity = 0 then [] else utf8 chain.backtraceLines)) := by
  rcases logs_act h hwilling hwanes hflush hs hversion hsource hlog hopen hfile with
    ⟨signature, session, hread, hrun, hlogs⟩ | ⟨chain, session, hread, hrun, hlogs⟩
  · have hcontent := content_windUp hlogs ⟨device, fun _ => []⟩ none
    simp only [Option.elim_none, ite_self, List.append_nil, decide_eq_true_eq, gt_iff_lt,
      Nat.pos_iff_ne_zero, ne_eq, ite_not] at hcontent
    refine .inl ⟨signature, hread, ?_, ?_⟩ <;> simp only [run, hrun]
    exact hcontent
  · have hcontent := content_windUp hlogs ⟨device, fun _ => []⟩
      (some (.step ("Unable to open: " ++ Utf8.lossy source) chain))
    simp only [Option.elim_some, decide_eq_true_eq, gt_iff_lt, Nat.pos_iff_ne_zero, ne_eq,
      ite_not] at hcontent
    refine .inr ⟨chain, hread, ?_, ?_⟩ <;> simp only [run, hrun]
    exact hcontent

end Run

/-- A run that is asked for its version succeeds and leaves the files alone. -/
lemma files_of_version {device : Device τ} {fit : τ → Prop} {content : τ → Bytes} {stdout : τ}
    (h : device.DeliversWhile fit content) (hwilling : device.Willing fit)
    (hwanes : device.Wanes fit) (hflush : ∀ s, fit s → (device.flush s).1 = .ok ())
    (hs : fit stdout) (hversion : invocation.version = true) (files : FileTree) :
    (run ⟨device, fun _ => []⟩ invocation stdout files).world.files = files := by
  obtain ⟨hout, hunfailing⟩ := takes_out h hwilling hwanes hflush invocation
  obtain ⟨_, ready, hready, hP⟩ := (writes_setUp h invocation.mode (fun _ => hflush) hs).ok
  obtain ⟨_, detailed, hdetailed, hP⟩ := (writes_banner hout hunfailing .detailed hP).ok
  obtain ⟨_, printed, hprinted, hP⟩ := (writes_banner hout hunfailing .copyright hP).ok
  obtain ⟨_, flushed, hflushed, hP⟩ := (writes_flush hout hunfailing hP).ok
  have hact : (act ⟨device, fun _ => []⟩ invocation).run (Session.start invocation stdout files) =
      (.ok (), flushed) := by
    rw [act, run_bind_ok _ hready]
    simp only [hversion, if_true]
    rw [run_bind_ok _ hdetailed, run_bind_ok _ hprinted]
    exact hflushed
  have hquiet : Quiet (act ⟨device, fun _ => []⟩ invocation) := by
    unfold act
    simp only [hversion, if_true]
    exact (quiet_setUp _).bind fun _ => (quiet_banner _ _).bind fun _ =>
      (quiet_banner _ _).bind fun _ => quiet_flush _
  obtain ⟨hstream, hfiles⟩ := hquiet (Session.start invocation stdout files)
  rw [hact] at hstream hfiles
  have hclose : ∀ world, (flushed.stream.close World.outlets world).2.2.files = world.files := by
    intro world
    rw [hstream]
    rfl
  simp only [run, hact]
  exact (hclose _).trans ((files_record _ _).trans hfiles)

/-- **What a run writes to its log.**  If no interruption arrives and standard output takes all it is
given, then the log of a run, a file, holds what it held before and, behind that, nothing if diagnostics
are not wanted. If they are, it is followed by the dump of the header that was read from the input file,
as it was before the log was opened, when the run succeeds; and when the input file cannot be opened, by
the rendering of that failure: the messages of all its records, the most recent first, with a line feed
behind each of them. A run that is asked for its version does not open its log. -/
theorem log_holds_diagnostics {device : Device τ} {fit : τ → Prop} {content : τ → Bytes} {stdout : τ}
    (h : device.DeliversWhile fit content) (hwilling : device.Willing fit)
    (hwanes : device.Wanes fit) (hflush : ∀ s, fit s → (device.flush s).1 = .ok ())
    (hs : fit stdout) (hsource : invocation.source = some source)
    (hlog : invocation.logFile = some path) (hopen : (files.openForAppending path).1 = .ok route)
    (hfile : (files.openForAppending path).2.content? route = some before) :
    let opening := (Info.Handle.new invocation.codepage).openInput source
      ((files.openForAppending path).2.openForReading source) {} {}
    let ending := launch device (fun _ => []) invocation stdout files
    before = files.contentAt route ∧
    (invocation.version = true → ending.world.files = files) ∧
    (invocation.version = false →
      (∃ signature, opening.1 = .ok () ∧
        opening.2.1 = ⟨invocation.codepage, some ⟨source, signature⟩⟩ ∧
        signature.ReadFrom (files.openForReading source) ∧ ending.exitCode? = some 0 ∧
        ending.world.files.content? route = some (before ++ if invocation.verbosity = 0 then [] else
          utf8 "File header data:\n" ++ utf8 (HexDump.text signature.header))) ∨
      (∃ chain, opening.1 = .error chain ∧ ending.exitCode? = some 1 ∧
        ending.world.files.content? route = some (before ++ if invocation.verbosity = 0 then [] else
          ErrorChain.rendering chain.newestFirst))) := by
  intro opening ending
  obtain ⟨hline, hlineWilling, hlineWanes, hlineFlush⟩ := line_takes h hwilling hwanes hflush
  have hstart : (fun b : Buffered τ => fit b.inner) (Output.ofSink stdout) := hs
  have hbefore : before = files.contentAt route := by
    rw [← FileTree.contentAt_openForAppending files path route, FileTree.contentAt_eq hfile]
  refine ⟨hbefore, fun hversion => ?_, fun hversion => ?_⟩
  · exact files_of_version hline hlineWilling hlineWanes hlineFlush hstart hversion files
  · rcases run_logs hline hlineWilling hlineWanes hlineFlush hstart hversion hsource hlog hopen hfile with
      ⟨signature, hread, hstop, hcontent⟩ | ⟨chain, hread, hstop, hcontent⟩
    · have hstopped : ending.stop = none := hstop
      unfold Info.Handle.dump Info.Handle.dumpHeading at hcontent
      have hfound := signatureAt_of_reading hread
      rw [FileTree.signatureAt_of_logging (FileTree.logging_of_ok hopen) source] at hfound
      obtain ⟨hopened, hhandle⟩ := reading_eq_ok_iff.mp hread
      refine .inl ⟨signature, hopened, hhandle, readFrom_of_signatureAt hfound, ?_, hcontent⟩
      rw [Ending.exitCode?, hstopped]
    · have hstopped : ending.stop =
          some (.failed (.step ("Unable to open: " ++ Utf8.lossy source) chain)) := hstop
      rw [ErrorChain.backtraceLines, ErrorChain.utf8_lines] at hcontent
      refine .inr ⟨chain, reading_eq_error_iff.mp hread, ?_, hcontent⟩
      rw [Ending.exitCode?, hstopped]

/-- A plain file of version 17 to which the log is appended ends with the dump of its own header. -/
theorem log_in_source_holds_own_header :
    (launch Sink.device (fun _ => [])
      { source := some (utf8 "a"), codepage := default, logFile := some (utf8 "a")
        unbuffered := true, verbosity := 2, version := false } ({} : Sink)
      ⟨[], [([utf8 "a"], .file [17, 0, 0, 0, 83, 67, 67, 65])]⟩).exitCode? = some 0 ∧
    (launch Sink.device (fun _ => [])
      { source := some (utf8 "a"), codepage := default, logFile := some (utf8 "a")
        unbuffered := true, verbosity := 2, version := false } ({} : Sink)
      ⟨[], [([utf8 "a"], .file [17, 0, 0, 0, 83, 67, 67, 65])]⟩).world.files.content? [utf8 "a"] =
      some ([17, 0, 0, 0, 83, 67, 67, 65] ++ (utf8 "File header data:\n" ++
        utf8 (HexDump.text [17, 0, 0, 0, 83, 67, 67, 65]))) := by
  let invocation : Invocation :=
    { source := some (utf8 "a"), codepage := default, logFile := some (utf8 "a")
      unbuffered := true, verbosity := 2, version := false }
  let files : FileTree := ⟨[], [([utf8 "a"], .file [17, 0, 0, 0, 83, 67, 67, 65])]⟩
  have hsource : invocation.source = some (utf8 "a") := rfl
  have hlog : invocation.logFile = some (utf8 "a") := rfl
  have hopen : (files.openForAppending (utf8 "a")).1 = .ok [utf8 "a"] := by cbv
  have hfile : (files.openForAppending (utf8 "a")).2.content? [utf8 "a"] =
      some [17, 0, 0, 0, 83, 67, 67, 65] := by cbv
  have hreading : (Info.Handle.new invocation.codepage).openInput (utf8 "a")
      ((files.openForAppending (utf8 "a")).2.openForReading (utf8 "a")) {} {} =
      (.ok (), ⟨default, some ⟨utf8 "a", .uncompressed, 17, [17, 0, 0, 0, 83, 67, 67, 65]⟩⟩,
        [.inputOpened (utf8 "a") .uncompressed]) := by cbv
  obtain ⟨-, -, hrun⟩ := log_holds_diagnostics Sink.deliversWhile_roomy Sink.willing_roomy
    (Sink.wanes _) Sink.flush_roomy Sink.roomy_default hsource hlog hopen hfile
  rcases hrun rfl with ⟨signature, -, hhandle, -, hcode, hcontent⟩ | ⟨chain, hfailed, -, -⟩
  · rw [hreading] at hhandle
    obtain rfl : (⟨.uncompressed, 17, [17, 0, 0, 0, 83, 67, 67, 65]⟩ : Signature) = signature := by
      cases hhandle
      rfl
    exact ⟨hcode, hcontent⟩
  · rw [hreading] at hfailed
    cases hfailed

end PrefetchInfo.CommandLine
