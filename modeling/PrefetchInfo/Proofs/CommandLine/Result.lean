import PrefetchInfo.Proofs.CommandLine.Endings
import PrefetchInfo.Proofs.CommandLine.Opening
import PrefetchInfo.Proofs.Output.Steady
import PrefetchInfo.Proofs.World.Account

/-!
# The result of a run

If no interruption arrives and standard output takes all it is given, then the result of a run depends on
the files, the path of the input file and the codepage only: the run succeeds if a signature is found in
the input file, and its output is the banner and, in that case, the description of the file. How output
is buffered, how much is told to developers and where diagnostics go has no influence on either.
-/

namespace PrefetchInfo.CommandLine

variable {τ : Type} {device : Device τ} {fit : τ → Prop} {content : τ → Bytes} {stdout : τ}
  {invocation : Invocation} {files : FileTree} {source : Bytes}

/-! ### The text of a run -/

/-- The text of a run that looks at a file and is not interrupted. -/
lemma fullText_eq (files : FileTree) (hversion : invocation.version = false)
    (hsource : invocation.source = some source) :
    fullText (fun _ => []) invocation files = utf8 (Banner.text program .version) ++
      (found invocation files source).elim [] fun signature =>
        utf8 (Info.description signature invocation.codepage) := by
  have hsame := run_prepare_fst ⟨Sink.device, fun _ => []⟩ invocation files source (Output.ofSink {})
  have htext : textOfPrepared (prepared (fun _ => []) invocation files source) =
      (found invocation files source).elim [] fun signature =>
        utf8 (Info.description signature invocation.codepage) := by
    rw [← hsame]
    rcases prepare_cases ⟨Sink.device, fun _ => []⟩ rfl invocation files source (Output.ofSink {}) with
      ⟨signature, _, hfound, hrun, _⟩ | ⟨_, _, hfound, hrun⟩ <;> rw [hfound, hrun] <;> rfl
  simp only [fullText, hversion, Bool.false_eq_true, if_false, hsource, Option.elim_some, htext]

/-! ### How a run ends -/

section Steps

variable {P : Buffered τ → Prop} {view : Buffered τ → Bytes} {out : Device (Buffered τ)}
  {session : Session τ} {data : Bytes} {signature : Signature}

/-- Printing succeeds if the output takes all it is given and diagnostics go to a vacant destination. -/
lemma print_ok (hwilling : out.Willing P) (hP : P session.out)
    (hvacant : session.stream.destination.Vacant)
    (hdetect : Signature.detect data = some signature) (codepage : Codepage) (path : Bytes) :
    ((print out ⟨codepage, some ⟨path, signature⟩⟩).run session).1 = .ok () := by
  have hok := hwilling.writeAll_ok (utf8 (Info.description signature codepage)) hP
  have hheader : (Info.Handle.printHeader signature World.outlets session.stream session.world).1 =
      .ok () := Info.Handle.printHeader_ok World.willing_standardError hdetect hvacant session.world
  rw [run_print]
  rcases hw : out.writeAll (utf8 (Info.description signature codepage)) session.out with ⟨result, b⟩
  rw [hw] at hok
  obtain rfl : result = .ok () := hok
  simp only [Info.Handle.print, hw, hheader]
  rfl

/-- So does all that follows. -/
lemma finish_ok (h : out.AppendsWhile P view) (hunfailing : Unfailing False P out)
    (hP : P session.out) (hvacant : session.stream.destination.Vacant)
    (hdetect : Signature.detect data = some signature) (codepage : Codepage) (path : Bytes) :
    ((print out ⟨codepage, some ⟨path, signature⟩⟩ >>= fun _ =>
      closeInput ⟨codepage, some ⟨path, signature⟩⟩ >>= fun _ => flush out).run session).1 =
      .ok () := by
  have hprint := print_ok (hunfailing id).1 hP hvacant hdetect codepage path
  obtain ⟨hprinted, -⟩ := prints_print h hunfailing ⟨codepage, some ⟨path, signature⟩⟩ hP
  have hclose : ∀ session : Session τ, (closeInput ⟨codepage, some ⟨path, signature⟩⟩).run session =
      (.ok (), session.record [.inputClosed path]) := by
    intro session
    rw [run_closeInput]
    rfl
  rw [run_bind_ok _ (Prod.ext hprint rfl), run_bind_ok _ (hclose _), run_flush]
  simp only [Session.record, (hunfailing id).2 _ hprinted]
  rfl

end Steps

/-- A run that has an exit status was not killed. -/
lemma killer?_of_exitCode? {ending : Ending τ} {code : Nat} (h : ending.exitCode? = some code) :
    ending.killer? = none := by
  rcases ending with ⟨_ | ⟨fault | raw⟩, stdout, world⟩
  · rfl
  · rfl
  · cases h

section Run

variable (h : device.DeliversWhile fit content) (hwilling : device.Willing fit)
  (hwanes : device.Wanes fit) (hflush : ∀ s, fit s → (device.flush s).1 = .ok ())
  (hs : fit stdout) (hversion : invocation.version = false)
  (hsource : invocation.source = some source) (files : FileTree)

include h hwilling hwanes hflush hs hversion hsource

omit hs hversion hsource in
/-- The output of a run takes all it is given, and appends it. -/
lemma takes_out (invocation : Invocation) :
    (Output.device invocation.mode device).AppendsWhile
      (fun b => fit b.inner ∧ Output.Tidy invocation.mode b) (Buffered.given content) ∧
    Unfailing False (fun b => fit b.inner ∧ Output.Tidy invocation.mode b)
      (Output.device invocation.mode device) := by
  have huninterrupted : Output.UninterruptedIn invocation.mode device fit :=
    Output.uninterruptedIn_of_flush_ok hflush
  exact ⟨Output.appendsWhile_device h huninterrupted,
    unfailing_device h huninterrupted fun _ => ⟨hwilling, hwanes, hflush⟩⟩

omit hs hversion hsource in
/-- Standard output of a process takes all it is given in front of a device that does. -/
lemma line_takes :
    (LineBuffer.device Output.lineCapacity device).DeliversWhile (fun b : Buffered τ => fit b.inner)
      (Buffered.given content) ∧
    (LineBuffer.device Output.lineCapacity device).Willing (fun b : Buffered τ => fit b.inner) ∧
    (LineBuffer.device Output.lineCapacity device).Wanes (fun b : Buffered τ => fit b.inner) ∧
    ∀ b : Buffered τ, fit b.inner →
      ((LineBuffer.device Output.lineCapacity device).flush b).1 = .ok () :=
  ⟨LineBuffer.deliversWhile_device h Output.lineCapacity,
    LineBuffer.willing_device hwilling hwanes Output.lineCapacity,
    LineBuffer.wanes_device hwilling hwanes Output.lineCapacity,
    fun _ hb => BlockBuffer.flush_ok hwilling hflush hb⟩

/-- Once the banner is written, a run looks at the input file. -/
lemma run_act_eq :
    ∃ out : Buffered τ, (fit out.inner ∧ Output.Tidy invocation.mode out) ∧
      (act ⟨device, fun _ => []⟩ invocation).run (Session.start invocation stdout files) =
        (inspect ⟨device, fun _ => []⟩ invocation source).run
          ((Session.start invocation ({} : Sink) files).over out) := by
  obtain ⟨hout, hunfailing⟩ := takes_out h hwilling hwanes hflush invocation
  obtain ⟨_, ready, hready, hP⟩ := (writes_setUp h invocation.mode (fun _ => hflush) hs).ok
  obtain ⟨_, begun, hbegun, hP⟩ := (writes_banner hout hunfailing .version hP).ok
  refine ⟨begun.out, hP, ?_⟩
  rw [← begun_eq hready hbegun, act, run_bind_ok _ hready]
  simp only [hversion, Bool.false_eq_true, if_false]
  rw [run_bind_ok _ hbegun, hsource]

/-- A run succeeds or fails as it finds a signature or not. -/
lemma act_cases :
    (∃ signature, found invocation files source = some signature ∧
      ((act ⟨device, fun _ => []⟩ invocation).run (Session.start invocation stdout files)).1 =
        .ok ()) ∨
    (∃ fault, found invocation files source = none ∧
      ((act ⟨device, fun _ => []⟩ invocation).run (Session.start invocation stdout files)).1 =
        .error (.failed fault)) := by
  obtain ⟨hout, hunfailing⟩ := takes_out h hwilling hwanes hflush invocation
  obtain ⟨out, hP, hact⟩ := run_act_eq h hwilling hwanes hflush hs hversion hsource files
  have hsame := prepare_out_eq ⟨device, fun _ => []⟩ invocation source
    ((Session.start invocation ({} : Sink) files).over out)
  rw [hact, inspect_eq]
  rcases prepare_cases ⟨device, fun _ => []⟩ rfl invocation files source out with
    ⟨signature, opened, hfound, hrun, hvacant⟩ | ⟨fault, failed, hfound, hrun⟩
  · rw [hrun] at hsame
    obtain ⟨data, hdetect⟩ := exists_detect_of_found hfound
    refine .inl ⟨signature, hfound, ?_⟩
    rw [run_bind_ok _ hrun]
    exact finish_ok hout hunfailing (hsame ▸ hP) hvacant hdetect invocation.codepage source
  · exact .inr ⟨fault, hfound, by rw [run_bind_error _ hrun]⟩

/-- A run that is not interrupted tells by its exit status whether it found a signature, and gets all
of its text to its sink. -/
lemma run_result :
    (run ⟨device, fun _ => []⟩ invocation stdout files).exitCode? =
      some (if (found invocation files source).isSome then 0 else 1) ∧
    fit (run ⟨device, fun _ => []⟩ invocation stdout files).stdout ∧
    content (run ⟨device, fun _ => []⟩ invocation stdout files).stdout =
      content stdout ++ fullText (fun _ => []) invocation files := by
  obtain ⟨hfit, hgiven⟩ := given_act (fun _ => []) invocation files h hwilling hwanes hflush hs
  have hdrained := fun b : Buffered τ => h.fit_of_reaches (BlockBuffer.reaches_drain device b)
  have hend := act_cases h hwilling hwanes hflush hs hversion hsource files
  rcases run_cases ⟨device, fun _ => []⟩ invocation stdout files with
    ⟨raw, session, hrun, _, _⟩ | ⟨fault, session, hrun, hstop, hstdout⟩ |
    ⟨session, hrun, hstop, hstdout⟩ <;> rw [hrun] at hfit hgiven hend
  · rcases hend with ⟨_, _, hok⟩ | ⟨_, _, herror⟩
    · cases hok
    · cases herror
  · obtain ⟨_, hnone, _⟩ := hend.resolve_left fun ⟨_, _, hok⟩ => by cases hok
    rw [hstdout, ← hgiven]
    refine ⟨?_, hdrained session.out hfit, BlockBuffer.content_release h hwilling hfit⟩
    rw [Ending.exitCode?, hstop, hnone]
    rfl
  · obtain ⟨_, hsome, _⟩ := hend.resolve_right fun ⟨_, _, herror⟩ => by cases herror
    rw [hstdout, ← hgiven]
    refine ⟨?_, hdrained session.out hfit, BlockBuffer.content_release h hwilling hfit⟩
    rw [Ending.exitCode?, hstop, hsome]
    rfl

/-- The same holds of a run as a process. -/
lemma launch_result :
    (launch device (fun _ => []) invocation stdout files).exitCode? =
      some (if (found invocation files source).isSome then 0 else 1) ∧
    content (launch device (fun _ => []) invocation stdout files).stdout =
      content stdout ++ fullText (fun _ => []) invocation files := by
  obtain ⟨hline, hlineWilling, hlineWanes, hlineFlush⟩ := line_takes h hwilling hwanes hflush
  have hstart : (fun b : Buffered τ => fit b.inner) (Output.ofSink stdout) := hs
  obtain ⟨hcode, hfit, hcontent⟩ :=
    run_result hline hlineWilling hlineWanes hlineFlush hstart hversion hsource files
  rw [Output.given_ofSink] at hcontent
  refine ⟨hcode, ?_⟩
  rw [← hcontent]
  simp only [launch, killer?_of_exitCode? hcode, Option.isSome_none, Bool.false_eq_true, if_false]
  exact BlockBuffer.content_release h hwilling hfit

end Run

/-- **The result of a run.**  If no interruption arrives and standard output takes all it is given, then
a run exits with success exactly if the log file, when one is wanted, can be opened and a signature is
then found in the input file. Its output is the banner, followed by the description of the file if the
run succeeds. And as long as log files can be opened, neither the buffering nor the verbosity nor the log
file makes a difference to the exit status or to the output, not even if the log file is a device that
is full or the input file itself. -/
theorem result_of_signature (h : device.DeliversWhile fit content) (hwilling : device.Willing fit)
    (hwanes : device.Wanes fit) (hflush : ∀ s, fit s → (device.flush s).1 = .ok ())
    (hs : fit stdout) (hversion : invocation.version = false)
    (hsource : invocation.source = some source) (files : FileTree) :
    let ending := launch device (fun _ => []) invocation stdout files
    ending.exitCode? = some (if (found invocation files source).isSome then 0 else 1) ∧
    content ending.stdout = content stdout ++ utf8 (Banner.text program .version) ++
      (found invocation files source).elim [] (fun signature =>
        utf8 (Info.description signature invocation.codepage)) ∧
    ∀ unbuffered verbosity logFile, (files.logging invocation.logFile).isSome →
      (files.logging logFile).isSome →
      let other := launch device (fun _ => [])
        { invocation with unbuffered, verbosity, logFile } stdout files
      other.exitCode? = ending.exitCode? ∧ content other.stdout = content ending.stdout := by
  intro ending
  obtain ⟨hcode, hcontent⟩ := launch_result h hwilling hwanes hflush hs hversion hsource files
  rw [fullText_eq files hversion hsource, ← List.append_assoc] at hcontent
  refine ⟨hcode, hcontent, fun unbuffered verbosity logFile hlog hother => ?_⟩
  intro other
  have hversion' : { invocation with unbuffered, verbosity, logFile }.version = false := hversion
  obtain ⟨hcode', hcontent'⟩ :=
    launch_result h hwilling hwanes hflush hs hversion' hsource files
  rw [fullText_eq files hversion' hsource, ← List.append_assoc] at hcontent'
  have hsame : found { invocation with unbuffered, verbosity, logFile } files source =
      found invocation files source := by
    rw [found_of_logging hlog, found_of_logging hother]
  exact ⟨hcode'.trans (hsame ▸ hcode.symm), hcontent'.trans (hsame ▸ hcontent.symm)⟩

/-- A plain file of version 17 is described also if the log is appended to the file itself. -/
theorem result_of_log_in_source :
    (launch Sink.device (fun _ => [])
      { source := some (utf8 "a"), codepage := default, logFile := some (utf8 "a")
        unbuffered := true, verbosity := 2, version := false } ({} : Sink)
      ⟨[], [([utf8 "a"], .file [17, 0, 0, 0, 83, 67, 67, 65])]⟩).exitCode? = some 0 ∧
    (launch Sink.device (fun _ => [])
      { source := some (utf8 "a"), codepage := default, logFile := some (utf8 "a")
        unbuffered := true, verbosity := 2, version := false } ({} : Sink)
      ⟨[], [([utf8 "a"], .file [17, 0, 0, 0, 83, 67, 67, 65])]⟩).stdout.accepted =
      utf8 (Banner.text program .version) ++ utf8 (Info.description
        ⟨.uncompressed, 17, [17, 0, 0, 0, 83, 67, 67, 65]⟩ default) ∧
    (launch Sink.device (fun _ => [])
      { source := some (utf8 "a"), codepage := default, logFile := none
        unbuffered := false, verbosity := 0, version := false } ({} : Sink)
      ⟨[], [([utf8 "a"], .file [17, 0, 0, 0, 83, 67, 67, 65])]⟩).exitCode? = some 0 := by
  have hversion : ({ source := some (utf8 "a"), codepage := default, logFile := some (utf8 "a")
                     unbuffered := true, verbosity := 2, version := false } : Invocation).version =
      false := rfl
  have hfound : found
      { source := some (utf8 "a"), codepage := default, logFile := some (utf8 "a")
        unbuffered := true, verbosity := 2, version := false }
      ⟨[], [([utf8 "a"], .file [17, 0, 0, 0, 83, 67, 67, 65])]⟩ (utf8 "a") =
      some ⟨.uncompressed, 17, [17, 0, 0, 0, 83, 67, 67, 65]⟩ := by cbv
  have hlog : (FileTree.logging ⟨[], [([utf8 "a"], .file [17, 0, 0, 0, 83, 67, 67, 65])]⟩
      (some (utf8 "a"))).isSome := by cbv
  obtain ⟨hcode, hcontent, hsame⟩ := result_of_signature Sink.deliversWhile_roomy Sink.willing_roomy
    (Sink.wanes _) Sink.flush_roomy Sink.roomy_default hversion rfl
    ⟨[], [([utf8 "a"], .file [17, 0, 0, 0, 83, 67, 67, 65])]⟩
  rw [hfound] at hcode hcontent
  exact ⟨hcode, hcontent, (hsame false 0 none hlog rfl).1.trans hcode⟩

end PrefetchInfo.CommandLine
