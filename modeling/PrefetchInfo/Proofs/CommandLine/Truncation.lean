import PrefetchInfo.Proofs.CommandLine.Endings
import PrefetchInfo.Proofs.Output.Steady

/-!
# Truncated output is never a success

Standard output may fail for good at any byte. Whatever a run has got there by then, and whatever is
still passed on when its output is given up, is a first part of the text that the run prints to a sink
with room for everything. A run succeeds only after a flush of its output, so that nothing is missing
then.
-/

namespace PrefetchInfo.CommandLine

variable {τ : Type} {device : Device τ} {fit : τ → Prop} {content : τ → Bytes}
  {arrivals : Route → List Int32} {invocation : Invocation}

/-! ### A sink with room for everything -/

/-- A sink with room for everything has got all of the banner once it is written. -/
lemma pending_of_banner {mode : BufferingMode} (hmode : mode ≠ .fullyBuffered) :
    (Banner.write (Output.device mode Sink.device) program .version
      (Output.ofSink ({ flushes := 1 } : Sink))).2.pending = [] := by
  cases mode with
  | unbuffered => cbv
  | lineBuffered => cbv
  | fullyBuffered => exact absurd rfl hmode

/-- An invocation asks for one of two modes. -/
lemma mode_ne_fullyBuffered (invocation : Invocation) : invocation.mode ≠ .fullyBuffered := by
  unfold Invocation.mode
  split <;> simp

/-- A sink with room for everything has got all of the banner when the run is killed. -/
lemma pending_of_killed {files : FileTree} {session : Session Sink} {raw : Int32}
    (h : (act ⟨Sink.device, arrivals⟩ invocation).run (Session.start invocation {} files) =
      (.error (.killed raw), session)) : session.out.pending = [] := by
  obtain ⟨ready, begun, hready, hbegun, hout⟩ := killed_of_act h
  rw [run_setUp] at hready
  rw [run_banner, ← (Prod.mk.inj hready).2] at hbegun
  rw [hout, ← (Prod.mk.inj hbegun).2]
  exact pending_of_banner (mode_ne_fullyBuffered invocation)

/-- A sink with room for everything gets the text of a run. -/
lemma accepted_run (arrivals : Route → List Int32) (invocation : Invocation) (files : FileTree) :
    (run ⟨Sink.device, arrivals⟩ invocation ({} : Sink) files).stdout.accepted =
      fullText arrivals invocation files := by
  obtain ⟨hfit, hgiven⟩ := given_act arrivals invocation files Sink.deliversWhile_roomy
    Sink.willing_roomy (Sink.wanes _) Sink.flush_roomy Sink.roomy_default
  replace hgiven := hgiven.trans (List.nil_append _)
  rcases run_cases ⟨Sink.device, arrivals⟩ invocation ({} : Sink) files with
    ⟨raw, session, hrun, _, hstdout⟩ | ⟨_, session, hrun, _, hstdout⟩ | ⟨session, hrun, _, hstdout⟩ <;>
    rw [hrun] at hfit hgiven <;> rw [hstdout]
  · rwa [Buffered.given, pending_of_killed hrun, List.append_nil] at hgiven
  · exact (BlockBuffer.content_release Sink.deliversWhile_roomy Sink.willing_roomy hfit).trans hgiven
  · exact (BlockBuffer.content_release Sink.deliversWhile_roomy Sink.willing_roomy hfit).trans hgiven

/-! ### Any sink -/

/-- A run gets a first part of its text to its sink. If it succeeds, then that is all of it, and the sink
was flushed last. -/
lemma content_run (h : device.DeliversWhile fit content)
    (hflush : Output.UninterruptedIn invocation.mode device fit) (arrivals : Route → List Int32)
    (stdout : τ) (files : FileTree) (hs : fit stdout) :
    fit (run ⟨device, arrivals⟩ invocation stdout files).stdout ∧
    content (run ⟨device, arrivals⟩ invocation stdout files).stdout <+:
      content stdout ++ fullText arrivals invocation files ∧
    ((run ⟨device, arrivals⟩ invocation stdout files).stop = none →
      content (run ⟨device, arrivals⟩ invocation stdout files).stdout =
        content stdout ++ fullText arrivals invocation files ∧
      ∃ s, device.flush s = (.ok (), (run ⟨device, arrivals⟩ invocation stdout files).stdout)) := by
  obtain ⟨⟨hfit, htidy⟩, taken, hpre, hview, hall⟩ := prints_act True arrivals files h hflush
    (fun hnot => absurd trivial hnot) hs
  change _ = (Output.ofSink stdout).given content ++ taken at hview
  rw [Output.given_ofSink] at hview
  have hpre' := (List.prefix_append_right_inj (content stdout)).mpr hpre
  rw [← hview] at hpre'
  rcases run_cases ⟨device, arrivals⟩ invocation stdout files with
    ⟨raw, session, hrun, hstop, hstdout⟩ | ⟨fault, session, hrun, hstop, hstdout⟩ |
    ⟨session, hrun, hstop, hstdout⟩ <;> rw [hrun] at hfit htidy hview hall hpre' <;>
    rw [hstdout, hstop]
  · exact ⟨hfit, (List.prefix_append _ _).trans hpre', fun hnone => by cases hnone⟩
  · refine ⟨h.fit_of_reaches (BlockBuffer.reaches_drain device session.out) hfit,
      (BlockBuffer.prefix_release h hfit).trans hpre', fun hnone => by cases hnone⟩
  · obtain rfl := hall.resolve_right fun ⟨_, _, herror⟩ => by cases herror
    obtain ⟨b, hlast⟩ := flushed_of_act_ok hrun
    obtain ⟨hnil, hflushed⟩ := Output.flush_ok_cases hlast htidy
    rw [BlockBuffer.release_of_nil hnil]
    rw [Buffered.given, hnil, List.append_nil] at hview
    exact ⟨hfit, hview ▸ List.prefix_rfl, fun _ => ⟨hview, hflushed⟩⟩

/-- A process gets a first part of its text to the device behind standard output, and all of it if it
succeeds. -/
lemma content_launch (h : device.DeliversWhile fit content) (hsteady : device.Steady fit)
    (arrivals : Route → List Int32) (invocation : Invocation) (stdout : τ) (files : FileTree)
    (hs : fit stdout) :
    content (launch device arrivals invocation stdout files).stdout <+:
      content stdout ++ fullText arrivals invocation files ∧
    ((launch device arrivals invocation stdout files).stop = none →
      content (launch device arrivals invocation stdout files).stdout =
        content stdout ++ fullText arrivals invocation files) := by
  have hline := LineBuffer.deliversWhile_device h Output.lineCapacity
  have huninterrupted : Output.UninterruptedIn invocation.mode
      (LineBuffer.device Output.lineCapacity device) (fun b => fit b.inner) :=
    fun _ _ _ _ hb hf => LineBuffer.flush_uninterrupted h hsteady Output.lineCapacity hb hf
  obtain ⟨hfit, hpre, hdone⟩ :=
    content_run hline huninterrupted arrivals (Output.ofSink stdout) files hs
  rw [Output.given_ofSink] at hpre hdone
  simp only [launch]
  refine ⟨?_, fun hnone => ?_⟩
  · split
    · exact (List.prefix_append _ _).trans hpre
    · exact (BlockBuffer.prefix_release h hfit).trans hpre
  · obtain ⟨hall, b, hflush⟩ := hdone hnone
    have hnil := BlockBuffer.pending_of_flush_ok hflush
    rw [Buffered.given, hnil, List.append_nil] at hall
    rw [BlockBuffer.release_of_nil hnil, ite_self, hall]

/-- **Truncated output is never a success.**  Whatever a steady device does, a run gets a first part of
its text to it, also of what is passed on only when the output is given up: of the text, that is, that
the same run prints to a sink with room for everything. If the run succeeds, then all of the text has
arrived. The same holds of a run as a process, whose standard output has a line buffer of its own in
front of the device. -/
theorem success_only_if_complete (h : device.DeliversWhile fit content) (hsteady : device.Steady fit)
    {stdout : τ} (hs : fit stdout) (arrivals : Route → List Int32) (invocation : Invocation)
    (files : FileTree) :
    let full := (run ⟨Sink.device, arrivals⟩ invocation ({} : Sink) files).stdout.accepted
    (content (run ⟨device, arrivals⟩ invocation stdout files).stdout <+: content stdout ++ full ∧
      ((run ⟨device, arrivals⟩ invocation stdout files).stop = none →
        content (run ⟨device, arrivals⟩ invocation stdout files).stdout = content stdout ++ full)) ∧
    (content (launch device arrivals invocation stdout files).stdout <+: content stdout ++ full ∧
      ((launch device arrivals invocation stdout files).exitCode? = some 0 →
        content (launch device arrivals invocation stdout files).stdout =
          content stdout ++ full)) := by
  intro full
  have hfull : full = fullText arrivals invocation files := accepted_run arrivals invocation files
  rw [hfull]
  have huninterrupted : Output.UninterruptedIn invocation.mode device fit :=
    fun _ _ _ _ hb hf => hsteady.flush hb hf
  obtain ⟨_, hpre, hdone⟩ := content_run h huninterrupted arrivals stdout files hs
  obtain ⟨hprocess, hend⟩ := content_launch h hsteady arrivals invocation stdout files hs
  refine ⟨⟨hpre, fun hnone => (hdone hnone).1⟩, hprocess, fun hcode => hend ?_⟩
  rw [Ending.exitCode?] at hcode
  rcases hstop : (launch device arrivals invocation stdout files).stop with _ | ⟨fault | raw⟩ <;>
    rw [hstop] at hcode
  · cases hcode
  · cases hcode

/-- A sink with room for five bytes gets the first five of the banner, and the run fails. -/
theorem failure_if_five_bytes_fit :
    utf8 "sccai" <+: (run ⟨Sink.device, fun _ => []⟩
      { source := some (utf8 "a"), codepage := default, logFile := none, unbuffered := false,
        verbosity := 0, version := false } ({} : Sink) ⟨[], []⟩).stdout.accepted ∧
    (run ⟨Sink.device, fun _ => []⟩
      { source := some (utf8 "a"), codepage := default, logFile := none, unbuffered := false,
        verbosity := 0, version := false }
      ({ chunk := some 3, limit := some 5, refusal := some .noSpace } : Sink) ⟨[], []⟩).stop ≠
        none := by
  have hs : Sink.FailsForGood { chunk := some 3, limit := some 5, refusal := some .noSpace } := by
    refine ⟨?_, rfl, rfl⟩
    rintro failure ⟨rfl⟩
    rfl
  have hdelivers := Sink.delivers.deliversWhile Sink.failsForGood_of_step
  have hall := success_only_if_complete hdelivers Sink.steady hs (fun _ => [])
    { source := some (utf8 "a"), codepage := default, logFile := none, unbuffered := false,
      verbosity := 0, version := false } ⟨[], []⟩
  have haccepted : (run ⟨Sink.device, fun _ => []⟩
      { source := some (utf8 "a"), codepage := default, logFile := none, unbuffered := false,
        verbosity := 0, version := false }
      ({ chunk := some 3, limit := some 5, refusal := some .noSpace } : Sink)
      ⟨[], []⟩).stdout.accepted = utf8 "sccai" := by cbv
  have hstop : (run ⟨Sink.device, fun _ => []⟩
      { source := some (utf8 "a"), codepage := default, logFile := none, unbuffered := false,
        verbosity := 0, version := false }
      ({ chunk := some 3, limit := some 5, refusal := some .noSpace } : Sink)
      ⟨[], []⟩).stop.isSome = true := by cbv
  have hfirst := hall.1.1
  rw [haccepted] at hfirst
  refine ⟨hfirst, fun hnone => ?_⟩
  rw [hnone] at hstop
  cases hstop

end PrefetchInfo.CommandLine
