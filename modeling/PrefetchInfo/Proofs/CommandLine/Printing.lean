import PrefetchInfo.Proofs.CommandLine.Steps
import PrefetchInfo.Proofs.Output.Appending

/-!
# What a run prints

The text of a run is fixed by the invocation, the files and the interruptions that arrive: its banners
and, if the input file can be opened, the description of that file. The device behind standard output
has no say in it. Whatever that device does, a run appends a first part of its text, and all of it unless
the output fails.
-/

namespace PrefetchInfo.CommandLine

variable {τ α β : Type}

/-! ### Parts of a run that print -/

section Parts

variable {cut : Prop} {P : Buffered τ → Prop} {view : Buffered τ → Bytes}

/-- A part of a run prints a text: it appends a first part of it to the view of the output, and all of it
unless output can be `cut` and the run fails. -/
def Prints (cut : Prop) (P : Buffered τ → Prop) (view : Buffered τ → Bytes) (m : Act τ α)
    (session : Session τ) (text : Bytes) : Prop :=
  P (m.run session).2.out ∧ ∃ taken, taken <+: text ∧
    view (m.run session).2.out = view session.out ++ taken ∧
    (taken = text ∨ cut ∧ ∃ fault, (m.run session).1 = .error (.failed fault))

/-- A part of a run does nothing but print a text: it appends all of it and succeeds, unless output can
be `cut`. -/
def Writes (cut : Prop) (P : Buffered τ → Prop) (view : Buffered τ → Bytes) (m : Act τ α)
    (session : Session τ) (text : Bytes) : Prop :=
  Prints cut P view m session text ∧
    ((∃ a, (m.run session).1 = .ok a) ∨ cut ∧ ∃ fault, (m.run session).1 = .error (.failed fault))

/-- If output cannot be cut, a part of a run that does nothing but print a text succeeds. -/
lemma Writes.ok {m : Act τ α} {session : Session τ} {text : Bytes}
    (hm : Writes False P view m session text) :
    ∃ a session', m.run session = (.ok a, session') ∧ P session'.out := by
  obtain ⟨⟨hP, -⟩, hend⟩ := hm
  obtain ⟨a, ha⟩ := hend.resolve_right fun hcut => hcut.1
  exact ⟨a, _, Prod.ext ha rfl, hP⟩

/-- A text is printed by two parts of a run, the first of which does nothing else. -/
lemma Writes.bind {m : Act τ α} {f : α → Act τ β} {session : Session τ} {text more : Bytes}
    (hm : Writes cut P view m session text)
    (hf : ∀ a session', m.run session = (.ok a, session') → P session'.out →
      Prints cut P view (f a) session' more) :
    Prints cut P view (m >>= f) session (text ++ more) := by
  obtain ⟨⟨hP, taken, hpre, hview, hall⟩, hend⟩ := hm
  rcases hrun : m.run session with ⟨stop | a, session'⟩ <;> rw [hrun] at hP hview hall hend
  · have hcut : cut ∧ ∃ fault, (Except.error stop : Except Stop α) = .error (.failed fault) :=
      hend.resolve_left fun ⟨_, hok⟩ => by cases hok
    obtain ⟨hcut, fault, hfault⟩ := hcut
    cases hfault
    rw [Prints, run_bind_error f hrun]
    exact ⟨hP, taken, hpre.trans (List.prefix_append _ _), hview, .inr ⟨hcut, fault, rfl⟩⟩
  · obtain rfl : taken = text := hall.resolve_right fun ⟨_, _, herror⟩ => by cases herror
    obtain ⟨hP', taken', hpre', hview', hall'⟩ := hf a session' hrun hP
    rw [Prints, run_bind_ok f hrun]
    refine ⟨hP', taken ++ taken', (List.prefix_append_right_inj taken).mpr hpre', ?_, ?_⟩
    · rw [hview', hview, List.append_assoc]
    · exact hall'.imp (fun heq => by rw [heq]) id

/-- A text is printed by two parts of a run, the second of which prints nothing. -/
lemma Prints.bind_nil {m : Act τ α} {f : α → Act τ β} {session : Session τ} {text : Bytes}
    (hm : Prints cut P view m session text)
    (hf : ∀ a session', m.run session = (.ok a, session') → P session'.out →
      Prints cut P view (f a) session' []) :
    Prints cut P view (m >>= f) session text := by
  obtain ⟨hP, taken, hpre, hview, hall⟩ := hm
  rcases hrun : m.run session with ⟨stop | a, session'⟩ <;> rw [hrun] at hP hview hall
  · rw [Prints, run_bind_error f hrun]
    refine ⟨hP, taken, hpre, hview, hall.imp id ?_⟩
    rintro ⟨hcut, fault, hfault⟩
    cases hfault
    exact ⟨hcut, fault, rfl⟩
  · obtain rfl : taken = text := hall.resolve_right fun ⟨_, _, herror⟩ => by cases herror
    obtain ⟨hP', taken', hpre', hview', -⟩ := hf a session' hrun hP
    rw [Prints, run_bind_ok f hrun]
    refine ⟨hP', taken, List.prefix_rfl, ?_, .inl rfl⟩
    rw [hview', hview, List.prefix_nil.mp hpre', List.append_nil]

/-- A part of a run that leaves the output alone prints nothing. -/
lemma Aside.out_eq {m : Act τ α} (hm : Aside m m) (session : Session τ) :
    (m.run session).2.out = session.out := by
  have hsame : m.run session = ((m.run session).1, (m.run session).2.over session.out) :=
    hm session session.out
  rw [hsame]
  rfl

/-- A text is printed by two parts of a run, the first of which leaves the output alone. -/
lemma Prints.of_aside {m : Act τ α} {f : α → Act τ β} {session : Session τ} {text : Bytes}
    (hm : Aside m m) (hP : P session.out)
    (herror : ∀ stop, (m.run session).1 = .error stop → text = [])
    (hf : ∀ a session', m.run session = (.ok a, session') → P session'.out →
      Prints cut P view (f a) session' text) :
    Prints cut P view (m >>= f) session text := by
  have hout := hm.out_eq session
  rcases hrun : m.run session with ⟨stop | a, session'⟩ <;> rw [hrun] at hout herror
  · rw [Prints, run_bind_error f hrun, herror stop rfl, hout]
    exact ⟨hP, [], List.prefix_rfl, (List.append_nil _).symm, .inl rfl⟩
  · rw [Prints, run_bind_ok f hrun, ← hout]
    exact hf a session' hrun (hout ▸ hP)

/-! ### The steps that print -/

/-- Output that cannot be `cut` takes all it is given, and can be flushed. -/
def Unfailing (cut : Prop) (P : Buffered τ → Prop) (out : Device (Buffered τ)) : Prop :=
  ¬cut → out.Willing P ∧ ∀ b, P b → (out.flush b).1 = .ok ()

variable {out : Device (Buffered τ)} {session : Session τ}

/-- A banner is printed. -/
lemma writes_banner (h : out.AppendsWhile P view) (hcut : Unfailing cut P out) (kind : Banner.Kind)
    (hP : P session.out) :
    Writes cut P view (banner out kind) session (utf8 (Banner.text program kind)) := by
  obtain ⟨taken, hpre, hview, hall⟩ := h.writePieces (Banner.pieces program kind) hP
  have hstays := h.fit_of_reaches
    (Device.reaches_writePieces out (Banner.pieces program kind) session.out) hP
  rw [Writes, Prints, run_banner]
  rcases hw : Banner.write out program kind session.out with ⟨failure | _, buffer⟩ <;>
    rw [show out.writePieces (Banner.pieces program kind) session.out = _ from hw]
      at hview hall hstays
  · have hfails : cut := by
      by_contra hnot
      have hok := (hcut hnot).1.writePieces_ok (Banner.pieces program kind) hP
      rw [show out.writePieces (Banner.pieces program kind) session.out = _ from hw] at hok
      cases hok
    exact ⟨⟨hstays, taken, hpre, hview, .inr ⟨hfails, _, rfl⟩⟩, .inr ⟨hfails, _, rfl⟩⟩
  · exact ⟨⟨hstays, taken, hpre, hview, .inl (hall rfl)⟩, .inl ⟨(), rfl⟩⟩

/-- Flushing prints nothing. -/
lemma writes_flush (h : out.AppendsWhile P view) (hcut : Unfailing cut P out) (hP : P session.out) :
    Writes cut P view (flush out) session [] := by
  have hsame := h.flush hP
  have hstays := h.stays (.flush session.out) hP
  rw [Writes, Prints, run_flush]
  refine ⟨⟨hstays, [], List.prefix_rfl, by rw [List.append_nil, hsame], .inl rfl⟩, ?_⟩
  rcases hf : (out.flush session.out).1 with failure | _
  · refine .inr ⟨?_, _, rfl⟩
    by_contra hnot
    have hok := (hcut hnot).2 session.out hP
    rw [hf] at hok
    cases hok
  · exact .inl ⟨(), rfl⟩

/-- What is said about the input file of a handle. -/
def described (handle : Info.Handle) : Bytes :=
  handle.input.elim [] fun input => utf8 (Info.description input.signature handle.codepage)

/-- What is said when opening the input file has ended like this. -/
def textOfPrepared : Except Stop Info.Handle → Bytes
  | .ok handle => described handle
  | .error _ => []

/-- The description of the input file is printed. -/
lemma prints_print (h : out.AppendsWhile P view) (hcut : Unfailing cut P out)
    (handle : Info.Handle) (hP : P session.out) :
    Prints cut P view (print out handle) session (described handle) := by
  rw [Prints, run_print]
  rcases hi : handle.input with _ | input
  · simp only [Info.Handle.print, hi, described, Option.elim_none]
    exact ⟨hP, [], List.prefix_rfl, (List.append_nil _).symm, .inl rfl⟩
  · obtain ⟨taken, hpre, hview, hall⟩ :=
      h.writeAll (utf8 (Info.description input.signature handle.codepage)) hP
    have hstays := h.fit_of_reaches (.writeAll out
      (utf8 (Info.description input.signature handle.codepage)) session.out) hP
    rcases hw : out.writeAll (utf8 (Info.description input.signature handle.codepage)) session.out
      with ⟨failure | _, buffer⟩ <;> rw [hw] at hview hall hstays <;>
      simp only [Info.Handle.print, hi, hw, described, Option.elim_some]
    · refine ⟨hstays, taken, hpre, hview, .inr ⟨?_, _, rfl⟩⟩
      by_contra hnot
      have hok := (hcut hnot).1.writeAll_ok (utf8 (Info.description input.signature handle.codepage)) hP
      rw [hw] at hok
      cases hok
    · exact ⟨hstays, taken, hpre, hview, .inl (hall rfl)⟩

end Parts

/-! ### The text of a run -/

section Text

variable (arrivals : Route → List Int32) (invocation : Invocation) (files : FileTree)

/-- How opening the input file ends in a run, whatever the output does. -/
def prepared (source : Bytes) : Except Stop Info.Handle :=
  ((prepare ⟨Sink.device, arrivals⟩ invocation source).run
    (Session.start invocation ({} : Sink) files)).1

/-- The text that a run prints: the detailed banner and the copyright notice if it is asked for its
version; else the banner and, if the input file can be opened, what is said about it. -/
def fullText : Bytes :=
  if invocation.version then
    utf8 (Banner.text program .detailed) ++ utf8 (Banner.text program .copyright)
  else
    utf8 (Banner.text program .version) ++
      invocation.source.elim [] fun source =>
        textOfPrepared (prepared arrivals invocation files source)

end Text

/-- Opening the input file ends the same way whatever the output works on. -/
lemma run_prepare_fst (setting : Setting τ) (invocation : Invocation) (files : FileTree)
    (source : Bytes) (out : Buffered τ) :
    ((prepare setting invocation source).run
      ((Session.start invocation ({} : Sink) files).over out)).1 =
      prepared setting.arrivals invocation files source := by
  have harrivals : setting.arrivals = (⟨Sink.device, setting.arrivals⟩ : Setting Sink).arrivals := rfl
  exact congrArg Prod.fst
    (aside_prepare harrivals invocation source (Session.start invocation {} files) out)

/-- Opening the input file leaves the output alone. -/
lemma prepare_out_eq (setting : Setting τ) (invocation : Invocation) (source : Bytes)
    (session : Session τ) :
    ((prepare setting invocation source).run session).2.out = session.out := by
  have haside : Aside (prepare setting invocation source) (prepare setting invocation source) :=
    aside_prepare rfl invocation source
  exact haside.out_eq session

section Act

variable {cut : Prop} {device : Device τ} {fit : τ → Prop} {content : τ → Bytes}
  {arrivals : Route → List Int32} {invocation : Invocation} {files : FileTree}

/-- What is printed after the banner is the description of the input file. -/
lemma prints_inspect (setting : Setting τ) {P : Buffered τ → Prop} {view : Buffered τ → Bytes}
    (h : (Output.device invocation.mode setting.stdout).AppendsWhile P view)
    (hcut : Unfailing cut P (Output.device invocation.mode setting.stdout)) (source : Bytes)
    {out : Buffered τ} (hP : P out) :
    Prints cut P view (inspect setting invocation source)
      ((Session.start invocation ({} : Sink) files).over out)
      (textOfPrepared (prepared setting.arrivals invocation files source)) := by
  rw [inspect_eq]
  have hsame := run_prepare_fst setting invocation files source out
  refine .of_aside (aside_prepare rfl invocation source) hP (fun stop hstop => ?_) ?_
  · rw [← hsame, hstop, textOfPrepared]
  · intro handle opened hrun hopened
    rw [hrun] at hsame
    rw [← hsame, textOfPrepared]
    refine (prints_print h hcut handle hopened).bind_nil fun _ printed _ hprinted => ?_
    refine .of_aside (aside_closeInput handle) hprinted (fun _ _ => rfl) fun _ closed _ hclosed => ?_
    exact (writes_flush h hcut hclosed).1

/-- Setting up standard output prints nothing. -/
lemma writes_setUp (h : device.DeliversWhile fit content) (mode : BufferingMode)
    (hcut : ¬cut → ∀ s, fit s → (device.flush s).1 = .ok ()) {stdout : τ} (hs : fit stdout) :
    Writes cut (fun b => fit b.inner ∧ Output.Tidy mode b) (Buffered.given content)
      (setUp ⟨device, arrivals⟩) (Session.start invocation stdout files) [] := by
  have hsame := h.flush hs
  have hstays := h.stays (.flush stdout) hs
  rw [Writes, Prints, run_setUp]
  refine ⟨⟨⟨hstays, fun _ => rfl⟩, [], List.prefix_rfl, ?_, .inl rfl⟩, ?_⟩
  · change content (device.flush stdout).2 ++ [] = content stdout ++ [] ++ []
    rw [hsame, List.append_nil, List.append_nil]
  · change (∃ a, ofStep _ (context (device.flush stdout).1 _ _) = .ok a) ∨
      cut ∧ ∃ fault, ofStep _ (context (device.flush stdout).1 _ _) = .error (.failed fault)
    rcases hf : (device.flush stdout).1 with failure | _
    · refine .inr ⟨?_, _, rfl⟩
      by_contra hnot
      have hok := hcut hnot stdout hs
      rw [hf] at hok
      cases hok
    · exact .inl ⟨(), rfl⟩

/-- Once the banner is written, only the output has changed since the start. -/
lemma begun_eq {setting : Setting τ} {stdout : τ} {out : Device (Buffered τ)} {kind : Banner.Kind}
    {ready begun : Session τ} {result result' : Except Stop Unit}
    (hready : (setUp setting).run (Session.start invocation stdout files) = (result, ready))
    (hbegun : (banner out kind).run ready = (result', begun)) :
    begun = (Session.start invocation ({} : Sink) files).over begun.out := by
  rw [run_setUp] at hready
  rw [run_banner] at hbegun
  rw [← (Prod.mk.inj hbegun).2, ← (Prod.mk.inj hready).2]
  rfl

/-- Output to a device is unfailing, unless it can be cut. -/
lemma unfailing_device (h : device.DeliversWhile fit content)
    (hflush : Output.UninterruptedIn invocation.mode device fit)
    (hcut : ¬cut → device.Willing fit ∧ device.Wanes fit ∧
      ∀ s, fit s → (device.flush s).1 = .ok ()) :
    Unfailing cut (fun b => fit b.inner ∧ Output.Tidy invocation.mode b)
      (Output.device invocation.mode device) := by
  intro hnot
  obtain ⟨hwilling, hwanes, hok⟩ := hcut hnot
  have hout := Output.appendsWhile_device h hflush
  exact ⟨(Output.willing_device hwilling hwanes fun _ => hok).restrict (fun hb => hb.1) hout.stays,
    fun b hb => Output.flush_device_ok hwilling hok invocation.mode hb.1⟩

/-- **A run prints its text.**  A first part of the text is appended to what was in the sink, and all
of it unless output can be cut and the run fails. -/
theorem prints_act (cut : Prop) (arrivals : Route → List Int32) (files : FileTree)
    (h : device.DeliversWhile fit content)
    (hflush : Output.UninterruptedIn invocation.mode device fit)
    (hcut : ¬cut → device.Willing fit ∧ device.Wanes fit ∧
      ∀ s, fit s → (device.flush s).1 = .ok ()) {stdout : τ} (hs : fit stdout) :
    Prints cut (fun b => fit b.inner ∧ Output.Tidy invocation.mode b) (Buffered.given content)
      (act ⟨device, arrivals⟩ invocation) (Session.start invocation stdout files)
      (fullText arrivals invocation files) := by
  have hout := Output.appendsWhile_device h hflush
  have hunfailing := unfailing_device h hflush hcut
  have hsetUp : Writes cut (fun b => fit b.inner ∧ Output.Tidy invocation.mode b)
      (Buffered.given content) (setUp ⟨device, arrivals⟩) (Session.start invocation stdout files) [] :=
    writes_setUp h invocation.mode (fun hnot => (hcut hnot).2.2) hs
  rw [act, ← List.nil_append (fullText arrivals invocation files)]
  refine hsetUp.bind fun _ ready hready hP => ?_
  by_cases hversion : invocation.version = true
  · simp only [hversion, if_true, fullText]
    refine (writes_banner hout hunfailing .detailed hP).bind fun _ detailed _ hdetailed => ?_
    refine Prints.bind_nil (writes_banner hout hunfailing .copyright hdetailed).1
      fun _ printed _ hprinted => ?_
    exact (writes_flush hout hunfailing hprinted).1
  · simp only [hversion, fullText]
    refine (writes_banner hout hunfailing .version hP).bind fun _ begun hbegun hP' => ?_
    rcases hsource : invocation.source with _ | source
    · exact ⟨hP', [], List.prefix_rfl, (List.append_nil _).symm, .inl rfl⟩
    · rw [begun_eq hready hbegun]
      exact prints_inspect ⟨device, arrivals⟩ hout hunfailing source hP'

/-- Output to a willing device that can be flushed is given all of the text of a run. -/
lemma given_act (arrivals : Route → List Int32) (invocation : Invocation) (files : FileTree)
    (h : device.DeliversWhile fit content) (hwilling : device.Willing fit) (hwanes : device.Wanes fit)
    (hflush : ∀ s, fit s → (device.flush s).1 = .ok ()) {stdout : τ} (hs : fit stdout) :
    fit ((act ⟨device, arrivals⟩ invocation).run
      (Session.start invocation stdout files)).2.out.inner ∧
    ((act ⟨device, arrivals⟩ invocation).run
      (Session.start invocation stdout files)).2.out.given content =
      content stdout ++ fullText arrivals invocation files := by
  obtain ⟨⟨hfit, -⟩, taken, -, hview, hall⟩ := prints_act False arrivals files h
    (Output.uninterruptedIn_of_flush_ok hflush) (fun _ => ⟨hwilling, hwanes, hflush⟩) hs
  obtain rfl := hall.resolve_right fun hcut => hcut.1
  change _ = (Output.ofSink stdout).given content ++ _ at hview
  rw [Output.given_ofSink] at hview
  exact ⟨hfit, hview⟩

end Act

end PrefetchInfo.CommandLine
