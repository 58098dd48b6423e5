import Mathlib
import PrefetchInfo.Output
import PrefetchInfo.Proofs.Device.Calls
import PrefetchInfo.Proofs.Device.LineBuffer
import PrefetchInfo.Proofs.Device.Sink

/-!
# Output conserves bytes

Whatever is called on an output, and in whatever buffering mode, the bytes its sink has accepted and
the bytes that are pending in front of the sink are together what the calls took, in order. A flush that
succeeds leaves nothing pending, so that after it the sink holds just what was written, in every mode
alike.

The argument is made once, for a device in any mode: `deliversWhile_device` says that the device of a
mode delivers to what the output was given. What single calls and runs of calls took is then read from
their answers, as for any device that delivers.
-/

namespace PrefetchInfo.Output

variable {σ : Type} {device : Device σ} {fit : σ → Prop} {content : σ → Bytes}

/-! ### The devices of the modes -/

/-- In a mode that flushes its sink with every write, flushing the sink does not fail. The other modes
ask for nothing. -/
def FlushesIn (mode : BufferingMode) (device : Device σ) (fit : σ → Prop) : Prop :=
  mode = .unbuffered → ∀ s, fit s → (device.flush s).1 = .ok ()

/-- Nothing is ever pending in the unbuffered mode. -/
def Tidy (mode : BufferingMode) (b : Buffered σ) : Prop :=
  mode = .unbuffered → b.pending = []

/-- What writing through can come to: the sink fails, its flush fails, or both are done. -/
lemma writeThrough_cases (device : Device σ) (data : Bytes) (s : σ) :
    (∃ failure s', device.write data s = (.error failure, s') ∧
      writeThrough device data s = (.error failure, s')) ∨
    (∃ count s' failure s'', device.write data s = (.ok count, s') ∧
      device.flush s' = (.error failure, s'') ∧
      writeThrough device data s = (.error failure, s'')) ∨
    (∃ count s' s'', device.write data s = (.ok count, s') ∧ device.flush s' = (.ok (), s'') ∧
      writeThrough device data s = (.ok count, s'')) := by
  rcases hw : device.write data s with ⟨failure | count, s'⟩
  · exact .inl ⟨failure, s', rfl, by simp only [writeThrough, hw]⟩
  · rcases hf : device.flush s' with ⟨failure | _, s''⟩
    · exact .inr (.inl ⟨count, s', failure, s'', rfl, hf, by simp only [writeThrough, hw, hf]⟩)
    · exact .inr (.inr ⟨count, s', s'', rfl, hf, by simp only [writeThrough, hw, hf]⟩)

/-- One operation on a device that is flushed after every write is a few operations on the device. -/
lemma reaches_of_step_through {s s' : σ} (h : (through device).Step s s') :
    device.Reaches s s' := by
  cases h with
  | write data =>
    change device.Reaches s (writeThrough device data s).2
    rcases writeThrough_cases device data s with
      ⟨_, t, hw, ht⟩ | ⟨_, t, _, u, hw, hf, ht⟩ | ⟨_, t, u, hw, hf, ht⟩ <;> rw [ht]
    · exact .write hw
    · exact (Device.Reaches.write hw).trans (.flush hf)
    · exact (Device.Reaches.write hw).trans (.flush hf)
  | flush => exact .flush rfl

/-- Writing through delivers, if no flush fails. -/
lemma deliversWhile_through (h : device.DeliversWhile fit content)
    (hflush : ∀ s, fit s → (device.flush s).1 = .ok ()) :
    (through device).DeliversWhile fit content where
  stays hstep hs := h.fit_of_reaches (reaches_of_step_through hstep) hs
  write_ok {data s n s'} hs hok := by
    change writeThrough device data s = (.ok n, s') at hok
    rcases writeThrough_cases device data s with
      ⟨_, t, _, ht⟩ | ⟨_, t, _, u, _, _, ht⟩ | ⟨count, t, u, hw, hf, ht⟩ <;>
      rw [ht, Prod.mk.injEq] at hok <;> obtain ⟨hr, rfl⟩ := hok
    · cases hr
    · cases hr
    · have hfit := h.fit_of_reaches (.write hw) hs
      have hsame := h.flush hfit
      rw [hf] at hsame
      rw [← Except.ok.inj hr, hsame, h.write_ok hs hw]
  write_error {data s failure s'} hs herror := by
    change writeThrough device data s = (.error failure, s') at herror
    rcases writeThrough_cases device data s with
      ⟨_, t, hw, ht⟩ | ⟨_, t, _, u, hw, hf, _⟩ | ⟨_, _, _, _, _, ht⟩
    · rw [ht, Prod.mk.injEq] at herror
      rw [← herror.2, h.write_error hs hw]
    · have hdone := hflush t (h.fit_of_reaches (.write hw) hs)
      rw [hf] at hdone
      cases hdone
    · rw [ht, Prod.mk.injEq] at herror
      cases herror.1
  flush hs := h.flush hs

/-- **The device of a mode delivers.**  What it takes is appended to what the output was given, and
nothing else changes that. -/
theorem deliversWhile_device (h : device.DeliversWhile fit content) {mode : BufferingMode}
    (hflush : FlushesIn mode device fit) :
    (Output.device mode device).DeliversWhile (fun b => fit b.inner ∧ Tidy mode b)
      (Buffered.given content) := by
  cases mode with
  | unbuffered =>
    have hthrough := deliversWhile_through h (hflush rfl)
    refine ⟨?_, ?_, ?_, ?_⟩
    · rintro b b' hstep ⟨hb, hnil⟩
      cases hstep with
      | write data => exact ⟨hthrough.stays (.write data b.inner) hb, hnil⟩
      | flush => exact ⟨hthrough.stays (.flush b.inner) hb, hnil⟩
    · rintro data b n b' ⟨hb, hnil⟩ hw
      obtain ⟨hr, rfl⟩ := Prod.mk.inj hw
      exact BlockBuffer.given_append (List.take_prefix n data) (.inl (hnil rfl))
        (hthrough.write_ok hb (Prod.ext hr rfl))
    · rintro data b failure b' ⟨hb, hnil⟩ hw
      obtain ⟨hr, rfl⟩ := Prod.mk.inj hw
      have hs := hthrough.write_error hb (Prod.ext hr rfl)
      simp only [Buffered.given, behind, hs]
    · rintro b ⟨hb, hnil⟩
      change content (device.flush b.inner).2 ++ b.pending = _
      rw [h.flush hb, Buffered.given]
  | lineBuffered =>
    have hline := LineBuffer.deliversWhile_device h lineCapacity
    exact hline.restrict (fun hb => hb.1)
      fun hstep hb => ⟨hline.stays hstep hb.1, fun hmode => by cases hmode⟩
  | fullyBuffered =>
    have hblock := BlockBuffer.deliversWhile_device h blockCapacity
    exact hblock.restrict (fun hb => hb.1)
      fun hstep hb => ⟨hblock.stays hstep hb.1, fun hmode => by cases hmode⟩

/-! ### Calls on an output -/

/-- Makes calls on an output that was just set up. -/
def run (mode : BufferingMode) (device : Device σ) (calls : List Device.Call) (s : σ) :
    List (Except Failure Nat) × Buffered σ :=
  (Output.device mode device).run calls (ofSink s)

/-- How a run can be completed: all calls succeed, with these counts, and then a flush succeeds or the
output is given up and what is pending passes. The sink is left in the state `t`. -/
inductive Completes (mode : BufferingMode) (device : Device σ) (calls : List Device.Call)
    (counts : List Nat) (s : σ) : σ → Prop where
  /-- The output is flushed. -/
  | flushed {b : Buffered σ} (hcalls : (run mode device calls s).1 = counts.map .ok)
      (hflush : (Output.device mode device).flush (run mode device calls s).2 = (.ok (), b)) :
      Completes mode device calls counts s b.inner
  /-- The output is given up. -/
  | dropped (hcalls : (run mode device calls s).1 = counts.map .ok)
      (hdrain : (BlockBuffer.drain device (run mode device calls s).2).1 = .ok ()) :
      Completes mode device calls counts s
        (BlockBuffer.release device (run mode device calls s).2)

/-- An output that was just set up was given what its sink has accepted. -/
lemma given_ofSink (s : σ) : (ofSink s).given content = content s :=
  List.append_nil (content s)

/-- Calls keep the sink in a fit state and leave nothing pending in the unbuffered mode. -/
lemma fit_run (h : device.DeliversWhile fit content) {mode : BufferingMode}
    (hflush : FlushesIn mode device fit) (calls : List Device.Call) {s : σ} (hs : fit s) :
    fit (run mode device calls s).2.inner ∧ Tidy mode (run mode device calls s).2 :=
  (deliversWhile_device h hflush).fit_of_reaches (Device.reaches_run _ calls (ofSink s))
    ⟨hs, fun _ => rfl⟩

/-- After a flush that succeeds, nothing is pending. -/
lemma pending_of_device_flush_ok {mode : BufferingMode} {b b' : Buffered σ} (hb : Tidy mode b)
    (hok : (Output.device mode device).flush b = (.ok (), b')) : b'.pending = [] := by
  cases mode with
  | unbuffered =>
    obtain rfl := (Prod.mk.inj hok).2
    exact hb rfl
  | lineBuffered => exact BlockBuffer.pending_of_flush_ok hok
  | fullyBuffered => exact BlockBuffer.pending_of_flush_ok hok

/-- A completed run leaves just what was written in the sink, behind what was there before. -/
lemma content_of_completes (h : device.DeliversWhile fit content) {mode : BufferingMode}
    (hflush : FlushesIn mode device fit) {calls : List Device.Call} {counts : List Nat} {s t : σ}
    (hs : fit s) (ht : Completes mode device calls counts s t) :
    content t = content s ++ Device.written calls counts := by
  have hdevice := deliversWhile_device h hflush
  have hfit := fit_run h hflush calls hs
  have hrun : ∀ hcalls : (run mode device calls s).1 = counts.map .ok,
      (run mode device calls s).2.given content = content s ++ Device.written calls counts := by
    intro hcalls
    have hview := hdevice.content_run_ok ⟨hs, fun _ => rfl⟩ hcalls
    rwa [given_ofSink] at hview
  cases ht with
  | @flushed b hcalls hok =>
    have hsame := hdevice.flush hfit
    rw [hok, hrun hcalls, Buffered.given, pending_of_device_flush_ok hfit.2 hok,
      List.append_nil] at hsame
    exact hsame
  | dropped hcalls hdrain =>
    have harrived := BlockBuffer.content_of_drain_ok h hfit.1 (Prod.ext hdrain rfl)
    rw [← hrun hcalls, ← harrived]
    rfl

/-- **Output conserves bytes.**  After each call, what the sink has accepted and what is pending are
together what was there at first and what the calls so far took, as their answers tell. When all calls
succeed and a flush does, or the output is given up and the sink does not fail, the sink holds just what
was written, and so it does in every other mode. -/
theorem conserves_bytes (h : device.DeliversWhile fit content) {s : σ} (hs : fit s)
    (calls : List Device.Call) {mode : BufferingMode} (hflush : FlushesIn mode device fit) :
    (∃ taken, Device.AllTook calls (run mode device calls s).1 taken ∧
      ∀ k, (run mode device (calls.take k) s).2.given content =
        content s ++ (taken.take k).flatten) ∧
    (∀ counts t, Completes mode device calls counts s t →
      content t = content s ++ Device.written calls counts) ∧
    (∀ counts free, (run mode device calls s).1 = counts.map .ok → device.Willing free →
      free (run mode device calls s).2.inner →
      Completes mode device calls counts s
        (BlockBuffer.release device (run mode device calls s).2)) ∧
    (∀ mode', FlushesIn mode' device fit → ∀ counts t t', Completes mode device calls counts s t →
      Completes mode' device calls counts s t' → content t' = content t) := by
  refine ⟨?_, ?_, ?_, ?_⟩
  · obtain ⟨taken, htook, hview⟩ :=
      (deliversWhile_device h hflush).exists_took calls (s := ofSink s) ⟨hs, fun _ => rfl⟩
    refine ⟨taken, htook, fun k => ?_⟩
    have hk := hview k
    rwa [given_ofSink] at hk
  · intro counts t ht
    exact content_of_completes h hflush hs ht
  · intro counts free hcalls hwilling hfree
    exact .dropped hcalls (BlockBuffer.drain_ok hwilling hfree)
  · intro mode' hflush' counts t t' ht ht'
    rw [content_of_completes h hflush hs ht, content_of_completes h hflush' hs ht']

/-- A sink that takes one byte at a time and is interrupted twice holds what an unbuffered output was
given. -/
theorem conserves_bytes_one_at_a_time :
    ∃ t, Completes .unbuffered Sink.device [.writeAll (utf8 "ab"), .write (utf8 "cd"), .flush]
      [2, 1, 0] { chunk := some 1, interrupts := 2 } t ∧ t.accepted = utf8 "abc" := by
  have hs : Sink.Flushable { chunk := some 1, interrupts := 2 } := ⟨rfl, rfl⟩
  have hflush : FlushesIn .unbuffered Sink.device Sink.Flushable := fun _ _ hs => Sink.flush_ok hs
  have hall := conserves_bytes (Sink.delivers.deliversWhile Sink.flushable_of_step) hs
    [.writeAll (utf8 "ab"), .write (utf8 "cd"), .flush] hflush
  have hdone : Completes .unbuffered Sink.device
      [.writeAll (utf8 "ab"), .write (utf8 "cd"), .flush] [2, 1, 0]
      { chunk := some 1, interrupts := 2 } _ := .flushed (by cbv) (Prod.ext (by cbv) rfl)
  exact ⟨_, hdone, (hall.2.1 _ _ hdone).trans (by cbv)⟩

end PrefetchInfo.Output
