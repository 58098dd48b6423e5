import PrefetchInfo.Proofs.Output.Conservation

/-!
# Devices that fail for good

A device may fail at any time, and then the bytes that wait in front of it are lost with their buffer. A
steady device fails for good: no interruption of it lasts for ever, so that whoever goes on after
interruptions does not meet one as a failure. What has arrived at the end is a first part of what was
given, and all of it after a flush that succeeds.
-/

namespace PrefetchInfo

variable {τ : Type} {device : Device τ} {fit : τ → Prop} {content : τ → Bytes}

/-! ### Devices that are not interrupted for ever -/

/-- In the states `fit`, an interruption of a write will not last, and a flush is not interrupted. -/
structure Device.Steady (device : Device τ) (fit : τ → Prop) : Prop where
  /-- An interruption of a write will not last. -/
  write : ∀ {data s failure s'}, fit s → device.write data s = (.error failure, s') →
    failure.isInterruption = true → device.retries failure s s' = true
  /-- A flush is not interrupted. -/
  flush : ∀ {s failure s'}, fit s → device.flush s = (.error failure, s') →
    failure.isInterruption = false

/-- Pending bytes that do not pass a steady device have not been interrupted. -/
lemma BlockBuffer.drain_uninterrupted (h : device.DeliversWhile fit content)
    (hsteady : device.Steady fit) {b b' : Buffered τ} {failure : Failure} (hb : fit b.inner)
    (herror : BlockBuffer.drain device b = (.error failure, b')) :
    failure.isInterruption = false := by
  induction b using BlockBuffer.drain.induct device with
  | case1 b hnil => simp [drain_of_nil hnil] at herror
  | case2 b hne s hw =>
    rw [drain_of_zero hne hw, Prod.mk.injEq] at herror
    rw [← Except.error.inj herror.1]
    rfl
  | case3 b hne n s hw ih =>
    exact ih (h.fit_of_reaches (.write hw) hb) (drain_of_succ hne hw ▸ herror)
  | case4 b hne failure s hw hr ih =>
    exact ih (h.fit_of_reaches (.write hw) hb) (drain_of_retries hne hw hr ▸ herror)
  | case5 b hne failure' s hw hr =>
    rw [drain_of_error hne hw hr, Prod.mk.injEq] at herror
    obtain rfl := Except.error.inj herror.1
    by_contra hinterrupted
    exact hr (hsteady.write hb hw (by simpa using hinterrupted))

/-- A flush of a line buffer in front of a steady device is not interrupted. -/
lemma LineBuffer.flush_uninterrupted (h : device.DeliversWhile fit content)
    (hsteady : device.Steady fit) (capacity : Nat) {b b' : Buffered τ} {failure : Failure}
    (hb : fit b.inner) (herror : (LineBuffer.device capacity device).flush b = (.error failure, b')) :
    failure.isInterruption = false := by
  change BlockBuffer.flush device b = _ at herror
  have hdrain := BlockBuffer.reaches_drain device b
  rcases BlockBuffer.flush_cases device b with ⟨_, c, hd, hf⟩ | ⟨c, hd, hf⟩ <;>
    rw [hf, Prod.mk.injEq] at herror
  · obtain rfl := Except.error.inj herror.1
    exact BlockBuffer.drain_uninterrupted h hsteady hb hd
  · rw [hd] at hdrain
    exact hsteady.flush (h.fit_of_reaches hdrain hb) (Prod.ext herror.1 rfl)

/-- What has arrived when a buffer is given up is a first part of what the buffer was given. -/
lemma BlockBuffer.prefix_release (h : device.DeliversWhile fit content) {b : Buffered τ}
    (hb : fit b.inner) : content (BlockBuffer.release device b) <+: b.given content := by
  rw [← given_drain h hb]
  exact List.prefix_append _ _

/-- A willing device gets all that the buffer in front of it was given when the buffer is given up. -/
lemma BlockBuffer.content_release (h : device.DeliversWhile fit content)
    (hwilling : device.Willing fit) {b : Buffered τ} (hb : fit b.inner) :
    content (BlockBuffer.release device b) = b.given content :=
  content_of_drain_ok h hb (Prod.ext (drain_ok hwilling hb) rfl)

/-- After a flush that succeeds, nothing is pending, and the sink was flushed last. -/
lemma Output.flush_ok_cases {mode : BufferingMode} {b b' : Buffered τ}
    (hok : (Output.device mode device).flush b = (.ok (), b')) (hb' : Output.Tidy mode b') :
    b'.pending = [] ∧ ∃ s, device.flush s = (.ok (), b'.inner) := by
  have hblock : BlockBuffer.flush device b = (.ok (), b') →
      b'.pending = [] ∧ ∃ s, device.flush s = (.ok (), b'.inner) := by
    intro hflush
    refine ⟨BlockBuffer.pending_of_flush_ok hflush, ?_⟩
    rcases BlockBuffer.flush_cases device b with ⟨_, c, _, hf⟩ | ⟨c, _, hf⟩ <;>
      rw [hf, Prod.mk.injEq] at hflush
    · cases hflush.1
    · exact ⟨c.inner, Prod.ext hflush.1 (congrArg Buffered.inner hflush.2)⟩
  cases mode with
  | unbuffered =>
    refine ⟨hb' rfl, b.inner, ?_⟩
    obtain ⟨hr, rfl⟩ := Prod.mk.inj hok
    exact Prod.ext hr rfl
  | lineBuffered => exact hblock hok
  | fullyBuffered => exact hblock hok

namespace Sink

/-! ### Sinks that fail for good -/

/-- A sink fails for good if it refuses with nothing that is worth another attempt, and is flushable. -/
def FailsForGood (sink : Sink) : Prop :=
  (∀ failure, sink.refusal = some failure → failure.isInterruption = false) ∧ sink.Flushable

/-- A sink does not change the way it refuses. -/
lemma refusal_of_step {sink sink' : Sink} (h : Sink.device.Step sink sink') :
    sink'.refusal = sink.refusal := by
  cases h with
  | write data =>
    change (sink.write data).2.refusal = _
    rcases write_cases data sink with ⟨_, hw⟩ | ⟨_, _, _, hw⟩ | hw <;> rw [hw]
  | flush =>
    change sink.flush.2.refusal = _
    unfold flush
    split
    · rfl
    · split <;> rfl

/-- A sink that fails for good goes on doing so. -/
lemma failsForGood_of_step {sink sink' : Sink} (h : Sink.device.Step sink sink')
    (hs : sink.FailsForGood) : sink'.FailsForGood :=
  ⟨by rw [refusal_of_step h]; exact hs.1, flushable_of_step h hs.2⟩

/-- **A sink that fails for good is steady.** -/
theorem steady : Sink.device.Steady FailsForGood where
  write {data sink failure sink'} hs hw hinterrupted := by
    change sink.write data = (.error failure, sink') at hw
    by_cases hi : sink.interrupts ≠ 0
    · simp only [Sink.write, if_pos hi, Prod.mk.injEq] at hw
      rw [← hw.2, ← Except.error.inj hw.1]
      exact retries_interruption hi
    · rcases hr : sink.refusal with _ | refusal
      · simp only [Sink.write, if_neg hi, hr, Prod.mk.injEq] at hw
        cases hw.1
      · by_cases hfull : sink.room = some 0 ∧ data ≠ []
        · simp only [Sink.write, if_neg hi, hr, if_pos hfull, Prod.mk.injEq] at hw
          rw [← Except.error.inj hw.1, hs.1 refusal hr] at hinterrupted
          cases hinterrupted
        · simp only [Sink.write, if_neg hi, hr, if_neg hfull, Prod.mk.injEq] at hw
          cases hw.1
  flush {sink failure sink'} hs hf := by
    have hok := flush_ok hs.2
    rw [hf] at hok
    cases hok

end Sink

end PrefetchInfo
