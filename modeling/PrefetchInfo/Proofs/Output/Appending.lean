import PrefetchInfo.Banner
import PrefetchInfo.Proofs.Output.Progress
import PrefetchInfo.Proofs.Output.Repetition

/-!
# Output that may stop short

A sink may fail for good at any time. As long as no flush of it is interrupted, output to it never
repeats a byte: of all that is given to the output a first part is appended to the bytes given before,
and that part is all of it if nothing fails. In the unbuffered mode a single write may fail and leave
bytes behind nevertheless, so that this holds of bytes that are all given, not of single writes.
-/

namespace PrefetchInfo

variable {σ : Type} {device : Device σ} {fit : σ → Prop} {content : σ → Bytes}

namespace Device

/-- In the states `fit`, which no operation leads out of, of bytes that a device is given a first part is
appended to the view `content`, all of them if nothing fails. Flushing moves nothing. -/
structure AppendsWhile (device : Device σ) (fit : σ → Prop) (content : σ → Bytes) : Prop where
  /-- No operation leads out of the states `fit`. -/
  stays : ∀ {s s'}, device.Step s s' → fit s → fit s'
  /-- A first part is appended. -/
  writeAll : ∀ data {s}, fit s → ∃ taken, taken <+: data ∧
    content (device.writeAll data s).2 = content s ++ taken ∧
    ((device.writeAll data s).1 = .ok () → taken = data)
  /-- Flushing moves nothing. -/
  flush : ∀ {s}, fit s → content (device.flush s).2 = content s

/-- A device that delivers appends. -/
lemma DeliversWhile.appendsWhile (h : device.DeliversWhile fit content) :
    device.AppendsWhile fit content where
  stays := h.stays
  writeAll data _ hs := h.content_writeAll data hs
  flush := h.flush

/-- Fit states lead to fit states. -/
lemma AppendsWhile.fit_of_reaches (h : device.AppendsWhile fit content) {s s' : σ}
    (hr : device.Reaches s s') (hs : fit s) : fit s' :=
  hr.keeps h.stays hs

/-! ### Pieces of text -/

/-- Writing pieces of text is nothing but operations on the device. -/
lemma reaches_writePieces (device : Device σ) (pieces : List String) (s : σ) :
    device.Reaches s (device.writePieces pieces s).2 := by
  induction pieces generalizing s with
  | nil => exact .refl device s
  | cons piece pieces ih =>
    have hfirst := Reaches.writeAll device (utf8 piece) s
    rcases hw : device.writeAll (utf8 piece) s with ⟨failure | _, s'⟩ <;> rw [hw] at hfirst <;>
      simp only [writePieces, hw]
    · exact hfirst
    · exact hfirst.trans (ih s')

/-- Of pieces of text that are written a first part is appended, all of it if nothing fails. -/
lemma AppendsWhile.writePieces (h : device.AppendsWhile fit content) (pieces : List String) {s : σ}
    (hs : fit s) : ∃ taken, taken <+: utf8 (String.join pieces) ∧
      content (device.writePieces pieces s).2 = content s ++ taken ∧
      ((device.writePieces pieces s).1 = .ok () → taken = utf8 (String.join pieces)) := by
  induction pieces generalizing s with
  | nil =>
    refine ⟨[], List.nil_prefix, (List.append_nil _).symm, fun _ => ?_⟩
    rw [String.join_nil, utf8_empty]
  | cons piece pieces ih =>
    rw [String.join_cons, utf8_append]
    obtain ⟨first, hpre, hcontent, hall⟩ := h.writeAll (utf8 piece) hs
    have hreach := Reaches.writeAll device (utf8 piece) s
    rcases hw : device.writeAll (utf8 piece) s with ⟨failure | _, s'⟩ <;>
      rw [hw] at hcontent hall hreach <;> simp only [Device.writePieces, hw]
    · exact ⟨first, hpre.trans (List.prefix_append _ _), hcontent, fun hok => by cases hok⟩
    · obtain ⟨rest, hpre', hcontent', hall'⟩ := ih (h.fit_of_reaches hreach hs)
      obtain rfl := hall rfl
      refine ⟨utf8 piece ++ rest, (List.prefix_append_right_inj _).mpr hpre', ?_, fun hok => ?_⟩
      · rw [hcontent', hcontent, List.append_assoc]
      · rw [hall' hok]

/-- A willing device takes all pieces of text that are written. -/
lemma Willing.writePieces_ok (h : device.Willing fit) (pieces : List String) {s : σ} (hs : fit s) :
    (device.writePieces pieces s).1 = .ok () := by
  induction pieces generalizing s with
  | nil => rfl
  | cons piece pieces ih =>
    have hok := h.writeAll_ok (utf8 piece) hs
    have hreach := Reaches.writeAll device (utf8 piece) s
    rcases hw : device.writeAll (utf8 piece) s with ⟨failure | _, s'⟩ <;> rw [hw] at hok hreach <;>
      simp only [Device.writePieces, hw]
    · cases hok
    · exact ih (h.fit_of_reaches hreach hs)

end Device

namespace Output

/-- In a mode that flushes its sink with every write, flushing the sink is not interrupted. The other
modes ask for nothing. -/
def UninterruptedIn (mode : BufferingMode) (device : Device σ) (fit : σ → Prop) : Prop :=
  mode = .unbuffered → ∀ s failure s', fit s → device.flush s = (.error failure, s') →
    failure.isInterruption = false

/-- Flushes that do not fail are not interrupted. -/
lemma uninterruptedIn_of_flush_ok {mode : BufferingMode}
    (hflush : ∀ s, fit s → (device.flush s).1 = .ok ()) : UninterruptedIn mode device fit := by
  intro _ s failure s' hs hf
  have hok := hflush s hs
  rw [hf] at hok
  cases hok

/-- An unbuffered write that fails leaves a first part of its bytes in the sink, and none of them if it is
going to be made again. -/
lemma prefix_write_error (h : device.DeliversWhile fit content)
    (hflush : UninterruptedIn .unbuffered device fit) {data : Bytes} {b b' : Buffered σ}
    (hb : fit b.inner) {failure : Failure}
    (hw : (Output.device .unbuffered device).write data b = (.error failure, b')) :
    ∃ extra, extra <+: data ∧ content b'.inner = content b.inner ++ extra ∧
      (failure.isInterruption = true → extra = []) := by
  obtain ⟨hr, rfl⟩ := Prod.mk.inj hw
  change (writeThrough device data b.inner).1 = .error failure at hr
  change ∃ extra, _ ∧ content (writeThrough device data b.inner).2 = _ ∧ _
  rcases writeThrough_cases device data b.inner with
    ⟨_, t, hi, ht⟩ | ⟨count, t, failure', u, hi, hf, ht⟩ | ⟨_, t, u, _, _, ht⟩ <;> rw [ht] at hr <;>
    rw [ht]
  · exact ⟨[], List.nil_prefix, by rw [h.write_error hb hi, List.append_nil], fun _ => rfl⟩
  · have hfit := h.fit_of_reaches (.write hi) hb
    have hsame := h.flush hfit
    rw [hf] at hsame
    refine ⟨data.take count, List.take_prefix _ _, hsame.trans (h.write_ok hb hi), fun hagain => ?_⟩
    obtain rfl := Except.error.inj hr
    rw [hflush rfl t failure' u hfit hf] at hagain
    cases hagain
  · cases hr

/-- Of bytes that unbuffered output is given a first part arrives, all of them if nothing fails. -/
lemma prefix_writeAll (h : device.DeliversWhile fit content)
    (hflush : UninterruptedIn .unbuffered device fit) (data : Bytes) {b : Buffered σ}
    (hb : fit b.inner) :
    ∃ taken, taken <+: data ∧ content ((Output.device .unbuffered device).writeAll data b).2.inner =
        content b.inner ++ taken ∧
      (((Output.device .unbuffered device).writeAll data b).1 = .ok () → taken = data) := by
  induction data, b using Device.writeAll.induct (Output.device .unbuffered device) with
  | case1 b =>
    rw [Device.writeAll_nil]
    exact ⟨[], List.nil_prefix, (List.append_nil _).symm, fun _ => rfl⟩
  | case2 data b hdata c hw =>
    rw [Device.writeAll_of_zero hdata hw]
    refine ⟨[], List.nil_prefix, ?_, fun hok => by cases hok⟩
    rw [(arrived_write_ok h hb hw).1, List.take_zero]
  | case3 data b hdata n c hw ih =>
    rw [Device.writeAll_of_succ hdata hw]
    obtain ⟨taken, hpre, hcontent, hall⟩ :=
      ih (h.fit_of_reaches (reaches_of_step_unbuffered (.of_write hw)) hb)
    refine ⟨data.take (n + 1) ++ taken, ?_, ?_, fun hok => ?_⟩
    · have hsplit := (List.prefix_append_right_inj (data.take (n + 1))).mpr hpre
      rwa [List.take_append_drop] at hsplit
    · rw [hcontent, (arrived_write_ok h hb hw).1, List.append_assoc]
    · rw [hall hok, List.take_append_drop]
  | case4 data b hdata failure c hw hr ih =>
    rw [Device.writeAll_of_retries hdata hw hr]
    obtain ⟨extra, _, hsame, hagain⟩ := prefix_write_error h hflush hb hw
    have hinterrupted : failure.isInterruption = true := by
      simp only [Device.retries, Bool.and_eq_true] at hr
      exact hr.1
    rw [hagain hinterrupted, List.append_nil] at hsame
    rw [← hsame]
    exact ih (h.fit_of_reaches (reaches_of_step_unbuffered (.of_write hw)) hb)
  | case5 data b hdata failure c hw hr =>
    rw [Device.writeAll_of_error hdata hw hr]
    obtain ⟨extra, hpre, hcontent, _⟩ := prefix_write_error h hflush hb hw
    exact ⟨extra, hpre, hcontent, fun hok => by cases hok⟩

/-- **Output appends what it is given,** in every mode. -/
theorem appendsWhile_device (h : device.DeliversWhile fit content) {mode : BufferingMode}
    (hflush : UninterruptedIn mode device fit) :
    (Output.device mode device).AppendsWhile (fun b => fit b.inner ∧ Tidy mode b)
      (Buffered.given content) := by
  cases mode with
  | unbuffered =>
    have hstays : ∀ {b b' : Buffered σ}, (Output.device .unbuffered device).Step b b' →
        fit b.inner ∧ Tidy .unbuffered b → fit b'.inner ∧ Tidy .unbuffered b' := by
      rintro b b' hstep ⟨hb, hnil⟩
      refine ⟨h.fit_of_reaches (reaches_of_step_unbuffered hstep) hb, ?_⟩
      cases hstep <;> exact hnil
    refine ⟨hstays, ?_, ?_⟩
    · rintro data b ⟨hb, hnil⟩
      obtain ⟨taken, hpre, hcontent, hall⟩ := prefix_writeAll h hflush data hb
      have hreach := Device.Reaches.writeAll (Output.device .unbuffered device) data b
      have hnil' := (hreach.keeps hstays ⟨hb, hnil⟩).2 rfl
      refine ⟨taken, hpre, ?_, hall⟩
      rw [Buffered.given, Buffered.given, hnil', hnil rfl, hcontent, List.append_nil,
        List.append_nil]
    · rintro b ⟨hb, _⟩
      change content (device.flush b.inner).2 ++ b.pending = _
      rw [h.flush hb, Buffered.given]
  | lineBuffered => exact (deliversWhile_device h fun hmode => by cases hmode).appendsWhile
  | fullyBuffered => exact (deliversWhile_device h fun hmode => by cases hmode).appendsWhile

end Output

end PrefetchInfo
