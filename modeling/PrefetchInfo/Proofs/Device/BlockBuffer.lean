import PrefetchInfo.Device.BlockBuffer
import PrefetchInfo.Proofs.Device.Delivery

/-!
# What a block buffer is given

`Buffered.given` puts what has arrived behind a buffer and what is pending in it together. Passing
bytes on moves them from the second part to the first, so no operation of a block buffer changes this
view but by what it takes: a block buffer in front of a device that delivers is itself a device that
delivers. A failure on the way loses nothing, and a willing device leaves nothing pending.
-/

namespace PrefetchInfo

/-- All that a buffer was given: what has arrived behind it, and what is pending. -/
def Buffered.given {σ : Type} (content : σ → Bytes) (b : Buffered σ) : Bytes :=
  content b.inner ++ b.pending

namespace BlockBuffer

variable {σ : Type} {device : Device σ} {fit : σ → Prop} {content : σ → Bytes}

/-! ### Passing pending bytes on, attempt by attempt -/

/-- There is nothing to do if nothing is pending. -/
lemma drain_of_nil {b : Buffered σ} (hb : b.pending = []) : drain device b = (.ok (), b) := by
  rw [drain, if_pos hb]

/-- A device that takes nothing ends the attempts. -/
lemma drain_of_zero {b : Buffered σ} {s : σ} (hb : b.pending ≠ [])
    (h : device.write b.pending b.inner = (.ok 0, s)) :
    drain device b = (.error nothingTaken, ⟨b.pending, s⟩) := by
  rw [drain, if_neg hb, h]

/-- After the device took some bytes, it is offered the rest. -/
lemma drain_of_succ {b : Buffered σ} {s : σ} {n : Nat} (hb : b.pending ≠ [])
    (h : device.write b.pending b.inner = (.ok (n + 1), s)) :
    drain device b = drain device ⟨b.pending.drop (n + 1), s⟩ := by
  rw [drain, if_neg hb, h]

/-- After an interruption that will not last, the device is offered the same bytes again. -/
lemma drain_of_retries {b : Buffered σ} {s : σ} {failure : Failure} (hb : b.pending ≠ [])
    (h : device.write b.pending b.inner = (.error failure, s))
    (hr : device.retries failure b.inner s = true) :
    drain device b = drain device ⟨b.pending, s⟩ := by
  rw [drain, if_neg hb, h]
  exact dif_pos hr

/-- Any other failure ends the attempts. -/
lemma drain_of_error {b : Buffered σ} {s : σ} {failure : Failure} (hb : b.pending ≠ [])
    (h : device.write b.pending b.inner = (.error failure, s))
    (hr : ¬device.retries failure b.inner s = true) :
    drain device b = (.error failure, ⟨b.pending, s⟩) := by
  rw [drain, if_neg hb, h]
  exact dif_neg hr

/-- Passing pending bytes on is nothing but operations on the device. -/
lemma reaches_drain (device : Device σ) (b : Buffered σ) :
    device.Reaches b.inner (drain device b).2.inner := by
  induction b using drain.induct device with
  | case1 b hb => rw [drain_of_nil hb]; exact .refl device _
  | case2 b hb s hw => rw [drain_of_zero hb hw]; exact .write hw
  | case3 b hb n s hw ih => rw [drain_of_succ hb hw]; exact (Device.Reaches.write hw).trans ih
  | case4 b hb failure s hw hr ih =>
    rw [drain_of_retries hb hw hr]
    exact (Device.Reaches.write hw).trans ih
  | case5 b hb failure s hw hr => rw [drain_of_error hb hw hr]; exact .write hw

/-- Once pending bytes were passed on with success, nothing is pending. -/
lemma pending_of_drain_ok {b b' : Buffered σ} (h : drain device b = (.ok (), b')) :
    b'.pending = [] := by
  induction b using drain.induct device with
  | case1 b hb => rw [drain_of_nil hb] at h; exact (Prod.mk.inj h).2 ▸ hb
  | case2 b hb s hw => simp [drain_of_zero hb hw] at h
  | case3 b hb n s hw ih => exact ih (drain_of_succ hb hw ▸ h)
  | case4 b hb failure s hw hr ih => exact ih (drain_of_retries hb hw hr ▸ h)
  | case5 b hb failure s hw hr => simp [drain_of_error hb hw hr] at h

/-- Passing pending bytes on neither loses nor repeats a byte, however it ends. -/
lemma given_drain (h : device.DeliversWhile fit content) {b : Buffered σ} (hb : fit b.inner) :
    (drain device b).2.given content = b.given content := by
  induction b using drain.induct device with
  | case1 b hnil => rw [drain_of_nil hnil]
  | case2 b hne s hw =>
    rw [drain_of_zero hne hw]
    simp only [Buffered.given, h.write_ok hb hw, List.take_zero, List.append_nil]
  | case3 b hne n s hw ih =>
    rw [drain_of_succ hne hw, ih (h.fit_of_reaches (.write hw) hb)]
    simp only [Buffered.given, h.write_ok hb hw, List.append_assoc, List.take_append_drop]
  | case4 b hne failure s hw hr ih =>
    rw [drain_of_retries hne hw hr, ih (h.fit_of_reaches (.write hw) hb)]
    simp only [Buffered.given, h.write_error hb hw]
  | case5 b hne failure s hw hr =>
    rw [drain_of_error hne hw hr]
    simp only [Buffered.given, h.write_error hb hw]

/-- A willing device lets all pending bytes pass. -/
lemma drain_ok (h : device.Willing fit) {b : Buffered σ} (hb : fit b.inner) :
    (drain device b).1 = .ok () := by
  induction b using drain.induct device with
  | case1 b hnil => rw [drain_of_nil hnil]
  | case2 b hne s hw => exact absurd (h.pos_of_ok hb hne hw) (Nat.lt_irrefl 0)
  | case3 b hne n s hw ih =>
    rw [drain_of_succ hne hw]
    exact ih (h.fit_of_reaches (.write hw) hb)
  | case4 b hne failure s hw hr ih =>
    rw [drain_of_retries hne hw hr]
    exact ih (h.fit_of_reaches (.write hw) hb)
  | case5 b hne failure s hw hr => exact absurd (h.retries_of_error hb hne hw) hr

/-- After all pending bytes were passed on, everything the buffer was given has arrived. -/
lemma content_of_drain_ok (h : device.DeliversWhile fit content) {b b' : Buffered σ}
    (hb : fit b.inner) (hok : drain device b = (.ok (), b')) :
    content b'.inner = b.given content := by
  have hgiven := given_drain h hb
  rw [hok, Buffered.given, pending_of_drain_ok hok, List.append_nil] at hgiven
  exact hgiven

/-! ### Making room -/

/-- Making room either leaves a buffer as it is, because the bytes fit, or passes on what is
pending. -/
lemma makeRoom_cases (capacity : Nat) (device : Device σ) (count : Nat) (b : Buffered σ) :
    (count ≤ capacity - b.pending.length ∧ makeRoom capacity device count b = (.ok (), b)) ∨
      makeRoom capacity device count b = drain device b := by
  by_cases hc : count > capacity - b.pending.length
  · exact .inr (if_pos hc)
  · exact .inl ⟨Nat.le_of_not_gt hc, if_neg hc⟩

/-- Making room is nothing but operations on the device. -/
lemma reaches_makeRoom (capacity : Nat) (device : Device σ) (count : Nat) (b : Buffered σ) :
    device.Reaches b.inner (makeRoom capacity device count b).2.inner := by
  rcases makeRoom_cases capacity device count b with ⟨_, hm⟩ | hm
  · rw [hm]; exact .refl device _
  · rw [hm]; exact reaches_drain device b

/-- Making room neither loses nor repeats a byte, however it ends. -/
lemma given_makeRoom (h : device.DeliversWhile fit content) (capacity count : Nat)
    {b : Buffered σ} (hb : fit b.inner) :
    (makeRoom capacity device count b).2.given content = b.given content := by
  rcases makeRoom_cases capacity device count b with ⟨_, hm⟩ | hm
  · rw [hm]
  · rw [hm]; exact given_drain h hb

/-- Bytes that fill a whole buffer by themselves find it empty once there is room, unless they are no
bytes at all. -/
lemma nil_of_makeRoom_ok {capacity : Nat} {data : Bytes} {b c : Buffered σ}
    (hm : makeRoom capacity device data.length b = (.ok (), c)) (hfull : capacity ≤ data.length) :
    c.pending = [] ∨ data = [] := by
  rcases makeRoom_cases capacity device data.length b with ⟨hroom, hsame⟩ | hdrain
  · rw [hm] at hsame
    obtain rfl : c = b := (Prod.mk.inj hsame).2
    rcases Nat.eq_zero_or_pos c.pending.length with hz | hpos
    · exact .inl (List.length_eq_zero_iff.mp hz)
    · exact .inr (List.length_eq_zero_iff.mp (by omega))
  · exact .inl (pending_of_drain_ok (hdrain ▸ hm))

/-! ### The operations of a block buffer -/

section Operations

variable {capacity : Nat} {data : Bytes} {b b' : Buffered σ}

/-- What offering bytes to a buffer can come to: there is no room to be made for them, or they pass by
the buffer, or they stop in it. -/
lemma write_cases (capacity : Nat) (device : Device σ) (data : Bytes) (b : Buffered σ) :
    (∃ failure c, makeRoom capacity device data.length b = (.error failure, c) ∧
      write capacity device data b = (.error failure, c)) ∨
    (∃ c, makeRoom capacity device data.length b = (.ok (), c) ∧ capacity ≤ data.length ∧
      write capacity device data b =
        ((device.write data c.inner).1, ⟨c.pending, (device.write data c.inner).2⟩)) ∨
    (∃ c, makeRoom capacity device data.length b = (.ok (), c) ∧
      write capacity device data b = (.ok data.length, ⟨c.pending ++ data, c.inner⟩)) := by
  rcases hm : makeRoom capacity device data.length b with ⟨failure | _, c⟩
  · exact .inl ⟨failure, c, rfl, by simp only [write, hm]⟩
  · by_cases hfull : data.length ≥ capacity
    · exact .inr (.inl ⟨c, rfl, hfull, by simp only [write, hm, if_pos hfull]⟩)
    · exact .inr (.inr ⟨c, rfl, by simp only [write, hm, if_neg hfull]⟩)

/-- What giving all bytes to a buffer can come to, likewise. -/
lemma writeAll_cases (capacity : Nat) (device : Device σ) (data : Bytes) (b : Buffered σ) :
    (∃ failure c, makeRoom capacity device data.length b = (.error failure, c) ∧
      writeAll capacity device data b = (.error failure, c)) ∨
    (∃ c, makeRoom capacity device data.length b = (.ok (), c) ∧ capacity ≤ data.length ∧
      writeAll capacity device data b =
        ((device.writeAll data c.inner).1, ⟨c.pending, (device.writeAll data c.inner).2⟩)) ∨
    (∃ c, makeRoom capacity device data.length b = (.ok (), c) ∧
      writeAll capacity device data b = (.ok (), ⟨c.pending ++ data, c.inner⟩)) := by
  rcases hm : makeRoom capacity device data.length b with ⟨failure | _, c⟩
  · exact .inl ⟨failure, c, rfl, by simp only [writeAll, hm]⟩
  · by_cases hfull : data.length ≥ capacity
    · exact .inr (.inl ⟨c, rfl, hfull, by simp only [writeAll, hm, if_pos hfull]⟩)
    · exact .inr (.inr ⟨c, rfl, by simp only [writeAll, hm, if_neg hfull]⟩)

/-- What flushing a buffer can come to: pending bytes do not pass, or the device is flushed behind
them. -/
lemma flush_cases (device : Device σ) (b : Buffered σ) :
    (∃ failure c, drain device b = (.error failure, c) ∧ flush device b = (.error failure, c)) ∨
    (∃ c, drain device b = (.ok (), c) ∧
      flush device b = ((device.flush c.inner).1, ⟨c.pending, (device.flush c.inner).2⟩)) := by
  rcases hd : drain device b with ⟨failure | _, c⟩
  · exact .inl ⟨failure, c, rfl, by simp only [flush, hd]⟩
  · exact .inr ⟨c, rfl, by simp only [flush, hd]⟩

/-- Offering bytes to a buffer is nothing but operations on the device behind it. -/
lemma reaches_write (capacity : Nat) (device : Device σ) (data : Bytes) (b : Buffered σ) :
    device.Reaches b.inner (write capacity device data b).2.inner := by
  have hroom := reaches_makeRoom capacity device data.length b
  rcases write_cases capacity device data b with
    ⟨_, c, hm, hw⟩ | ⟨c, hm, _, hw⟩ | ⟨c, hm, hw⟩ <;> rw [hm] at hroom <;> rw [hw]
  · exact hroom
  · exact hroom.trans (.write rfl)
  · exact hroom

/-- Giving all bytes to a buffer is nothing but operations on the device behind it. -/
lemma reaches_writeAll (capacity : Nat) (device : Device σ) (data : Bytes) (b : Buffered σ) :
    device.Reaches b.inner (writeAll capacity device data b).2.inner := by
  have hroom := reaches_makeRoom capacity device data.length b
  rcases writeAll_cases capacity device data b with
    ⟨_, c, hm, hw⟩ | ⟨c, hm, _, hw⟩ | ⟨c, hm, hw⟩ <;> rw [hm] at hroom <;> rw [hw]
  · exact hroom
  · exact hroom.trans (.writeAll device data _)
  · exact hroom

/-- Flushing a buffer is nothing but operations on the device behind it. -/
lemma reaches_flush (device : Device σ) (b : Buffered σ) :
    device.Reaches b.inner (flush device b).2.inner := by
  have hdrain := reaches_drain device b
  rcases flush_cases device b with ⟨_, c, hd, hf⟩ | ⟨c, hd, hf⟩ <;> rw [hd] at hdrain <;> rw [hf]
  · exact hdrain
  · exact hdrain.trans (.flush rfl)

/-- Bytes that arrive behind a buffer in which nothing is pending are appended to what it was given,
and so are no bytes at all. -/
lemma given_append {s : σ} {taken : Bytes} (hpre : taken <+: data)
    (hnil : b.pending = [] ∨ data = []) (hs : content s = content b.inner ++ taken) :
    (⟨b.pending, s⟩ : Buffered σ).given content = b.given content ++ taken := by
  rcases hnil with hnil | rfl
  · simp only [Buffered.given, hs, hnil, List.append_nil]
  · obtain rfl := List.prefix_nil.mp hpre
    simp only [Buffered.given, hs, List.append_nil]

/-- A write that a buffer reports as done appends that many bytes to what the buffer was given. -/
lemma given_write_ok (h : device.DeliversWhile fit content) {n : Nat} (hb : fit b.inner)
    (hok : write capacity device data b = (.ok n, b')) :
    b'.given content = b.given content ++ data.take n := by
  have hgiven := given_makeRoom h capacity data.length hb
  have hroom := reaches_makeRoom capacity device data.length b
  rcases write_cases capacity device data b with
    ⟨_, c, hm, hw⟩ | ⟨c, hm, hfull, hw⟩ | ⟨c, hm, hw⟩ <;> rw [hm] at hgiven hroom <;>
    rw [hw, Prod.mk.injEq] at hok <;> obtain ⟨hr, rfl⟩ := hok
  · cases hr
  · have hs := h.write_ok (h.fit_of_reaches hroom hb) (Prod.ext hr rfl)
    rw [given_append (List.take_prefix n data) (nil_of_makeRoom_ok hm hfull) hs, hgiven]
  · obtain rfl := Except.ok.inj hr
    rw [List.take_length, ← hgiven]
    simp only [Buffered.given, List.append_assoc]

/-- A write that a buffer reports as failed changes nothing in what the buffer was given. -/
lemma given_write_error (h : device.DeliversWhile fit content) {failure : Failure}
    (hb : fit b.inner) (herror : write capacity device data b = (.error failure, b')) :
    b'.given content = b.given content := by
  have hgiven := given_makeRoom h capacity data.length hb
  have hroom := reaches_makeRoom capacity device data.length b
  rcases write_cases capacity device data b with
    ⟨_, c, hm, hw⟩ | ⟨c, hm, _, hw⟩ | ⟨c, hm, hw⟩ <;> rw [hm] at hgiven hroom <;>
    rw [hw, Prod.mk.injEq] at herror <;> obtain ⟨hr, rfl⟩ := herror
  · exact hgiven
  · rw [← hgiven]
    simp only [Buffered.given, h.write_error (h.fit_of_reaches hroom hb) (Prod.ext hr rfl)]
  · cases hr

/-- When a buffer is given all of some bytes, a first part of them is appended to what it was given,
once and in order; if nothing fails, that part is all of them. -/
lemma given_writeAll (h : device.DeliversWhile fit content) (capacity : Nat) (data : Bytes)
    (hb : fit b.inner) :
    ∃ taken, taken <+: data ∧
      (writeAll capacity device data b).2.given content = b.given content ++ taken ∧
      ((writeAll capacity device data b).1 = .ok () → taken = data) := by
  have hgiven := given_makeRoom h capacity data.length hb
  have hroom := reaches_makeRoom capacity device data.length b
  rcases writeAll_cases capacity device data b with
    ⟨failure, c, hm, hw⟩ | ⟨c, hm, hfull, hw⟩ | ⟨c, hm, hw⟩ <;> rw [hm] at hgiven hroom <;> rw [hw]
  · exact ⟨[], List.nil_prefix, by rw [hgiven, List.append_nil], by simp⟩
  · obtain ⟨taken, hpre, hs, hall⟩ := h.content_writeAll data (h.fit_of_reaches hroom hb)
    refine ⟨taken, hpre, ?_, hall⟩
    rw [given_append hpre (nil_of_makeRoom_ok hm hfull) hs, hgiven]
  · refine ⟨data, List.prefix_rfl, ?_, fun _ => rfl⟩
    rw [← hgiven]
    simp only [Buffered.given, List.append_assoc]

/-- When a buffer in front of a device is given all of some bytes, a first part of them arrives in it or
behind it. -/
lemma arrives (h : device.DeliversWhile fit content) (capacity : Nat) (hdata : data ≠ [])
    (hb : fit b.inner) :
    Arrives data (b.given content) ((writeAll capacity device data b).2.given content)
      ((writeAll capacity device data b).1 = .ok ()) := by
  have hgiven := given_makeRoom h capacity data.length hb
  have hroom := reaches_makeRoom capacity device data.length b
  rcases writeAll_cases capacity device data b with
    ⟨failure, c, hm, hw⟩ | ⟨c, hm, hfull, hw⟩ | ⟨c, hm, hw⟩ <;> rw [hm] at hgiven hroom <;> rw [hw]
  · rw [hgiven]
    exact .nothing _ hdata fun hok => nomatch hok
  · obtain ⟨taken, hpart, hs, hall⟩ := h.arrives data (h.fit_of_reaches hroom hb)
    refine ⟨taken, hpart, ?_, hall⟩
    rw [given_append hpart (nil_of_makeRoom_ok hm hfull) hs, hgiven]
  · refine ⟨data, List.prefix_rfl, ?_, iff_of_true rfl rfl⟩
    rw [← hgiven]
    simp only [Buffered.given, List.append_assoc]

/-- Flushing a buffer changes nothing in what it was given, however it ends. -/
lemma given_flush (h : device.DeliversWhile fit content) (hb : fit b.inner) :
    (flush device b).2.given content = b.given content := by
  have hgiven := given_drain h hb
  have hdrain := reaches_drain device b
  rcases flush_cases device b with ⟨_, c, hd, hf⟩ | ⟨c, hd, hf⟩ <;> rw [hd] at hgiven hdrain <;>
    rw [hf, ← hgiven]
  simp only [Buffered.given, h.flush (h.fit_of_reaches hdrain hb)]

/-- Once a buffer was flushed with success, nothing is pending in it. -/
lemma pending_of_flush_ok (hok : flush device b = (.ok (), b')) : b'.pending = [] := by
  rcases flush_cases device b with ⟨_, c, hd, hf⟩ | ⟨c, hd, hf⟩ <;>
    rw [hf, Prod.mk.injEq] at hok <;> obtain ⟨hr, rfl⟩ := hok
  · cases hr
  · have hnil : c.pending = [] := pending_of_drain_ok hd
    exact hnil

/-- In front of a willing device there is always room to be made. -/
lemma makeRoom_ok (h : device.Willing fit) (capacity count : Nat) (hb : fit b.inner) :
    (makeRoom capacity device count b).1 = .ok () := by
  rcases makeRoom_cases capacity device count b with ⟨_, hm⟩ | hm
  · rw [hm]
  · rw [hm]; exact drain_ok h hb

/-- In front of a willing device a buffer takes all it is given. -/
lemma writeAll_ok (h : device.Willing fit) (capacity : Nat) (data : Bytes) (hb : fit b.inner) :
    (writeAll capacity device data b).1 = .ok () := by
  have hok := makeRoom_ok h capacity data.length hb
  have hroom := reaches_makeRoom capacity device data.length b
  rcases writeAll_cases capacity device data b with
    ⟨_, c, hm, hw⟩ | ⟨c, hm, _, hw⟩ | ⟨c, hm, hw⟩ <;> rw [hm] at hok hroom <;> rw [hw]
  · exact hok
  · exact h.writeAll_ok data (h.fit_of_reaches hroom hb)

/-- In front of a willing device whose flushes succeed a buffer is flushed with success. -/
lemma flush_ok (h : device.Willing fit) (hflush : ∀ s, fit s → (device.flush s).1 = .ok ())
    (hb : fit b.inner) : (flush device b).1 = .ok () := by
  have hok := drain_ok h hb
  have hdrain := reaches_drain device b
  rcases flush_cases device b with ⟨_, c, hd, hf⟩ | ⟨c, hd, hf⟩ <;> rw [hd] at hok hdrain <;> rw [hf]
  · exact hok
  · exact hflush c.inner (h.fit_of_reaches hdrain hb)

/-- Giving up a buffer in which nothing is pending does nothing. -/
lemma release_of_nil (hb : b.pending = []) : release device b = b.inner := by
  rw [release, drain_of_nil hb]

end Operations

/-- One operation on a block buffer is nothing but operations on the device behind it. -/
lemma reaches_of_step {capacity : Nat} {b b' : Buffered σ}
    (h : (BlockBuffer.device capacity device).Step b b') : device.Reaches b.inner b'.inner := by
  cases h with
  | write data => exact reaches_write capacity device data b
  | flush => exact reaches_flush device b

/-- **A block buffer delivers.**  In front of a device that delivers, what a block buffer takes is
appended to what it was given, and nothing else changes that. -/
theorem deliversWhile_device (h : device.DeliversWhile fit content) (capacity : Nat) :
    (BlockBuffer.device capacity device).DeliversWhile (fun b => fit b.inner)
      (Buffered.given content) where
  stays hstep hb := h.fit_of_reaches (reaches_of_step hstep) hb
  write_ok hb hw := given_write_ok h hb hw
  write_error hb hw := given_write_error h hb hw
  flush hb := given_flush h hb

end BlockBuffer

end PrefetchInfo
