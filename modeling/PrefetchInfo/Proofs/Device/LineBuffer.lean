import PrefetchInfo.Device.LineBuffer
import PrefetchInfo.Proofs.Device.BlockBuffer

/-!
# What a line buffer is given

A line buffer hands finished lines to the device behind it and keeps what the device left of them.
Whatever the device leaves and however much of it fits, what was handed over and what is kept together
are a first part of the bytes that were offered, and the count that is reported is the length of that
part. So a line buffer delivers, as a block buffer does.
-/

namespace PrefetchInfo.LineBuffer

variable {σ : Type} {device : Device σ} {fit : σ → Prop} {content : σ → Bytes}
  {capacity : Nat} {data : Bytes} {b b' : Buffered σ}

/-! ### What waits in the buffer -/

/-- What waits after the device took some bytes are the bytes that come next. -/
lemma leftover_comes_next (capacity : Nat) (data : Bytes) (lines taken : Nat) :
    leftover capacity data lines taken <+: data.drop taken := by
  simp only [leftover]
  split
  · split
    · exact List.nil_prefix
    · exact List.prefix_rfl
  · split
    · rw [List.drop_take]
      exact List.take_prefix _ _
    · split
      · exact List.take_prefix _ _
      · exact (List.take_prefix _ _).trans (List.take_prefix _ _)

/-- A first part of some bytes and a first part of the rest together are a first part. -/
lemma take_append_of_prefix_drop {taken : Nat} {next : Bytes} (hnext : next <+: data.drop taken) :
    data.take taken ++ next = data.take (taken + next.length) := by
  rw [List.take_add, ← List.prefix_iff_eq_take.mp hnext]

/-! ### Offering bytes -/

/-- Bytes without a line feed are no finished lines. -/
lemma write_of_unfinished (hlines : finished data = 0) :
    write capacity device data b = writeUnfinished capacity device data b := by
  simp only [write, if_pos hlines]

/-- Bytes with a line feed begin with finished lines. -/
lemma write_of_finished (hlines : finished data ≠ 0) :
    write capacity device data b = writeFinished capacity device data (finished data) b := by
  simp only [write, if_neg hlines]

/-- What offering bytes without a line feed can come to: pending lines do not pass, or the bytes are
offered as to a block buffer, behind the same bytes as before. -/
lemma writeUnfinished_cases (capacity : Nat) (device : Device σ) (data : Bytes) (b : Buffered σ) :
    (∃ failure c, BlockBuffer.drain device b = (.error failure, c) ∧
      writeUnfinished capacity device data b = (.error failure, c)) ∨
    (∃ c, (c = b ∨ BlockBuffer.drain device b = (.ok (), c)) ∧
      writeUnfinished capacity device data b = BlockBuffer.write capacity device data c) := by
  by_cases hline : b.pending.getLast? = some newline
  · rcases hd : BlockBuffer.drain device b with ⟨failure | _, c⟩
    · exact .inl ⟨failure, c, rfl, by simp only [writeUnfinished, if_pos hline, hd]⟩
    · exact .inr ⟨c, .inr rfl, by simp only [writeUnfinished, if_pos hline, hd]⟩
  · exact .inr ⟨b, .inl rfl, by simp only [writeUnfinished, if_neg hline]⟩

/-- What offering finished lines can come to: pending bytes do not pass, the device fails, or it takes
some bytes and the ones that come next wait as far as they fit. -/
lemma writeFinished_cases (capacity : Nat) (device : Device σ) (data : Bytes) (lines : Nat)
    (b : Buffered σ) :
    (∃ failure c, BlockBuffer.drain device b = (.error failure, c) ∧
      writeFinished capacity device data lines b = (.error failure, c)) ∨
    (∃ failure c s, BlockBuffer.drain device b = (.ok (), c) ∧
      device.write (data.take lines) c.inner = (.error failure, s) ∧
      writeFinished capacity device data lines b = (.error failure, ⟨c.pending, s⟩)) ∨
    (∃ taken next c s, BlockBuffer.drain device b = (.ok (), c) ∧
      device.write (data.take lines) c.inner = (.ok taken, s) ∧ next <+: data.drop taken ∧
      writeFinished capacity device data lines b =
        (.ok (taken + next.length), ⟨c.pending ++ next, s⟩)) := by
  rcases hd : BlockBuffer.drain device b with ⟨failure | _, c⟩
  · exact .inl ⟨failure, c, rfl, by simp only [writeFinished, hd]⟩
  · rcases hw : device.write (data.take lines) c.inner with ⟨failure | taken, s⟩
    · exact .inr (.inl ⟨failure, c, s, rfl, hw, by simp only [writeFinished, hd, hw]⟩)
    · right; right
      by_cases hzero : taken = 0
      · subst hzero
        refine ⟨0, [], c, s, rfl, hw, List.nil_prefix, ?_⟩
        simp only [writeFinished, hd, hw, if_true, List.length_nil, List.append_nil]
      · refine ⟨taken, (leftover capacity data lines taken).take (capacity - c.pending.length), c,
          s, rfl, hw, ?_, by simp only [writeFinished, hd, hw, if_neg hzero]⟩
        exact (List.take_prefix _ _).trans (leftover_comes_next capacity data lines taken)

/-- Offering bytes to a line buffer is nothing but operations on the device behind it. -/
lemma reaches_write (capacity : Nat) (device : Device σ) (data : Bytes) (b : Buffered σ) :
    device.Reaches b.inner (write capacity device data b).2.inner := by
  have hdrain := BlockBuffer.reaches_drain device b
  by_cases hlines : finished data = 0
  · rw [write_of_unfinished hlines]
    rcases writeUnfinished_cases capacity device data b with
      ⟨_, c, hd, hw⟩ | ⟨c, rfl | hd, hw⟩ <;> rw [hw]
    · rwa [hd] at hdrain
    · exact BlockBuffer.reaches_write capacity device data c
    · rw [hd] at hdrain
      exact hdrain.trans (BlockBuffer.reaches_write capacity device data c)
  · rw [write_of_finished hlines]
    rcases writeFinished_cases capacity device data (finished data) b with
      ⟨_, c, hd, hw⟩ | ⟨_, c, s, hd, hi, hw⟩ | ⟨_, _, c, s, hd, hi, _, hw⟩ <;> rw [hw] <;>
      rw [hd] at hdrain
    · exact hdrain
    · exact hdrain.trans (.write hi)
    · exact hdrain.trans (.write hi)

/-- Bytes without a line feed that a line buffer reports as taken are appended to what it was given. -/
lemma given_writeUnfinished_ok (h : device.DeliversWhile fit content) (hb : fit b.inner) {n : Nat}
    (hok : writeUnfinished capacity device data b = (.ok n, b')) :
    b'.given content = b.given content ++ data.take n := by
  have hgiven := BlockBuffer.given_drain h hb
  have hdrain := BlockBuffer.reaches_drain device b
  rcases writeUnfinished_cases capacity device data b with
    ⟨_, c, hd, hw⟩ | ⟨c, rfl | hd, hw⟩ <;> rw [hw] at hok
  · cases (Prod.mk.inj hok).1
  · exact BlockBuffer.given_write_ok h hb hok
  · rw [hd] at hgiven hdrain
    rw [BlockBuffer.given_write_ok h (h.fit_of_reaches hdrain hb) hok, hgiven]

/-- Bytes without a line feed that a line buffer reports as failed change nothing in what it was
given. -/
lemma given_writeUnfinished_error (h : device.DeliversWhile fit content) (hb : fit b.inner)
    {failure : Failure} (herror : writeUnfinished capacity device data b = (.error failure, b')) :
    b'.given content = b.given content := by
  have hgiven := BlockBuffer.given_drain h hb
  have hdrain := BlockBuffer.reaches_drain device b
  rcases writeUnfinished_cases capacity device data b with
    ⟨_, c, hd, hw⟩ | ⟨c, rfl | hd, hw⟩ <;> rw [hw] at herror
  · obtain rfl := (Prod.mk.inj herror).2
    rwa [hd] at hgiven
  · exact BlockBuffer.given_write_error h hb herror
  · rw [hd] at hgiven hdrain
    rw [BlockBuffer.given_write_error h (h.fit_of_reaches hdrain hb) herror, hgiven]

/-- Finished lines that a line buffer reports as taken are appended to what it was given, those that
reached the device first and those that wait behind them. -/
lemma given_writeFinished_ok (h : device.DeliversWhile fit content) (hb : fit b.inner)
    {lines n : Nat} (hok : writeFinished capacity device data lines b = (.ok n, b')) :
    b'.given content = b.given content ++ data.take n := by
  have hgiven := BlockBuffer.given_drain h hb
  have hdrain := BlockBuffer.reaches_drain device b
  rcases writeFinished_cases capacity device data lines b with
    ⟨_, c, hd, hw⟩ | ⟨_, c, s, hd, hi, hw⟩ | ⟨taken, next, c, s, hd, hi, hnext, hw⟩ <;>
    rw [hw, Prod.mk.injEq] at hok <;> obtain ⟨hr, rfl⟩ := hok <;> rw [hd] at hgiven hdrain
  · cases hr
  · cases hr
  · obtain rfl := Except.ok.inj hr
    have hlines : taken ≤ lines := by
      have hle := device.taken_le hi
      rw [List.length_take] at hle
      omega
    -- With nothing pending, what waits stands in the view right behind what the device took.
    have hnil : c.pending = [] := BlockBuffer.pending_of_drain_ok hd
    have hs := h.write_ok (h.fit_of_reaches hdrain hb) hi
    rw [List.take_take, Nat.min_eq_left hlines] at hs
    rw [← hgiven, ← take_append_of_prefix_drop hnext]
    simp only [Buffered.given, hs, hnil, List.nil_append, List.append_nil, List.append_assoc]

/-- Finished lines that a line buffer reports as failed change nothing in what it was given. -/
lemma given_writeFinished_error (h : device.DeliversWhile fit content) (hb : fit b.inner)
    {lines : Nat} {failure : Failure}
    (herror : writeFinished capacity device data lines b = (.error failure, b')) :
    b'.given content = b.given content := by
  have hgiven := BlockBuffer.given_drain h hb
  have hdrain := BlockBuffer.reaches_drain device b
  rcases writeFinished_cases capacity device data lines b with
    ⟨_, c, hd, hw⟩ | ⟨_, c, s, hd, hi, hw⟩ | ⟨taken, next, c, s, hd, hi, hnext, hw⟩ <;>
    rw [hw, Prod.mk.injEq] at herror <;> obtain ⟨hr, rfl⟩ := herror <;> rw [hd] at hgiven hdrain
  · exact hgiven
  · rw [← hgiven]
    simp only [Buffered.given, h.write_error (h.fit_of_reaches hdrain hb) hi]
  · cases hr

/-! ### A line buffer delivers -/

/-- One operation on a line buffer is nothing but operations on the device behind it. -/
lemma reaches_of_step (h : (LineBuffer.device capacity device).Step b b') :
    device.Reaches b.inner b'.inner := by
  cases h with
  | write data => exact reaches_write capacity device data b
  | flush => exact BlockBuffer.reaches_flush device b

/-- **A line buffer delivers.**  In front of a device that delivers, what a line buffer takes is
appended to what it was given, and nothing else changes that. -/
theorem deliversWhile_device (h : device.DeliversWhile fit content) (capacity : Nat) :
    (LineBuffer.device capacity device).DeliversWhile (fun b => fit b.inner)
      (Buffered.given content) where
  stays hstep hb := h.fit_of_reaches (reaches_of_step hstep) hb
  write_ok {data b n b'} hb hw := by
    change write capacity device data b = (.ok n, b') at hw
    by_cases hlines : finished data = 0
    · rw [write_of_unfinished hlines] at hw
      exact given_writeUnfinished_ok h hb hw
    · rw [write_of_finished hlines] at hw
      exact given_writeFinished_ok h hb hw
  write_error {data b failure b'} hb hw := by
    change write capacity device data b = (.error failure, b') at hw
    by_cases hlines : finished data = 0
    · rw [write_of_unfinished hlines] at hw
      exact given_writeUnfinished_error h hb hw
    · rw [write_of_finished hlines] at hw
      exact given_writeFinished_error h hb hw
  flush hb := BlockBuffer.given_flush h hb

end PrefetchInfo.LineBuffer
