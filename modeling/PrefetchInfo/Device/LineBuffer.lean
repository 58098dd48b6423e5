import PrefetchInfo.Device.BlockBuffer

/-!
# Line buffering

A line buffer passes finished lines on at once and holds back only the line that is still being
written. It is a block buffer with one more rule: bytes up to the last line feed of a write go to the
device directly, behind everything that was pending. If the device takes only part of them, the next
bytes wait in the buffer, cut after a line feed where one fits.
-/

namespace PrefetchInfo.LineBuffer

variable {σ : Type}

/-- The number of bytes up to and including the last line feed, 0 if there is none. -/
def finished (data : Bytes) : Nat :=
  data.length - (data.reverse.takeWhile (· ≠ newline)).length

theorem finished_le (data : Bytes) : finished data ≤ data.length :=
  Nat.sub_le _ _

/-- The bytes that wait in an empty buffer of the given capacity after the device took the first
`taken` bytes of `data`, of which the first `lines` are finished lines: the unfinished line if it is
all that is left and does not fill the buffer; else finished lines, as many as fit; else as much of
one line as fits. -/
def leftover (capacity : Nat) (data : Bytes) (lines taken : Nat) : Bytes :=
  if taken ≥ lines then
    if data.length - taken ≥ capacity then [] else data.drop taken
  else if lines - taken ≤ capacity then (data.take lines).drop taken
  else
    let area := (data.drop taken).take capacity
    if finished area = 0 then area else area.take (finished area)

theorem leftover_length_le (capacity : Nat) (data : Bytes) (lines taken : Nat) :
    (leftover capacity data lines taken).length ≤ data.length - taken := by
  simp only [leftover]
  split
  · split
    · exact Nat.zero_le _
    · exact Nat.le_of_eq List.length_drop
  · split
    · rw [List.length_drop, List.length_take]
      omega
    · split
      · rw [List.length_take, List.length_drop]
        omega
      · rw [List.length_take, List.length_take, List.length_drop]
        omega

/-- Offers bytes without a line feed: a finished line that is still pending is passed on first. -/
def writeUnfinished (capacity : Nat) (device : Device σ) (data : Bytes) (b : Buffered σ) :
    Except Failure Nat × Buffered σ :=
  if b.pending.getLast? = some newline then
    match BlockBuffer.drain device b with
    | (.error failure, b) => (.error failure, b)
    | (.ok (), b) => BlockBuffer.write capacity device data b
  else BlockBuffer.write capacity device data b

/-- Offers bytes of which the first `lines` are finished lines: those are offered to the device behind
all that is pending, and what it leaves waits in the buffer as far as it fits. -/
def writeFinished (capacity : Nat) (device : Device σ) (data : Bytes) (lines : Nat)
    (b : Buffered σ) : Except Failure Nat × Buffered σ :=
  match BlockBuffer.drain device b with
  | (.error failure, b) => (.error failure, b)
  | (.ok (), b) =>
    match device.write (data.take lines) b.inner with
    | (.error failure, s) => (.error failure, { b with inner := s })
    | (.ok taken, s) =>
      if taken = 0 then (.ok 0, { b with inner := s })
      else
        let waiting := (leftover capacity data lines taken).take (capacity - b.pending.length)
        (.ok (taken + waiting.length), ⟨b.pending ++ waiting, s⟩)

/-- Offers bytes to the buffer. -/
def write (capacity : Nat) (device : Device σ) (data : Bytes) (b : Buffered σ) :
    Except Failure Nat × Buffered σ :=
  let lines := finished data
  if lines = 0 then writeUnfinished capacity device data b
  else writeFinished capacity device data lines b

/-! ### A line buffer is a device -/

theorem writeUnfinished_ok_le {capacity : Nat} {device : Device σ} {data : Bytes} {b : Buffered σ}
    {n : Nat} {b' : Buffered σ} (h : writeUnfinished capacity device data b = (.ok n, b')) :
    n ≤ data.length := by
  unfold writeUnfinished at h
  split at h
  · rcases hd : BlockBuffer.drain device b with ⟨_ | _, c⟩
    · simp [hd] at h
    · rw [hd] at h
      exact BlockBuffer.write_ok_le h
  · exact BlockBuffer.write_ok_le h

theorem writeFinished_ok_le {capacity : Nat} {device : Device σ} {data : Bytes} {lines : Nat}
    (hl : lines ≤ data.length) {b : Buffered σ} {n : Nat} {b' : Buffered σ}
    (h : writeFinished capacity device data lines b = (.ok n, b')) : n ≤ data.length := by
  rcases hd : BlockBuffer.drain device b with ⟨_ | _, c⟩
  · simp [writeFinished, hd] at h
  · rcases hw : device.write (data.take lines) c.inner with ⟨_ | taken, s⟩
    · simp [writeFinished, hd, hw] at h
    · have ht := device.taken_le hw
      have hr := leftover_length_le capacity data lines taken
      simp only [writeFinished, hd, hw] at h
      simp only [List.length_take] at ht
      split at h
      · exact (Except.ok.inj (Prod.mk.inj h).1) ▸ Nat.zero_le _
      · rw [← Except.ok.inj (Prod.mk.inj h).1, List.length_take]
        omega

/-- A line buffer of the given capacity in front of a device. -/
def device (capacity : Nat) (inner : Device σ) : Device (Buffered σ) where
  write := write capacity inner
  flush := BlockBuffer.flush inner
  patience b := inner.patience b.inner
  taken_le := by
    intro data b n b' h
    simp only [write] at h
    split at h
    · exact writeUnfinished_ok_le h
    · exact writeFinished_ok_le (finished_le data) h

end PrefetchInfo.LineBuffer
