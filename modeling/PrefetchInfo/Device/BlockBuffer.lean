import PrefetchInfo.Device.Basic

/-!
# Block buffering

A block buffer gathers bytes in front of a device and passes them on when it must: when the next
bytes do not fit, or when it is flushed. Bytes that fill a whole buffer by themselves do not stop in
it. What the device has taken and what is pending together are what the buffer was given; a failure
leaves the bytes that were not taken pending, so that they can be passed on later.
-/

namespace PrefetchInfo

/-- A buffer in front of a state that a device works on. -/
structure Buffered (σ : Type) where
  /-- The bytes that have not reached the device yet. -/
  pending : Bytes
  /-- What the device works on. -/
  inner : σ
  deriving Repr

namespace BlockBuffer

variable {σ : Type}

/-- The failure of a device that takes nothing of what is pending. -/
def nothingTaken : Failure :=
  .described .writeZero "failed to write the buffered data"

/-- Passes on what is pending, going on after interruptions, until nothing is left or the device
fails or takes nothing. -/
def drain (device : Device σ) (b : Buffered σ) : Except Failure Unit × Buffered σ :=
  if b.pending = [] then (.ok (), b) else
  match device.write b.pending b.inner with
  | (.ok 0, s) => (.error nothingTaken, ⟨b.pending, s⟩)
  | (.ok (n + 1), s) => drain device ⟨b.pending.drop (n + 1), s⟩
  | (.error failure, s) =>
    if _h : device.retries failure b.inner s then drain device ⟨b.pending, s⟩
    else (.error failure, ⟨b.pending, s⟩)
termination_by (b.pending.length, device.patience b.inner)
decreasing_by
  · have : b.pending.length ≠ 0 := by simpa using ‹¬b.pending = []›
    exact Prod.Lex.left _ _ (by rw [List.length_drop]; omega)
  · exact Prod.Lex.right _ (Device.patience_lt_of_retries _h)

/-- Makes room for `count` more bytes in a buffer of the given capacity, if they do not fit. -/
def makeRoom (capacity : Nat) (device : Device σ) (count : Nat) (b : Buffered σ) :
    Except Failure Unit × Buffered σ :=
  if count > capacity - b.pending.length then drain device b else (.ok (), b)

/-- Offers bytes to the buffer: they are all taken, unless they would fill the buffer by themselves,
in which case they are offered to the device. -/
def write (capacity : Nat) (device : Device σ) (data : Bytes) (b : Buffered σ) :
    Except Failure Nat × Buffered σ :=
  match makeRoom capacity device data.length b with
  | (.error failure, b) => (.error failure, b)
  | (.ok (), b) =>
    if data.length ≥ capacity then
      let (result, s) := device.write data b.inner
      (result, { b with inner := s })
    else (.ok data.length, { b with pending := b.pending ++ data })

/-- Gives all bytes to the buffer; those that would fill it by themselves are all given to the
device. -/
def writeAll (capacity : Nat) (device : Device σ) (data : Bytes) (b : Buffered σ) :
    Except Failure Unit × Buffered σ :=
  match makeRoom capacity device data.length b with
  | (.error failure, b) => (.error failure, b)
  | (.ok (), b) =>
    if data.length ≥ capacity then
      let (result, s) := device.writeAll data b.inner
      (result, { b with inner := s })
    else (.ok (), { b with pending := b.pending ++ data })

/-- Passes on what is pending and flushes the device. -/
def flush (device : Device σ) (b : Buffered σ) : Except Failure Unit × Buffered σ :=
  match drain device b with
  | (.error failure, b) => (.error failure, b)
  | (.ok (), b) =>
    let (result, s) := device.flush b.inner
    (result, { b with inner := s })

/-- Gives up a buffer: passes on what is pending as far as the device takes it, and loses the rest. -/
def release (device : Device σ) (b : Buffered σ) : σ :=
  (drain device b).2.inner

/-! ### A block buffer is a device -/

theorem write_ok_le {capacity : Nat} {device : Device σ} {data : Bytes} {b : Buffered σ} {n : Nat}
    {b' : Buffered σ} (h : write capacity device data b = (.ok n, b')) : n ≤ data.length := by
  rcases hm : makeRoom capacity device data.length b with ⟨failure | _, c⟩
  · simp [write, hm] at h
  · by_cases hc : data.length ≥ capacity
    · simp only [write, hm, if_pos hc] at h
      exact device.taken_le (Prod.ext (Prod.mk.inj h).1 rfl)
    · simp only [write, hm, if_neg hc] at h
      exact Nat.le_of_eq (Except.ok.inj (Prod.mk.inj h).1).symm

/-- A block buffer of the given capacity in front of a device. -/
def device (capacity : Nat) (inner : Device σ) : Device (Buffered σ) where
  write := write capacity inner
  flush := flush inner
  patience b := inner.patience b.inner
  taken_le := write_ok_le

end BlockBuffer

end PrefetchInfo
