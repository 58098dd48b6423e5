import PrefetchInfo.Text.Bytes
import PrefetchInfo.System.Failure

/-!
# Devices that bytes are written to

A `Device` over a state takes bytes and may take fewer than it is offered, be interrupted, or fail.
Its patience measures how often it can still be interrupted: an interruption that leaves the device
less patient may be followed by another attempt, and one that does not would come back for ever. So
repeating an interrupted operation comes to an end.

`Device.writeAll` offers bytes again and again until all of them are taken. `Device.Delivers` says
that what a device takes, and nothing else, is appended to a view of its state.
-/

namespace PrefetchInfo

/-- Something bytes are written to, seen through its effect on a state. -/
structure Device (σ : Type) where
  /-- Offers bytes, of which the device takes a number from the front. -/
  write : Bytes → σ → Except Failure Nat × σ
  /-- Asks the device to pass on what it holds. -/
  flush : σ → Except Failure Unit × σ
  /-- A measure of the state that goes down with the interruptions that will not last. -/
  patience : σ → Nat
  taken_le : ∀ {data s n s'}, write data s = (.ok n, s') → n ≤ data.length

namespace Device

variable {σ : Type}

/-- Whether an operation that failed and led from one state to another is worth another attempt: it was
interrupted, and the interruptions will not last. -/
def retries (device : Device σ) (failure : Failure) (before after : σ) : Bool :=
  failure.isInterruption && decide (device.patience after < device.patience before)

theorem patience_lt_of_retries {device : Device σ} {failure : Failure} {before after : σ}
    (h : device.retries failure before after = true) :
    device.patience after < device.patience before := by
  simp only [retries, Bool.and_eq_true, decide_eq_true_eq] at h
  exact h.2

/-- The failure of a device that takes nothing of what it is offered. -/
def nothingTaken : Failure :=
  .described .writeZero "failed to write whole buffer"

/-- Offers bytes until the device has taken all of them, going on after interruptions. A device that
takes nothing or fails ends the attempt; what it took before stays taken. -/
def writeAll (device : Device σ) (data : Bytes) (s : σ) : Except Failure Unit × σ :=
  if data = [] then (.ok (), s) else
  match device.write data s with
  | (.ok 0, s') => (.error nothingTaken, s')
  | (.ok (n + 1), s') => device.writeAll (data.drop (n + 1)) s'
  | (.error failure, s') =>
    if _h : device.retries failure s s' then device.writeAll data s' else (.error failure, s')
termination_by (data.length, device.patience s)
decreasing_by
  · have : data.length ≠ 0 := by simpa using ‹¬data = []›
    exact Prod.Lex.left _ _ (by rw [List.length_drop]; omega)
  · exact Prod.Lex.right _ (patience_lt_of_retries _h)

/-- Writes pieces of text one after the other, up to the first that fails. -/
def writePieces (device : Device σ) (pieces : List String) (s : σ) : Except Failure Unit × σ :=
  match pieces with
  | [] => (.ok (), s)
  | piece :: pieces =>
    match device.writeAll (utf8 piece) s with
    | (.ok (), s) => device.writePieces pieces s
    | (.error failure, s) => (.error failure, s)

/-- What a device takes is appended to the view `content`, and nothing else changes it. -/
structure Delivers (device : Device σ) (content : σ → Bytes) : Prop where
  write_ok : ∀ {data s n s'}, device.write data s = (.ok n, s') →
    content s' = content s ++ data.take n
  write_error : ∀ {data s failure s'}, device.write data s = (.error failure, s') →
    content s' = content s
  flush : ∀ s, content (device.flush s).2 = content s

end Device

end PrefetchInfo
