import Mathlib
import PrefetchInfo.Proofs.Device.Capacity
import PrefetchInfo.Proofs.Error.Renderings

/-!
# Reports of what was delivered

A chain is written to a device that fills up: as much of its rendering arrives as there is room for, and
the answer tells truly whether that was all of it. The status calls get the same bytes to the device, and
say the same in a number.
-/

namespace PrefetchInfo

open Device

variable {σ : Type} {device : Device σ} {fit : σ → Prop} {content : σ → Bytes}
  {capacity : Option Nat} {refusal : Option Failure} {s : σ} {bytes : Bytes}

namespace ErrorChain

/-! ### One call -/

/-- The outcome of a call that was to write certain bytes to a device in the state `s`, which takes up to
`capacity` bytes in all and then refuses with the failure `refusal`, or by taking nothing. -/
structure Reports (content : σ → Bytes) (capacity : Option Nat) (refusal : Option Failure) (s : σ)
    (bytes : Bytes) (outcome : Except Failure Nat × σ) : Prop where
  /-- As many of the bytes have arrived as there was room for. -/
  arrived : content outcome.2 = content s ++ fitting capacity (content s) bytes
  /-- The call answers with a number just if all of the bytes have arrived, and it is theirs. -/
  ok_iff : ∀ count, outcome.1 = .ok count ↔
    content outcome.2 = content s ++ bytes ∧ count = bytes.length
  /-- If not all of them have, it answers with the failure of the device. -/
  refused : content outcome.2 ≠ content s ++ bytes →
    outcome.1 = .error (refusal.getD nothingTaken)

/-- Delivering a text reports what was delivered of it. -/
lemma reports_deliver (h : device.FillsUp fit content capacity refusal) (hs : fit s) (text : String) :
    Reports content capacity refusal s (utf8 text) (deliver device text s) := by
  obtain ⟨harrived, hresult⟩ := h.writeAll (utf8 text) hs
  have hall : content (device.writeAll (utf8 text) s).2 = content s ++ utf8 text ↔
      fitting capacity (content s) (utf8 text) = utf8 text := by
    rw [harrived, List.append_right_inj]
  rcases hw : device.writeAll (utf8 text) s with ⟨failure | _, t⟩ <;>
    rw [hw] at harrived hall hresult <;> simp only [deliver, hw] at harrived hall hresult ⊢
  · have hcut : ¬fitting capacity (content s) (utf8 text) = utf8 text := by
      intro hwhole
      rw [if_pos hwhole] at hresult
      cases hresult
    rw [if_neg hcut] at hresult
    refine ⟨harrived, fun count => ⟨fun hok => ?_, fun hwhole => ?_⟩, fun _ => ?_⟩
    · cases hok
    · exact absurd (hall.mp hwhole.1) hcut
    · rw [Except.error.inj hresult]
  · have hwhole : fitting capacity (content s) (utf8 text) = utf8 text := by
      by_contra hcut
      rw [if_neg hcut] at hresult
      cases hresult
    refine ⟨harrived, fun count => ?_, fun hcut => absurd (hall.mpr hwhole) hcut⟩
    rw [Except.ok.injEq, eq_comm, and_iff_right (hall.mpr hwhole)]

/-! ### The status calls -/

/-- A report in numbers: that of the bytes if all have arrived, as far as a status can tell it, and the
status of failure else. -/
lemma Reports.byteCount_eq {outcome : Except Failure Nat × σ}
    (h : Reports content capacity refusal s bytes outcome) :
    Status.byteCount outcome.1 =
      if content outcome.2 = content s ++ bytes then (min bytes.length Status.greatest : Int)
      else Status.failure := by
  by_cases hwhole : content outcome.2 = content s ++ bytes
  · rw [if_pos hwhole, (h.ok_iff bytes.length).mpr ⟨hwhole, rfl⟩]
    rfl
  · rw [if_neg hwhole, h.refused hwhole]
    rfl

/-! ### All calls together -/

/-- **Writing a chain reports what was delivered.**  To a device that fills up, whatever its portions and
interruptions, the whole rendering of a chain is written as far as there is room for it, and so is what the
latest record alone says. The answer is a number just if everything has arrived, and then the number of the
bytes; else it is the failure of the device, which is of the kind for writing nothing if the device took
nothing without saying why. The status calls get the same bytes to the device, and answer with the same
number, or with the status of failure; more than `Status.greatest` bytes, which is beyond any text in the
memory of a machine, they would report as that many. Without a chain or without a device they write
nothing and answer with zero. -/
theorem reports_what_arrived (h : device.FillsUp fit content capacity refusal) (hs : fit s)
    (chain : ErrorChain) :
    let whole := rendering chain.newestFirst
    let first := utf8 chain.brief ++ [newline]
    Reports content capacity refusal s whole (chain.writeBacktrace device s) ∧
    Reports content capacity refusal s first (chain.writeLatest device s) ∧
    nothingTaken.kind = .writeZero ∧
    Status.backtracePrint (some chain) (some device) s =
      (if content (chain.writeBacktrace device s).2 = content s ++ whole
        then (min whole.length Status.greatest : Int) else -1, (chain.writeBacktrace device s).2) ∧
    Status.errorPrint (some chain) (some device) s =
      (if content (chain.writeLatest device s).2 = content s ++ first
        then (min first.length Status.greatest : Int) else -1, (chain.writeLatest device s).2) ∧
    ∀ (slot : Option ErrorChain) (device : Option (Device σ)), slot = none ∨ device = none →
      Status.backtracePrint slot device s = (0, s) ∧ Status.errorPrint slot device s = (0, s) := by
  intro whole first
  have hwhole : Reports content capacity refusal s whole (chain.writeBacktrace device s) := by
    have hreports := reports_deliver h hs chain.backtraceLines
    rwa [backtraceLines, utf8_lines] at hreports
  have hfirst : Reports content capacity refusal s first (chain.writeLatest device s) := by
    have hreports := reports_deliver h hs chain.latestLine
    rwa [utf8_latestLine] at hreports
  refine ⟨hwhole, hfirst, rfl, ?_, ?_, ?_⟩
  · exact Prod.ext hwhole.byteCount_eq rfl
  · exact Prod.ext hfirst.byteCount_eq rfl
  · rintro slot device (rfl | rfl)
    · exact ⟨rfl, rfl⟩
    · cases slot <;> exact ⟨rfl, rfl⟩

/-- A sink with room for three bytes, which is interrupted once and takes two bytes at a time, gets three
bytes of the lines of two records; it takes nothing more, and that is the failure that is reported. -/
theorem reports_three_bytes :
    let chain := (single (.inOut .generic) "ab").append (.inOut .readFailed) "c"
    let sink : Sink := { chunk := some 2, limit := some 3, interrupts := 1 }
    (chain.writeBacktrace Sink.device sink).2.accepted = utf8 "c\na" ∧
    (chain.writeBacktrace Sink.device sink).1 = .error nothingTaken ∧
    (Status.backtracePrint (some chain) (some Sink.device) sink).1 = -1 := by
  intro chain sink
  have hsink : sink.Bounded (some 3) none :=
    ⟨by decide, rfl, rfl, fun _ hrefusal => nomatch hrefusal⟩
  obtain ⟨hwhole, -, -, hstatus, -⟩ :=
    reports_what_arrived (Sink.fillsUp (some 3) none) hsink chain
  have harrived : (chain.writeBacktrace Sink.device sink).2.accepted = utf8 "c\na" := by
    rw [hwhole.arrived]
    decide
  have hcut : ¬(chain.writeBacktrace Sink.device sink).2.accepted =
      sink.accepted ++ rendering chain.newestFirst := by
    rw [harrived]
    decide
  refine ⟨harrived, hwhole.refused hcut, ?_⟩
  rw [hstatus, if_neg hcut]

end ErrorChain

end PrefetchInfo
