import PrefetchInfo.Info.Handle
import PrefetchInfo.Proofs.HexDump.Layout
import PrefetchInfo.Proofs.Signature.Reading

/-!
# Printing a header dump

The dump of a header and its heading are short: together they fit into the empty buffer in front of a
file for diagnostics. So printing them there does not touch the file, and cannot fail, whatever the file
is.
-/

namespace PrefetchInfo

/-! ### Room for diagnostics -/

namespace Notify.Destination

variable {φ ω : Type}

/-- A destination has room for `count` more bytes: it is standard error, or a file in front of which
they fit into the buffer. -/
def HasRoom (count : Nat) : Destination φ ω → Prop
  | .standardError => True
  | .external _ => False
  | .owned _ _ pending => pending.length + count < bufferCapacity

/-- A destination is vacant if it has room for all that fits into a buffer. -/
def Vacant (destination : Destination φ ω) : Prop :=
  ∀ count, count < bufferCapacity → destination.HasRoom count

/-- Standard error is vacant. -/
lemma vacant_standardError : (standardError : Destination φ ω).Vacant :=
  fun _ _ => trivial

/-- A file is vacant if nothing is pending in front of it. -/
lemma vacant_owned (path : Bytes) (file : φ) : (owned path file [] : Destination φ ω).Vacant := by
  intro count hcount
  change ([] : Bytes).length + count < bufferCapacity
  rwa [List.length_nil, Nat.zero_add]

/-- Where there is room for more, there is room for less. -/
lemma HasRoom.mono {destination : Destination φ ω} {count less : Nat}
    (h : destination.HasRoom count) (hle : less ≤ count) : destination.HasRoom less := by
  cases destination with
  | standardError => trivial
  | external writer => exact h.elim
  | owned path file pending => exact Nat.lt_of_le_of_lt (Nat.add_le_add_left hle _) h

end Notify.Destination

namespace NotifyStream

open Notify

variable {σ φ ω : Type} {outlets : Outlets σ φ ω} {stream : NotifyStream φ ω} {count : Nat}

/-- Bytes are delivered to a destination that has room for them, and take only that much of it. -/
lemma deliver_of_hasRoom (hwilling : outlets.standardError.Willing fun _ => True) {data : Bytes}
    (hroom : stream.destination.HasRoom (data.length + count)) (s : σ) :
    (stream.deliver outlets data s).1 = .ok () ∧
      (stream.deliver outlets data s).2.1.destination.HasRoom count := by
  obtain ⟨verbose, destination⟩ := stream
  cases destination with
  | standardError => exact ⟨hwilling.writeAll_ok data trivial, trivial⟩
  | external writer => exact hroom.elim
  | owned path file pending =>
    change pending.length + (data.length + count) < bufferCapacity at hroom
    have hfits : ¬data.length > bufferCapacity - pending.length := by omega
    have hsmall : ¬data.length ≥ bufferCapacity := by omega
    simp only [deliver, BlockBuffer.writeAll, BlockBuffer.makeRoom, if_neg hfits, if_neg hsmall,
      Destination.HasRoom, List.length_append, true_and]
    omega

/-- A text is written where there is room for it. -/
lemma emit_of_hasRoom (hwilling : outlets.standardError.Willing fun _ => True) {text : String}
    (hroom : stream.destination.HasRoom ((utf8 text).length + count)) (s : σ) :
    (∃ written, (stream.emit outlets text s).1 = .ok written) ∧
      (stream.emit outlets text s).2.1.destination.HasRoom count := by
  rcases hverbose : stream.verbose with _ | _
  · simp only [emit, hverbose, Bool.false_eq_true, if_false]
    exact ⟨⟨0, rfl⟩, hroom.mono (Nat.le_add_left count _)⟩
  · obtain ⟨hok, hleft⟩ := deliver_of_hasRoom hwilling hroom s
    simp only [emit, hverbose, if_true, hok]
    exact ⟨⟨_, rfl⟩, hleft⟩

end NotifyStream

namespace Info.Handle

/-- A header has eight bytes. -/
lemma length_header {data : Bytes} {signature : Signature}
    (h : Signature.detect data = some signature) : signature.header.length = Signature.headerSize := by
  obtain ⟨hlong, hheader⟩ := Signature.header_eq_take h
  rw [hheader, List.length_take]
  omega

/-- The heading and the dump of a header are shorter than the buffer in front of a file for
diagnostics. -/
lemma dump_fits {data : Bytes} {signature : Signature}
    (h : Signature.detect data = some signature) :
    (utf8 dumpHeading).length + (utf8 (HexDump.text signature.header)).length <
      Notify.bufferCapacity := by
  have hheading : (utf8 dumpHeading).length = 18 := by decide
  have hheader : signature.header.length = 8 := length_header h
  have hrows : HexDump.rowCount signature.header = 1 := by
    rw [HexDump.rowCount, hheader]
    rfl
  have hlong : HexDump.longCount signature.header ≤ 1 := by
    have hle := HexDump.longCount_le signature.header
    rwa [hrows] at hle
  have hdump : (utf8 (HexDump.text signature.header)).length = _ :=
    HexDump.length_utf8_text (by rw [hheader]; decide)
  simp only [hdump, hheading, hrows, hheader, Notify.bufferCapacity]
  omega

variable {σ φ ω : Type} {outlets : Notify.Outlets σ φ ω} {stream : NotifyStream φ ω}

/-- **Printing a header dump succeeds** at a vacant destination. -/
theorem printHeader_ok (hwilling : outlets.standardError.Willing fun _ => True) {data : Bytes}
    {signature : Signature} (hdetect : Signature.detect data = some signature)
    (hvacant : stream.destination.Vacant) (s : σ) :
    (printHeader signature outlets stream s).1 = .ok () := by
  obtain ⟨⟨written, hheading⟩, hroom⟩ :=
    NotifyStream.emit_of_hasRoom hwilling (hvacant _ (dump_fits hdetect)) s
  rcases hemit : stream.emit outlets dumpHeading s with ⟨result, stream', s'⟩
  rw [hemit] at hheading hroom
  obtain rfl : result = .ok written := hheading
  replace hroom : stream'.destination.HasRoom
    ((utf8 (HexDump.text signature.header)).length + 0) := hroom
  obtain ⟨⟨dumped, hdump⟩, -⟩ := NotifyStream.emit_of_hasRoom hwilling hroom s'
  simp only [printHeader, hemit, NotifyStream.printData, hdump]
  rfl

end Info.Handle

end PrefetchInfo
