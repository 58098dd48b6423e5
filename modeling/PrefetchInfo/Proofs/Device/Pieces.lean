import PrefetchInfo.Banner
import PrefetchInfo.Proofs.Device.Capacity

/-!
# Text in pieces

A device that fills up does not tell pieces of text from the text that they make up: in whatever portions
it takes them, wherever it is interrupted and wherever it is full, the same bytes arrive and the same answer
is given as if the text had been written at once. Every sink fills up, also one that accepts nothing. So it
does not matter that a banner is written piece by piece.
-/

namespace PrefetchInfo

namespace Device

variable {σ : Type} {device : Device σ} {fit : σ → Prop} {content : σ → Bytes}
  {capacity : Option Nat} {refusal : Option Failure}

/-- **Pieces that are written are taken as their text.**  Of the text that the pieces make up exactly those
bytes arrive for which there is room; if these are all of them, it is done, and else the device has
refused. -/
theorem FillsUp.writePieces (h : device.FillsUp fit content capacity refusal) (pieces : List String)
    {s : σ} (hs : fit s) :
    content (device.writePieces pieces s).2 =
        content s ++ fitting capacity (content s) (utf8 (String.join pieces)) ∧
      (device.writePieces pieces s).1 =
        if fitting capacity (content s) (utf8 (String.join pieces)) = utf8 (String.join pieces)
        then .ok () else .error (refusal.getD nothingTaken) := by
  induction pieces generalizing s with
  | nil =>
    have hnil := List.prefix_nil.mp (prefix_fitting capacity (content s) [])
    rw [Device.writePieces, String.join_nil, utf8_empty, hnil, if_pos rfl, List.append_nil]
    exact ⟨rfl, rfl⟩
  | cons piece pieces ih =>
    rw [String.join_cons, utf8_append]
    obtain ⟨hcontent, hanswer⟩ := h.writeAll (utf8 piece) hs
    have hreach := Reaches.writeAll device (utf8 piece) s
    rcases hw : device.writeAll (utf8 piece) s with ⟨answer, s'⟩
    rw [hw] at hcontent hanswer hreach
    by_cases hfits : fitting capacity (content s) (utf8 piece) = utf8 piece
    · -- The piece has arrived, and the rest of the text meets what room is left behind it.
      rw [if_pos hfits] at hanswer
      subst hanswer
      obtain ⟨hrest, hanswers⟩ := ih (h.fit_of_reaches hreach hs)
      have hbehind : content s' = content s ++ utf8 piece := hfits ▸ hcontent
      have hpart : utf8 piece <+:
          fitting capacity (content s) (utf8 piece ++ utf8 (String.join pieces)) :=
        prefix_fitting_append hfits
      have hsplit := fitting_append hpart
      rw [Device.writePieces, hw, hsplit]
      rw [hbehind] at hrest hanswers
      refine ⟨hrest.trans (List.append_assoc _ _ _), ?_⟩
      simp only [List.append_right_inj]
      exact hanswers
    · -- The piece has been cut, and so has the whole text, in the same place.
      rw [if_neg hfits] at hanswer
      subst hanswer
      have hcut : fitting capacity (content s) (utf8 piece) ≠
          utf8 piece ++ utf8 (String.join pieces) := by
        intro hall
        have hlonger : utf8 piece <+: fitting capacity (content s) (utf8 piece) :=
          hall ▸ List.prefix_append _ _
        exact hfits ((prefix_fitting _ _ _).eq_of_length_le hlonger.length_le)
      rw [Device.writePieces, hw, fitting_append_of_cut hfits, if_neg hcut]
      exact ⟨hcontent, rfl⟩

/-- A device that fills up does not tell pieces from the text that they make up. -/
lemma FillsUp.writePieces_eq (h : device.FillsUp fit content capacity refusal) (pieces : List String)
    {s : σ} (hs : fit s) :
    (device.writePieces pieces s).1 = (device.writeAll (utf8 (String.join pieces)) s).1 ∧
      content (device.writePieces pieces s).2 =
        content (device.writeAll (utf8 (String.join pieces)) s).2 := by
  obtain ⟨hpieces, hanswers⟩ := h.writePieces pieces hs
  obtain ⟨hwhole, hanswer⟩ := h.writeAll (utf8 (String.join pieces)) hs
  exact ⟨hanswers.trans hanswer.symm, hpieces.trans hwhole.symm⟩

/-- Writing pieces succeeds just if all of their text arrives. -/
lemma FillsUp.writePieces_ok_iff (h : device.FillsUp fit content capacity refusal)
    (pieces : List String) {s : σ} (hs : fit s) :
    (device.writePieces pieces s).1 = .ok () ↔
      content (device.writePieces pieces s).2 = content s ++ utf8 (String.join pieces) := by
  obtain ⟨hcontent, hanswer⟩ := h.writePieces pieces hs
  rw [hcontent, hanswer, List.append_right_inj]
  split
  · rename_i hall
    exact iff_of_true rfl hall
  · rename_i hcut
    exact iff_of_false (fun hok => nomatch hok) hcut

end Device

/-! ### Sinks that accept nothing -/

namespace Sink

variable {refusal : Option Failure} {sink : Sink} {data : Bytes}

/-- A sink that accepts nothing in one write. It refuses with its failure if it is full besides, and by
taking nothing else. -/
structure Choked (refusal : Option Failure) (sink : Sink) : Prop where
  /-- It accepts nothing in one write. -/
  portions : sink.chunk = some 0
  /-- It refuses in this way. -/
  refuses : (if sink.room = some 0 then sink.refusal else none) = refusal

/-- A sink that accepts nothing takes a portion of nothing. -/
lemma Choked.portion_eq_zero (h : sink.Choked refusal) (count : Nat) : sink.portion count = 0 := by
  unfold portion
  rw [h.portions, Option.getD_some, Nat.min_zero, Nat.zero_min]

/-- A sink that accepts nothing has accepted the same after each operation. -/
lemma Choked.accepted_of_step (h : sink.Choked refusal) {sink' : Sink} (hstep : device.Step sink sink') :
    sink'.accepted = sink.accepted := by
  cases hstep with
  | write data =>
    rcases hw : device.write data sink with ⟨failure | count, sink'⟩
    · exact delivers.write_error hw
    · have hnone : count = 0 := (of_write_ok hw).1.trans (h.portion_eq_zero data.length)
      have hcontent := delivers.write_ok hw
      rwa [hnone, List.take_zero, List.append_nil] at hcontent
  | flush => exact delivers.flush sink

/-- A sink that accepts nothing goes on doing so. -/
lemma Choked.stays (h : sink.Choked refusal) {sink' : Sink} (hstep : device.Step sink sink') :
    sink'.Choked refusal := by
  obtain ⟨hchunk, hlimit, -⟩ := bounds_of_step hstep
  have hroom : sink'.room = sink.room := by rw [room, hlimit, h.accepted_of_step hstep, room]
  refine ⟨hchunk.trans h.portions, ?_⟩
  rw [hroom, refusal_of_step hstep, h.refuses]

/-- **A sink that accepts nothing is full from the start.** -/
theorem fillsUp_of_choked (refusal : Option Failure) :
    device.FillsUp (Choked refusal) accepted (some 0) refusal where
  toDeliversWhile := delivers.deliversWhile fun hstep hs => hs.stays hstep
  fits {data sink count sink'} hs hw := by
    obtain ⟨rfl, -⟩ := of_write_ok hw
    rw [hs.portion_eq_zero, List.take_zero]
    exact List.nil_prefix
  full_of_zero {data sink sink'} hs hdata hw := by
    obtain ⟨-, hwhy⟩ := of_write_ok hw
    refine ⟨by rw [Device.fitting, Nat.zero_sub, List.take_zero], ?_⟩
    rw [← hs.refuses]
    split
    · rename_i hfull
      exact hwhy hfull hdata
    · rfl
  full_of_error {data sink failure sink'} hs _ hw hr := by
    obtain ⟨hfull, hrefusal⟩ := of_write_error hw hr
    refine ⟨by rw [Device.fitting, Nat.zero_sub, List.take_zero], ?_⟩
    rw [← hs.refuses, if_pos hfull, hrefusal]

/-- Every sink fills up that does not refuse with an interruption. -/
lemma exists_fillsUp (sink : Sink)
    (hfinal : ∀ failure, sink.refusal = some failure → failure.isInterruption = false) :
    ∃ fit capacity refusal, device.FillsUp fit accepted capacity refusal ∧ fit sink := by
  by_cases hchunk : sink.chunk = some 0
  · exact ⟨_, _, _, fillsUp_of_choked _, hchunk, rfl⟩
  · exact ⟨_, _, _, fillsUp sink.limit sink.refusal, hchunk, rfl, rfl, hfinal⟩

end Sink

/-! ### Banners -/

namespace Banner

/-- **A banner written piece by piece is the banner written at once.**  Whatever the program is called and
whichever banner it is, and whatever portions the sink accepts, however often it is interrupted, and
wherever it is full and how it refuses then, as long as it does not refuse with an interruption: the answer
and the bytes that the sink has accepted are the same as if the whole text had been written at once, and the
answer is a success just if the sink has accepted all of the text. If it accepts something in one write, it
has accepted as much of the text as it had room for. -/
theorem written_as_one (program : String) (kind : Kind) (sink : Sink)
    (hfinal : ∀ failure, sink.refusal = some failure → failure.isInterruption = false) :
    let whole := utf8 (text program kind)
    let written := write Sink.device program kind sink
    let atOnce := Sink.device.writeAll whole sink
    written.1 = atOnce.1 ∧ written.2.accepted = atOnce.2.accepted ∧
    (written.1 = .ok () ↔ written.2.accepted = sink.accepted ++ whole) ∧
    (sink.chunk ≠ some 0 →
      written.2.accepted = sink.accepted ++ whole.take (sink.room.getD whole.length)) := by
  intro whole written atOnce
  obtain ⟨fit, capacity, refusal, hfills, hfit⟩ := sink.exists_fillsUp hfinal
  obtain ⟨hanswer, haccepted⟩ := hfills.writePieces_eq (pieces program kind) hfit
  refine ⟨hanswer, haccepted, hfills.writePieces_ok_iff (pieces program kind) hfit, ?_⟩
  intro hchunk
  have hbounded : sink.Bounded sink.limit sink.refusal := ⟨hchunk, rfl, rfl, hfinal⟩
  obtain ⟨hroom, -⟩ :=
    (Sink.fillsUp sink.limit sink.refusal).writePieces (pieces program kind) hbounded
  rw [sink.take_room whole]
  exact hroom

/-- A sink with room for nine bytes, which accepts two at a time, is interrupted at first and refuses with
a failure when it is full, is full where the detailed banner comes to speak of the library. -/
theorem written_as_one_of_nine_bytes :
    let sink : Sink := {
      chunk := some 2, limit := some 9, refusal := some (.errno 28), interrupts := 3 }
    let written := write Sink.device "one" .detailed sink
    written.2.accepted = utf8 "one 0.1.0" ∧ written.1 ≠ .ok () ∧
    written.1 = (Sink.device.writeAll (utf8 (text "one" .detailed)) sink).1 := by
  intro sink written
  have hfinal : ∀ failure, sink.refusal = some failure → failure.isInterruption = false := by
    intro failure hrefusal
    rw [← Option.some.inj hrefusal]
    decide
  obtain ⟨hanswer, -, hok, hroom⟩ := written_as_one "one" .detailed sink hfinal
  have haccepted : written.2.accepted = utf8 "one 0.1.0" := by
    rw [hroom (by decide)]
    decide
  refine ⟨haccepted, ?_, hanswer⟩
  rw [ne_eq, hok, haccepted]
  decide

end Banner

end PrefetchInfo
