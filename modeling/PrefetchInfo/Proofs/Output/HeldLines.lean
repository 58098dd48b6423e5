import PrefetchInfo.Proofs.Device.FinishedLines
import PrefetchInfo.Proofs.Output.Progress

/-!
# When line-buffered output holds back finished lines

Line-buffered output is meant to pass on a line as soon as it is finished. It does so unless its sink
cuts the last bytes it was given: takes only some of them although they end with a line feed. What is
left is then reported as written, but waits until more is written or the output is flushed.

`holds_back_iff_cut` says that this is the only exception, and that it lasts no longer than until the
next bytes are written.
-/

namespace PrefetchInfo.Output

open LineBuffer

variable {σ : Type} {device : Device σ} {fit : σ → Prop} {content : σ → Bytes}

/-! ### Pieces that end cut -/

/-- The sink cuts some offer of the last piece that is not empty. -/
def EndsCut (device : Device σ) (pieces : List Bytes) (s : σ) : Prop :=
  ∃ before data blanks rest t, pieces = before ++ data :: blanks ∧ blanks.flatten = [] ∧
    (Output.device .lineBuffered device).Offers data
      (run .lineBuffered device (before.map .writeAll) s).2 rest t ∧
    Cuts lineCapacity device rest t

/-- Another piece is given to the output that the pieces before it have left. -/
lemma run_concat (mode : BufferingMode) (device : Device σ) (pieces : List Bytes) (data : Bytes)
    (s : σ) :
    (run mode device ((pieces ++ [data]).map .writeAll) s).2 =
      ((Output.device mode device).writeAll data
        (run mode device (pieces.map .writeAll) s).2).2 := by
  simp only [run, List.map_append, List.map_cons, List.map_nil, Device.run_append, Device.run,
    Device.perform]

/-- An empty piece changes nothing in how pieces end. -/
lemma endsCut_concat_nil (pieces : List Bytes) (s : σ) :
    EndsCut device (pieces ++ [[]]) s ↔ EndsCut device pieces s := by
  constructor
  · rintro ⟨before, data, blanks, rest, t, heq, hblank, hoffer, hcut⟩
    rcases List.eq_nil_or_concat blanks with rfl | ⟨others, last, rfl⟩
    · obtain ⟨-, hdata⟩ := List.append_inj' heq rfl
      obtain rfl : [] = data := by simpa using hdata
      cases hoffer <;> contradiction
    · rw [List.concat_eq_append, ← List.cons_append, ← List.append_assoc] at heq
      obtain ⟨rfl, -⟩ := List.append_inj' heq rfl
      rw [List.concat_eq_append, List.flatten_append, List.append_eq_nil_iff] at hblank
      exact ⟨before, data, others, rest, t, rfl, hblank.1, hoffer, hcut⟩
  · rintro ⟨before, data, blanks, rest, t, rfl, hblank, hoffer, hcut⟩
    refine ⟨before, data, blanks ++ [[]], rest, t, ?_, ?_, hoffer, hcut⟩
    · rw [List.append_assoc, List.cons_append]
    · rw [List.flatten_append, hblank, List.flatten_singleton, List.append_nil]

/-- Pieces the last of which is not empty end cut just if an offer of that piece is cut. -/
lemma endsCut_concat {data : Bytes} (hdata : data ≠ []) (pieces : List Bytes) (s : σ) :
    EndsCut device (pieces ++ [data]) s ↔ ∃ rest t, (Output.device .lineBuffered device).Offers data
      (run .lineBuffered device (pieces.map .writeAll) s).2 rest t ∧
      Cuts lineCapacity device rest t := by
  constructor
  · rintro ⟨before, data', blanks, rest, t, heq, hblank, hoffer, hcut⟩
    rcases List.eq_nil_or_concat blanks with rfl | ⟨others, last, rfl⟩
    · obtain ⟨rfl, hlast⟩ := List.append_inj' heq rfl
      obtain rfl : data = data' := by simpa using hlast
      exact ⟨rest, t, hoffer, hcut⟩
    · rw [List.concat_eq_append, ← List.cons_append, ← List.append_assoc] at heq
      obtain ⟨-, hlast⟩ := List.append_inj' heq rfl
      obtain rfl : data = last := by simpa using hlast
      rw [List.concat_eq_append, List.flatten_append, List.append_eq_nil_iff,
        List.flatten_singleton] at hblank
      exact absurd hblank.2 hdata
  · rintro ⟨rest, t, hoffer, hcut⟩
    exact ⟨pieces, data, [], rest, t, rfl, rfl, hoffer, hcut⟩

/-! ### What pieces leave behind -/

/-- Writing any pieces leaves what is held back settled, without a finished line just if the pieces do
not end cut. -/
lemma settled_run (h : device.Willing fit) (hwanes : device.Wanes fit) (pieces : List Bytes) {s : σ}
    (hs : fit s) :
    Settled (run .lineBuffered device (pieces.map .writeAll) s).2 ∧
    (newline ∉ (run .lineBuffered device (pieces.map .writeAll) s).2.pending ↔
      ¬EndsCut device pieces s) := by
  have hdevice : (Output.device .lineBuffered device).Willing (fun b => fit b.inner) :=
    willing_device h hwanes fun hmode => by cases hmode
  induction pieces using List.reverseRecOn with
  | nil =>
    refine ⟨.inl List.not_mem_nil, iff_of_true List.not_mem_nil ?_⟩
    rintro ⟨before, data, blanks, _, _, heq, _⟩
    simp at heq
  | append_singleton pieces data ih =>
    have hfit := hdevice.fit_of_reaches (Device.reaches_run _ (pieces.map .writeAll) (ofSink s)) hs
    obtain ⟨hsettled, hiff⟩ := ih
    rw [run_concat]
    by_cases hdata : data = []
    · rw [hdata, Device.writeAll_nil, endsCut_concat_nil]
      exact ⟨hsettled, hiff⟩
    · obtain ⟨hnext, hheld⟩ :=
        holds_no_line_iff h hwanes lineCapacity data hfit hsettled
      refine ⟨hnext, (hheld hdata).trans ?_⟩
      rw [endsCut_concat hdata]
      simp only [not_exists, not_and]
      rfl

/-- What pieces wrote has arrived or is held back, and nothing that was in the sink before is gone. -/
lemma given_run (h : device.DeliversWhile fit content) (hwilling : device.Willing fit)
    (hwanes : device.Wanes fit) (pieces : List Bytes) {s : σ} (hs : fit s) :
    content s <+: content (run .lineBuffered device (pieces.map .writeAll) s).2.inner ∧
    (run .lineBuffered device (pieces.map .writeAll) s).2.given content =
      content s ++ pieces.flatten := by
  have hdelivers := LineBuffer.deliversWhile_device h lineCapacity
  have hdevice := LineBuffer.willing_device hwilling hwanes lineCapacity
  constructor
  · have hreach := reaches_inner
      (Device.reaches_run (LineBuffer.device lineCapacity device) (pieces.map .writeAll) (ofSink s))
    exact h.prefix_of_reaches hreach hs
  · have hview := hdelivers.content_run_writeAll hdevice pieces (s := ofSink s) hs
    rwa [given_ofSink] at hview

/-- **Line-buffered output holds back finished lines just if the last bytes were cut.**  A willing sink
takes all that it is given. What was written up to the last line feed has then arrived, just if the
sink did not cut an offer of the last piece that is not empty; and it has arrived in any case when
another piece that is not empty has been written. -/
theorem holds_back_iff_cut (h : device.DeliversWhile fit content) (hwilling : device.Willing fit)
    (hwanes : device.Wanes fit) {s : σ} (hs : fit s) (pieces : List Bytes) :
    (run .lineBuffered device (pieces.map .writeAll) s).1 =
      pieces.map (fun piece => .ok piece.length) ∧
    (content s ++ finishedLines pieces.flatten <+:
        content (run .lineBuffered device (pieces.map .writeAll) s).2.inner ↔
      ¬EndsCut device pieces s) ∧
    (∀ data, data ≠ [] → content s ++ finishedLines pieces.flatten <+:
      content (run .lineBuffered device ((pieces ++ [data]).map .writeAll) s).2.inner) := by
  obtain ⟨hstart, hgiven⟩ := given_run h hwilling hwanes pieces hs
  obtain ⟨hsettled, hheld⟩ := settled_run hwilling hwanes pieces hs
  have hdevice := LineBuffer.willing_device hwilling hwanes lineCapacity
  refine ⟨hdevice.run_writeAll_ok pieces hs, ?_, fun data hdata => ?_⟩
  · rw [finishedLines_prefix_iff hstart hgiven, hheld]
  · rw [run_concat]
    have hfit := hdevice.fit_of_reaches (Device.reaches_run _ (pieces.map .writeAll) (ofSink s)) hs
    exact finishedLines_prefix_writeAll h hwilling lineCapacity hdata hfit hsettled hstart hgiven

/-- A sink that takes one byte at a time cuts a line of two letters, and has it all when the next line is
begun. -/
theorem endsCut_one_at_a_time :
    EndsCut Sink.device [utf8 "ab\n"] { chunk := some 1, interrupts := 1 } ∧
    ¬EndsCut Sink.device [utf8 "ab\n", utf8 "c"] { chunk := some 1, interrupts := 1 } := by
  have hs : Sink.Generous { chunk := some 1, interrupts := 1 } := ⟨rfl, by simp⟩
  have hdelivers := Sink.delivers.deliversWhile Sink.willing.stays
  have hcut := holds_back_iff_cut hdelivers Sink.willing (Sink.wanes _) hs [utf8 "ab\n"]
  have hnext := holds_back_iff_cut hdelivers Sink.willing (Sink.wanes _) hs [utf8 "ab\n", utf8 "c"]
  constructor
  · by_contra hnot
    have harrived := hcut.2.1.mpr hnot
    have haccepted : (run .lineBuffered Sink.device [.writeAll (utf8 "ab\n")]
        { chunk := some 1, interrupts := 1 }).2.inner.accepted = utf8 "a" := by cbv
    rw [List.map_cons, List.map_nil, haccepted] at harrived
    exact absurd harrived (by decide)
  · have haccepted : (run .lineBuffered Sink.device [.writeAll (utf8 "ab\n"), .writeAll (utf8 "c")]
        { chunk := some 1, interrupts := 1 }).2.inner.accepted = utf8 "ab\n" := by cbv
    rw [← hnext.2.1, List.map_cons, List.map_cons, List.map_nil, haccepted]
    decide

/-- Not all finished lines reach a sink that accepts something of every write: of one that takes one
byte at a time, the end of a line waits although it was reported as written. -/
theorem line_held_back_if_cut :
    ¬∀ (sink : Sink) (pieces : List Bytes), sink.Generous →
      (run .lineBuffered Sink.device (pieces.map .writeAll) sink).1 =
        pieces.map (fun piece => .ok piece.length) →
      sink.accepted ++ finishedLines pieces.flatten <+:
        (run .lineBuffered Sink.device (pieces.map .writeAll) sink).2.inner.accepted := by
  intro hclaim
  have harrived := hclaim { chunk := some 1 } [utf8 "ab\n"] ⟨rfl, by simp⟩ (by cbv)
  have haccepted : (run .lineBuffered Sink.device [.writeAll (utf8 "ab\n")]
      { chunk := some 1 }).2.inner.accepted = utf8 "a" := by cbv
  rw [List.map_cons, List.map_nil, haccepted] at harrived
  exact absurd harrived (by decide)

end PrefetchInfo.Output
