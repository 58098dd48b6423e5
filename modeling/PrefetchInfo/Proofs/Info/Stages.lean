import Mathlib
import PrefetchInfo.Proofs.Device.Capacity
import PrefetchInfo.Proofs.HexDump.Layout
import PrefetchInfo.Proofs.Info.Printed
import PrefetchInfo.Proofs.Notify.Sequence
import PrefetchInfo.Proofs.World.Account

/-!
# Printing an input file stage by stage

Printing is the description, the heading of the header dump, and the dump, one after the other. It stops
at the first of them that fails, with a failure to write; what comes before it is out, and what comes
after it is not touched.
-/

namespace PrefetchInfo.Info.Handle

open Notify

variable {σ φ ω τ : Type} {outlets : Outlets σ φ ω} {stream : NotifyStream φ ω} {s : σ}
  {signature : Signature} {codepage : Codepage} {header : Bytes}

/-! ### The dump -/

/-- The texts of a header dump. -/
def dumpTexts (header : Bytes) : List Bytes :=
  [utf8 dumpHeading, utf8 (HexDump.text header)]

/-- A header dump is its texts one after the other. -/
lemma flatten_dumpTexts (header : Bytes) : (dumpTexts header).flatten = dump header := by
  rw [dumpTexts, List.flatten_cons, List.flatten_singleton]
  rfl

/-- None of the texts of a header dump is empty. -/
lemma ne_nil_of_mem_dumpTexts (header : Bytes) : ∀ text ∈ dumpTexts header, text ≠ [] := by
  intro text htext
  rcases List.mem_pair.mp htext with rfl | rfl
  · decide
  · exact HexDump.utf8_text_ne_nil header

/-- A stream that is silent takes a header dump and writes nothing. -/
lemma printHeader_of_silent (h : stream.verbose = false) :
    printHeader signature outlets stream s = (.ok (), stream, s) := by
  have hemit : ∀ text, stream.emit outlets text s = (.ok 0, stream, s) := by
    intro text
    rw [NotifyStream.emit, h]
    rfl
  simp only [printHeader, NotifyStream.printData, hemit]
  rfl

/-- A stream that is verbose delivers the texts of a header dump one after the other. -/
lemma printHeader_of_verbose (h : stream.verbose = true) :
    printHeader signature outlets stream s =
      (context (stream.deliverEach outlets (dumpTexts signature.header) s).1 (.inOut .writeFailed)
        "unable to write to notify stream",
        (stream.deliverEach outlets (dumpTexts signature.header) s).2) := by
  unfold dumpTexts printHeader NotifyStream.printData
  rcases hheading : stream.deliver outlets (utf8 dumpHeading) s with ⟨failure | _, between, t⟩
  · rw [NotifyStream.emit_of_deliver_error h hheading, NotifyStream.deliverEach_of_error hheading]
    rfl
  · have hverbose : between.verbose = true :=
      (NotifyStream.deliver_staysPut hheading).verbose.trans h
    rw [NotifyStream.emit_of_deliver_ok h hheading, NotifyStream.deliverEach_of_ok hheading]
    rcases hdump : between.deliver outlets (utf8 (HexDump.text signature.header)) t with
      ⟨failure | _, after, u⟩
    · simp only [NotifyStream.emit_of_deliver_error hverbose hdump,
        NotifyStream.deliverEach_of_error hdump]
      rfl
    · simp only [NotifyStream.emit_of_deliver_ok hverbose hdump, NotifyStream.deliverEach_of_ok hdump]
      rfl

/-! ### The description and the dump -/

/-- What arrives on the device is what it takes of the description. -/
lemma print_device (out : Device τ) (outlets : Outlets σ φ ω) (input : InputFile)
    (stream : NotifyStream φ ω) (t : τ) (s : σ) :
    (print ⟨codepage, some input⟩ out outlets stream t s).2.1 =
      (out.writeAll (utf8 (description input.signature codepage)) t).2 := by
  rcases print_cases out outlets input stream t s with
    ⟨chain, failure, t', hw, hprint⟩ | ⟨t', hw, hprint⟩ <;> rw [hw, hprint]

section Printed

variable {out : Device τ} {fit : τ → Prop} {content : τ → Bytes} {t : τ} {input : InputFile}
  (hout : out.DeliversWhile fit content) (ht : fit t)

include hout ht

/-- If the description does not arrive in full, printing fails with a failure to write, and the stream is
not touched. -/
lemma print_of_cut
    (h : content (print ⟨codepage, some input⟩ out outlets stream t s).2.1 ≠
      content t ++ utf8 (description input.signature codepage)) :
    (∃ chain, (print ⟨codepage, some input⟩ out outlets stream t s).1 = .error chain ∧
      chain.kind = .inOut .writeFailed) ∧
    (print ⟨codepage, some input⟩ out outlets stream t s).2.2 = (stream, s) := by
  have hiff := hout.writeAll_ok_iff (utf8 (description input.signature codepage)) ht
  rcases hw : out.writeAll (utf8 (description input.signature codepage)) t with ⟨failure | _, t'⟩ <;>
    rw [hw] at hiff
  · have hprint : print ⟨codepage, some input⟩ out outlets stream t s =
        (context (.error failure) (.inOut .writeFailed) "unable to write file information", t',
          stream, s) := by
      simp only [print, hw]
    rw [hprint]
    exact ⟨⟨_, rfl, rfl⟩, rfl⟩
  · simp only [print, hw] at h
    exact absurd (hiff.mp rfl) h

/-- If the description arrives in full, the rest is the header dump. -/
lemma print_of_complete
    (h : content (print ⟨codepage, some input⟩ out outlets stream t s).2.1 =
      content t ++ utf8 (description input.signature codepage)) :
    (print ⟨codepage, some input⟩ out outlets stream t s).1 =
        (printHeader input.signature outlets stream s).1 ∧
      (print ⟨codepage, some input⟩ out outlets stream t s).2.2 =
        (printHeader input.signature outlets stream s).2 := by
  have hiff := hout.writeAll_ok_iff (utf8 (description input.signature codepage)) ht
  rcases hw : out.writeAll (utf8 (description input.signature codepage)) t with ⟨failure | _, t'⟩ <;>
    rw [hw] at hiff
  · simp only [print, hw] at h
    cases hiff.mpr h
  · simp only [print, hw, and_self]

end Printed

/-! ### All stages -/

variable [DecidableEq φ] [DecidableEq ω] {out : Device τ} {fit : τ → Prop} {content : τ → Bytes} {t : τ}

/-- **Printing stops at the first stage that fails.**  Without an open file nothing is written and the
error says so. With one, a first part of its description arrives on the device: as much as there is room
for, if the device fills up. If that is not all of it, the error is a failure to write and the stream is
not touched. If it is, a silent stream takes the rest and is not touched either, and printing succeeds; to
a verbose stream the heading and the dump are delivered one after the other, printing succeeds just if
they are, and the error is a failure to write if not. Then a first part of the heading and the dump is
added to what the destination holds, all of it just if printing succeeds. No other place is touched. -/
theorem stops_at_first_failure (account : outlets.Account) (hout : out.DeliversWhile fit content)
    (ht : fit t) (handle : Handle) (stream : NotifyStream φ ω) (s : σ) :
    let printed := handle.print out outlets stream t s
    (handle.input = none →
      printed = (.error nothingOpen, t, stream, s) ∧ nothingOpen.kind = .runtime .valueMissing) ∧
    ∀ input, handle.input = some input →
      let text := utf8 (description input.signature handle.codepage)
      let handed := stream.deliverEach outlets (dumpTexts input.signature.header) s
      (∃ taken, taken <+: text ∧ content printed.2.1 = content t ++ taken) ∧
      (∀ capacity refusal, out.FillsUp fit content capacity refusal →
        content printed.2.1 = content t ++ Device.fitting capacity (content t) text) ∧
      (content printed.2.1 ≠ content t ++ text →
        (∃ chain, printed.1 = .error chain ∧ chain.kind = .inOut .writeFailed) ∧
        printed.2.2 = (stream, s)) ∧
      (content printed.2.1 = content t ++ text → stream.verbose = false →
        printed.1 = .ok () ∧ printed.2.2 = (stream, s)) ∧
      (content printed.2.1 = content t ++ text → stream.verbose = true →
        printed.2.2 = handed.2 ∧ (printed.1 = .ok () ↔ handed.1 = .ok ()) ∧
        (∀ chain, printed.1 = .error chain → chain.kind = .inOut .writeFailed) ∧
        (NotifyStream.Sound account stream s → account.keeps stream.destination.place s →
          Arrives (dump input.signature.header)
            (NotifyStream.holds account stream.destination.place stream s)
            (NotifyStream.holds account stream.destination.place printed.2.2.1 printed.2.2.2)
            (printed.1 = .ok ()))) ∧
      ∀ place, place ≠ stream.destination.place →
        NotifyStream.holds account place printed.2.2.1 printed.2.2.2 =
          NotifyStream.holds account place stream s := by
  intro printed
  obtain ⟨codepage, input?⟩ := handle
  refine ⟨?_, ?_⟩
  · rintro rfl
    exact ⟨rfl, rfl⟩
  · rintro input rfl
    intro text handed
    refine ⟨?_, ?_, print_of_cut hout ht, ?_, ?_, ?_⟩
    · obtain ⟨taken, hpart, hcontent, -⟩ := content_print hout outlets input stream ht s
      exact ⟨taken, hpart, hcontent⟩
    · intro capacity refusal hfills
      have harrived := (hfills.writeAll text ht).1
      rwa [← print_device out outlets input stream t s] at harrived
    · intro hcomplete hsilent
      obtain ⟨hresult, hrest⟩ := print_of_complete hout ht hcomplete
      rw [printHeader_of_silent hsilent] at hresult hrest
      exact ⟨hresult, hrest⟩
    · intro hcomplete hverbose
      obtain ⟨hresult, hrest⟩ := print_of_complete hout ht hcomplete
      rw [printHeader_of_verbose hverbose] at hresult hrest
      change printed.1 = _ at hresult
      change printed.2.2 = handed.2 at hrest
      have hok : printed.1 = .ok () ↔ handed.1 = .ok () := by
        rw [hresult]
        exact context_eq_ok_iff
      refine ⟨hrest, hok, ?_, ?_⟩
      · intro chain herror
        rw [hresult] at herror
        rcases hhanded : (stream.deliverEach outlets (dumpTexts input.signature.header) s).1 with
          failure | _ <;> rw [hhanded] at herror
        · exact kind_of_context herror
        · cases herror
      · intro hsound hkeeps
        have harrives := NotifyStream.arrives_deliverEach account hsound hkeeps
          (ne_nil_of_mem_dumpTexts input.signature.header)
        rw [flatten_dumpTexts] at harrives
        rw [hrest, hok]
        exact harrives
    · intro place hplace
      exact NotifyStream.holds_eq_of_ne account (Ne.symm hplace)
        (print_staysPut out outlets input stream t s)

/-- The description of a file of version 17 goes to a sink that takes three bytes at a time, and the dump
of its header to a lent writer with room for four bytes. The description arrives in full, four bytes of the
heading do, and printing fails. -/
theorem stops_within_heading :
    let input : InputFile := ⟨utf8 "a", ⟨.uncompressed, 17, [17, 0, 0, 0, 83, 67, 67, 65]⟩⟩
    let sink : Sink := { chunk := some 3, interrupts := 1 }
    let world : World := ⟨⟨[], []⟩, [("w", ⟨{ limit := some 4 }, false⟩)], []⟩
    let printed := print ⟨default, some input⟩ Sink.device World.outlets ⟨true, .external "w"⟩ sink world
    printed.2.1.accepted = utf8 (description input.signature default) ∧
    (∃ chain, printed.1 = .error chain ∧ chain.kind = .inOut .writeFailed) ∧
    (printed.2.2.2.writer "w").sink.accepted = utf8 "File" := by
  intro input sink world printed
  have hsink : sink.Bounded none none :=
    ⟨by decide, rfl, rfl, fun _ hrefusal => nomatch hrefusal⟩
  have hfills := Sink.fillsUp none none
  obtain ⟨-, hprint⟩ := stops_at_first_failure World.account hfills.toDeliversWhile hsink
    ⟨default, some input⟩ ⟨true, .external "w"⟩ world
  obtain ⟨-, harrived, -, -, hverbose, -⟩ := hprint input rfl
  have hcomplete : printed.2.1.accepted =
      sink.accepted ++ utf8 (description input.signature default) := harrived none none hfills
  obtain ⟨hrest, hok, hkind, -⟩ := hverbose hcomplete rfl
  refine ⟨hcomplete.trans (List.nil_append _), ?_, ?_⟩
  · have hfailed : (NotifyStream.deliverEach World.outlets ⟨true, .external "w"⟩
        (dumpTexts input.signature.header) world).1 = .error Device.nothingTaken := by cbv
    rcases hresult : printed.1 with chain | _
    · exact ⟨chain, rfl, hkind chain hresult⟩
    · cases hfailed.symm.trans (hok.mp hresult)
  · rw [hrest]
    cbv

end PrefetchInfo.Info.Handle
