import PrefetchInfo.Info.Handle
import PrefetchInfo.Proofs.Notify.Balance
import PrefetchInfo.Proofs.Signature.Reading

/-!
# What printing an input file comes to

The description of the file that is open goes to a device, and the dump of its header to the destination
of diagnostics, if they are wanted. What arrives is determined by the signature that was read when the
file was opened, and by nothing else.
-/

namespace PrefetchInfo

open Notify

variable {σ φ ω : Type} {outlets : Outlets σ φ ω} {stream : NotifyStream φ ω} {s : σ}

/-- Where writing succeeds, a text is written. -/
lemma NotifyStream.emit_ok (account : outlets.Account)
    (htakes : account.takes stream.destination.place s) (text : String) :
    ∃ count, (stream.emit outlets text s).1 = .ok count := by
  rcases hverbose : stream.verbose with _ | _
  · exact ⟨0, by simp only [emit, hverbose, Bool.false_eq_true, if_false]⟩
  · have hdelivered := deliver_ok account htakes (utf8 text)
    refine ⟨(utf8 text).length, ?_⟩
    simp only [emit, hverbose, if_true, hdelivered]
    rfl

namespace Info.Handle

/-- The heading and the dump of a header. -/
def dump (header : Bytes) : Bytes :=
  utf8 dumpHeading ++ utf8 (HexDump.text header)

variable {signature : Signature} {codepage : Codepage}

/-! ### The dump -/

/-- A header dump is a text and then another. -/
lemma printHeader_cases (signature : Signature) (outlets : Outlets σ φ ω)
    (stream : NotifyStream φ ω) (s : σ) :
    (∃ chain between t, stream.emit outlets dumpHeading s = (.error chain, between, t) ∧
      printHeader signature outlets stream s = (.error chain, between, t)) ∨
    (∃ count between t, stream.emit outlets dumpHeading s = (.ok count, between, t) ∧
      printHeader signature outlets stream s =
        ((between.emit outlets (HexDump.text signature.header) t).1.map fun _ => (),
          (between.emit outlets (HexDump.text signature.header) t).2)) := by
  rcases hheading : stream.emit outlets dumpHeading s with ⟨chain | count, between, t⟩
  · exact .inl ⟨chain, between, t, rfl, by simp only [printHeader, hheading]⟩
  · exact .inr ⟨count, between, t, rfl, by simp only [printHeader, hheading]; rfl⟩

/-- A header dump changes nothing in a stream but what is pending, and nothing in the world but the place
that the destination stands for. -/
lemma printHeader_staysPut (signature : Signature) (outlets : Outlets σ φ ω)
    (stream : NotifyStream φ ω) (s : σ) :
    NotifyStream.StaysPut outlets stream s (printHeader signature outlets stream s).2.1
      (printHeader signature outlets stream s).2.2 := by
  rcases printHeader_cases signature outlets stream s with
    ⟨chain, between, t, hheading, hprint⟩ | ⟨count, between, t, hheading, hprint⟩ <;> rw [hprint]
  · exact NotifyStream.emit_staysPut hheading
  · have hdump := NotifyStream.emit_staysPut
      (Prod.eta (between.emit outlets (HexDump.text signature.header) t)).symm
    exact (NotifyStream.emit_staysPut hheading).trans hdump

/-- Where writing succeeds, so does printing a header dump. -/
lemma printHeader_ok_of_takes (account : outlets.Account)
    (htakes : account.takes stream.destination.place s) (signature : Signature) :
    (printHeader signature outlets stream s).1 = .ok () := by
  obtain ⟨written, hwritten⟩ := NotifyStream.emit_ok account htakes dumpHeading
  rcases printHeader_cases signature outlets stream s with
    ⟨chain, between, t, hheading, hprint⟩ | ⟨count, between, t, hheading, hprint⟩
  · rw [hheading] at hwritten
    cases hwritten
  · have hput := NotifyStream.emit_staysPut hheading
    have hlater : account.takes between.destination.place t :=
      hput.place ▸ account.takes_of_reaches (.of_device _ hput.reaches) htakes
    obtain ⟨count', hdumped⟩ := NotifyStream.emit_ok account hlater (HexDump.text signature.header)
    rw [hprint, hdumped]
    rfl

/-- A header dump that is printed with success is added to what the destination holds, if the stream is
verbose, and to nothing else. -/
lemma holds_printHeader [DecidableEq φ] [DecidableEq ω] {place : Place φ ω}
    (account : outlets.Account) (hsound : NotifyStream.Sound account stream s)
    (hkeeps : account.keeps place s) (hok : (printHeader signature outlets stream s).1 = .ok ()) :
    NotifyStream.holds account place (printHeader signature outlets stream s).2.1
        (printHeader signature outlets stream s).2.2 =
      NotifyStream.holds account place stream s ++
        if stream.verbose = true ∧ stream.destination.place = place then dump signature.header
        else [] := by
  rcases printHeader_cases signature outlets stream s with
    ⟨chain, between, t, hheading, hprint⟩ | ⟨count, between, t, hheading, hprint⟩
  · rw [hprint] at hok
    cases hok
  · rcases hdump : between.emit outlets (HexDump.text signature.header) t with ⟨result, after, u⟩
    rw [hdump] at hprint
    rw [hprint] at hok ⊢
    obtain ⟨count', rfl⟩ : ∃ count', result = .ok count' := by
      rcases result with chain | count'
      · cases hok
      · exact ⟨count', rfl⟩
    have hput := NotifyStream.emit_staysPut hheading
    have hreaches := Outlets.Reaches.of_device _ hput.reaches
    have hsecond := NotifyStream.holds_emit account (hsound.of_place_eq hput.place hreaches)
      (account.keeps_of_reaches hreaches hkeeps) (HexDump.text signature.header)
      (fun hverbose => NotifyStream.deliver_of_emit_ok hverbose hdump)
    have hfirst := NotifyStream.holds_emit account hsound hkeeps dumpHeading
      (fun hverbose => NotifyStream.deliver_of_emit_ok hverbose hheading)
    rw [hdump] at hsecond
    rw [hheading] at hfirst
    simp only at hfirst hsecond ⊢
    rw [hsecond, hfirst, hput.verbose, hput.place, List.append_assoc]
    split <;> rfl

/-! ### The description and the dump -/

variable {τ : Type} {out : Device τ} {fit : τ → Prop} {content : τ → Bytes} {t : τ}

/-- What printing an open file comes to: the device fails, and no header is dumped, or it takes the whole
description, and then the header is dumped. -/
lemma print_cases (out : Device τ) (outlets : Outlets σ φ ω) (input : InputFile)
    (stream : NotifyStream φ ω) (t : τ) (s : σ) :
    (∃ chain failure t', out.writeAll (utf8 (description input.signature codepage)) t =
        (.error failure, t') ∧
      print ⟨codepage, some input⟩ out outlets stream t s = (.error chain, t', stream, s)) ∨
    (∃ t', out.writeAll (utf8 (description input.signature codepage)) t = (.ok (), t') ∧
      print ⟨codepage, some input⟩ out outlets stream t s =
        ((printHeader input.signature outlets stream s).1, t',
          (printHeader input.signature outlets stream s).2)) := by
  rcases hw : out.writeAll (utf8 (description input.signature codepage)) t with ⟨failure | _, t'⟩
  · exact .inl ⟨_, failure, t', rfl, by simp only [print, hw]; rfl⟩
  · exact .inr ⟨t', rfl, by simp only [print, hw]⟩

/-- Printing changes nothing in a stream but what is pending, and nothing in the world but the place that
the destination stands for. -/
lemma print_staysPut (out : Device τ) (outlets : Outlets σ φ ω) (input : InputFile)
    (stream : NotifyStream φ ω) (t : τ) (s : σ) :
    NotifyStream.StaysPut outlets stream s
      (print ⟨codepage, some input⟩ out outlets stream t s).2.2.1
      (print ⟨codepage, some input⟩ out outlets stream t s).2.2.2 := by
  rcases print_cases out outlets input stream t s with
    ⟨chain, failure, t', hw, hprint⟩ | ⟨t', hw, hprint⟩ <;> rw [hprint]
  · exact .refl outlets stream s
  · exact printHeader_staysPut input.signature outlets stream s

/-- A first part of the description arrives, all of it if printing succeeds. -/
lemma content_print (h : out.DeliversWhile fit content) (outlets : Outlets σ φ ω) (input : InputFile)
    (stream : NotifyStream φ ω) (ht : fit t) (s : σ) :
    ∃ taken, taken <+: utf8 (description input.signature codepage) ∧
      content (print ⟨codepage, some input⟩ out outlets stream t s).2.1 = content t ++ taken ∧
      ((print ⟨codepage, some input⟩ out outlets stream t s).1 = .ok () →
        taken = utf8 (description input.signature codepage)) := by
  obtain ⟨taken, hprefix, hcontent, hall⟩ :=
    h.content_writeAll (utf8 (description input.signature codepage)) ht
  rcases print_cases out outlets input stream t s with
    ⟨chain, failure, t', hw, hprint⟩ | ⟨t', hw, hprint⟩ <;> rw [hw] at hcontent hall <;> rw [hprint]
  · exact ⟨taken, hprefix, hcontent, fun hok => nomatch hok⟩
  · exact ⟨taken, hprefix, hcontent, fun _ => hall rfl⟩

/-- Printing that succeeds adds the header dump to what the destination holds, if the stream is verbose,
and to nothing else. -/
lemma holds_print [DecidableEq φ] [DecidableEq ω] {place : Place φ ω} {input : InputFile}
    (account : outlets.Account) (hsound : NotifyStream.Sound account stream s)
    (hkeeps : account.keeps place s)
    (hok : (print ⟨codepage, some input⟩ out outlets stream t s).1 = .ok ()) :
    NotifyStream.holds account place (print ⟨codepage, some input⟩ out outlets stream t s).2.2.1
        (print ⟨codepage, some input⟩ out outlets stream t s).2.2.2 =
      NotifyStream.holds account place stream s ++
        if stream.verbose = true ∧ stream.destination.place = place then dump input.signature.header
        else [] := by
  rcases print_cases out outlets input stream t s with
    ⟨chain, failure, t', hw, hprint⟩ | ⟨t', hw, hprint⟩ <;> rw [hprint] at hok ⊢
  · cases hok
  · exact holds_printHeader account hsound hkeeps hok

/-- Where the device takes all it is given and writing to the destination succeeds, so does printing. -/
lemma print_ok_of_takes (account : outlets.Account) (hwilling : out.Willing fit) (ht : fit t)
    (htakes : account.takes stream.destination.place s) (input : InputFile) :
    (print ⟨codepage, some input⟩ out outlets stream t s).1 = .ok () := by
  have hwritten := hwilling.writeAll_ok (utf8 (description input.signature codepage)) ht
  rcases print_cases out outlets input stream t s with
    ⟨chain, failure, t', hw, hprint⟩ | ⟨t', hw, hprint⟩
  · rw [hw] at hwritten
    cases hwritten
  · rw [hprint]
    exact printHeader_ok_of_takes account htakes input.signature

end Info.Handle

end PrefetchInfo
