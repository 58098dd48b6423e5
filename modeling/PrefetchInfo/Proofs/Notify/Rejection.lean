import Mathlib
import PrefetchInfo.Proofs.Device.Rejection
import PrefetchInfo.Proofs.Notify.Calls
import PrefetchInfo.Proofs.Text.Lines
import PrefetchInfo.Proofs.World.Account

/-!
# Diagnostics for a file that rejects everything

A stream whose file rejects everything still takes diagnostics as long as they fit into the buffer in
front of the file. Each of them is taken as a whole, or refused as a whole with nothing else changed. That
the file rejects everything comes out when the destination is to be replaced while something is pending;
closing the file never tells.
-/

namespace PrefetchInfo

open Notify BlockBuffer

variable {σ φ ω : Type} {outlets : Outlets σ φ ω} {file : φ} {fit : σ → Prop} {path pending : Bytes}
  {s : σ}

namespace Notify

/-! ### Emissions -/

/-- Something that is written to a stream. -/
inductive Emission where
  /-- A text. -/
  | text (said : String)
  /-- A hex dump. -/
  | dump (data : Bytes)
  /-- The records of a chain. -/
  | backtrace (chain : ErrorChain)

/-- The text of an emission. -/
def Emission.said : Emission → String
  | .text said => said
  | .dump data => HexDump.text data
  | .backtrace chain => chain.backtraceLines

/-- The bytes of an emission. -/
def Emission.bytes (emission : Emission) : Bytes :=
  utf8 emission.said

/-- What is pending for a file that rejects everything after emissions, of which those are refused that
overflow the buffer. -/
def kept (pending : Bytes) (emissions : List Emission) : Bytes :=
  emissions.foldl (fun pending emission =>
    if Overflows bufferCapacity pending emission.bytes.length then pending
    else pending ++ emission.bytes) pending

/-- In the states `fit`, which nothing that a stream does leads out of, a file rejects everything, and
flushing it succeeds. -/
structure Outlets.Rejects (outlets : Outlets σ φ ω) (file : φ) (fit : σ → Prop) : Prop where
  /-- Nothing that a stream does leads out of the states `fit`. -/
  stays : ∀ {s s'}, outlets.Move s s' → fit s → fit s'
  /-- A write that does not fail takes nothing. -/
  zero_of_ok : ∀ {data s n s'}, fit s → data ≠ [] → (outlets.file file).write data s = (.ok n, s') →
    n = 0
  /-- Flushing the file succeeds. -/
  flush_ok : ∀ {s}, fit s → ((outlets.file file).flush s).1 = .ok ()

/-- As a device the file rejects everything. -/
lemma Outlets.Rejects.rejectsAll (h : outlets.Rejects file fit) :
    (outlets.file file).RejectsAll fit where
  stays hstep hs := h.stays (.operate (.file file) hstep) hs
  zero_of_ok := h.zero_of_ok

/-- Fit states lead to fit states. -/
lemma Outlets.Rejects.fit_of_reaches (h : outlets.Rejects file fit) {s s' : σ}
    (hr : outlets.Reaches s s') (hs : fit s) : fit s' :=
  hr.keeps h.stays hs

end Notify

namespace NotifyStream

/-- Writes an emission to a stream, and reports how many bytes it wrote. -/
def write (outlets : Outlets σ φ ω) (stream : NotifyStream φ ω) (emission : Emission) (s : σ) :
    Except ErrorChain Nat × NotifyStream φ ω × σ :=
  match emission with
  | .text text => stream.emit outlets text s
  | .dump data => stream.printData outlets data s
  | .backtrace chain => stream.printBacktrace outlets chain s

/-- Writes emissions to a stream one after the other, whatever becomes of them. -/
def writeMany (outlets : Outlets σ φ ω) (stream : NotifyStream φ ω) (emissions : List Emission)
    (s : σ) : NotifyStream φ ω × σ :=
  match emissions with
  | [] => (stream, s)
  | emission :: emissions =>
    let (_, stream, s) := stream.write outlets emission s
    stream.writeMany outlets emissions s

/-- The verbose stream to a file that it owns, with some bytes pending. -/
def toFile (path : Bytes) (file : φ) (pending : Bytes) : NotifyStream φ ω :=
  ⟨true, .owned path file pending⟩

/-! ### Single calls -/

/-- All emissions are texts that are written. -/
lemma write_eq_emit (outlets : Outlets σ φ ω) (stream : NotifyStream φ ω) (emission : Emission)
    (s : σ) : stream.write outlets emission s = stream.emit outlets emission.said s := by
  cases emission <;> rfl

/-- What a stream to a file does with an emission is what the buffer in front of the file does with its
bytes. -/
lemma write_toFile {emission : Emission} {result : Except Failure Unit} {b : Buffered σ}
    (h : writeAll bufferCapacity (outlets.file file) emission.bytes ⟨pending, s⟩ = (result, b)) :
    (toFile path file pending).write outlets emission s =
      (context (result.map fun () => emission.bytes.length) (.inOut .writeFailed)
        "unable to write to notify stream", toFile path file b.pending, b.inner) := by
  rw [write_eq_emit]
  unfold Emission.bytes at h
  simp only [emit, deliver, toFile, h, if_true]
  rfl

/-- An emission that does not overflow the buffer is taken, whatever the file. -/
lemma write_of_not_overflows {emission : Emission}
    (h : ¬Overflows bufferCapacity pending emission.bytes.length) :
    (toFile path file pending).write outlets emission s =
      (.ok emission.bytes.length, toFile path file (pending ++ emission.bytes), s) :=
  write_toFile (writeAll_of_not_overflows (b := ⟨pending, s⟩) (outlets.file file) h)

section Rejected

variable (path pending) (hrejects : outlets.Rejects file fit) (hs : fit s)

include hrejects hs

/-- An emission that overflows the buffer is refused, and the stream stays as it is. -/
lemma write_of_overflows {emission : Emission}
    (h : Overflows bufferCapacity pending emission.bytes.length) :
    ∃ chain t, chain.kind = .inOut .writeFailed ∧
      (toFile path file pending).write outlets emission s =
        (.error chain, toFile path file pending, t) := by
  obtain ⟨failure, t, hw⟩ :=
    writeAll_of_overflows (b := ⟨pending, s⟩) hrejects.rejectsAll (by decide) hs h
  exact ⟨_, t, rfl, write_toFile hw⟩

/-- If anything is pending, the destination cannot be replaced, and the stream stays as it is. -/
lemma replace_of_pending (hne : pending ≠ []) (destination : Destination φ ω) (event : Event) :
    ∃ chain t, chain.kind = .inOut .closeFailed ∧
      (toFile path file pending).replace outlets destination event s =
        (.error chain, toFile path file pending, t) := by
  obtain ⟨failure, t, hf⟩ := flush_of_rejected (b := ⟨pending, s⟩) hrejects.rejectsAll hne hs
  exact ⟨_, t, rfl, by simp only [replace, flushOwned, toFile, hf]; rfl⟩

/-- If nothing is pending, the destination can be replaced. -/
lemma replace_of_nil (destination : Destination φ ω) (event : Event) :
    ∃ t, (toFile path file []).replace outlets destination event s =
      (.ok (), ⟨true, destination⟩, t) := by
  have hf := flush_of_nil (b := ⟨[], s⟩) (outlets.file file) rfl
  rw [hrejects.flush_ok hs] at hf
  exact ⟨_, by simp only [replace, flushOwned, toFile, hf]; rfl⟩

/-- An emission is refused just if it overflows the buffer, and then the stream stays as it is; else it is
taken as a whole. -/
lemma write_outcome (emission : Emission) :
    let outcome := (toFile path file pending).write outlets emission s
    if Overflows bufferCapacity pending emission.bytes.length
    then (∃ chain, outcome.1 = .error chain ∧ chain.kind = .inOut .writeFailed) ∧
      outcome.2.1 = toFile path file pending
    else outcome.1 = .ok emission.bytes.length ∧
      outcome.2.1 = toFile path file (pending ++ emission.bytes) := by
  intro outcome
  split_ifs with hover
  · obtain ⟨chain, t, hkind, hw⟩ := write_of_overflows path pending hrejects hs hover
    have houtcome : outcome = (.error chain, toFile path file pending, t) := hw
    rw [houtcome]
    exact ⟨⟨chain, rfl, hkind⟩, rfl⟩
  · have houtcome : outcome =
        (.ok emission.bytes.length, toFile path file (pending ++ emission.bytes), s) :=
      write_of_not_overflows hover
    rw [houtcome]
    exact ⟨rfl, rfl⟩

/-- Replacing the destination fails just if anything is pending, and then leaves the stream as it is. -/
lemma replace_outcome (destination : Destination φ ω) (event : Event) :
    let outcome := (toFile path file pending).replace outlets destination event s
    if pending ≠ []
    then (∃ chain, outcome.1 = .error chain ∧ chain.kind = .inOut .closeFailed) ∧
      outcome.2.1 = toFile path file pending
    else outcome.1 = .ok () ∧ outcome.2.1 = ⟨true, destination⟩ := by
  intro outcome
  split_ifs with hpending
  · obtain ⟨chain, t, hkind, hr⟩ :=
      replace_of_pending path pending hrejects hs hpending destination event
    have houtcome : outcome = (.error chain, toFile path file pending, t) := hr
    rw [houtcome]
    exact ⟨⟨chain, rfl, hkind⟩, rfl⟩
  · obtain ⟨t, hr⟩ := replace_of_nil path hrejects hs destination event
    have houtcome : outcome = (.ok (), ⟨true, destination⟩, t) := by
      rw [← hr, ← not_not.mp hpending]
    rw [houtcome]
    exact ⟨rfl, rfl⟩

/-- Opening another file fails just if anything is pending, and then leaves the stream as it is. -/
lemma openFile_outcome {other : Bytes} {opened : φ} {t : σ} (hother : other ≠ [])
    (hopen : outlets.openFile other s = (.ok opened, t)) :
    let outcome := (toFile path file pending).openFile outlets other s
    if pending ≠ []
    then (∃ chain, outcome.1 = .error chain ∧ chain.kind = .inOut .closeFailed) ∧
      outcome.2.1 = toFile path file pending
    else outcome.1 = .ok .opened ∧ outcome.2.1 = toFile other opened [] := by
  intro outcome
  have ht : fit t := hrejects.fit_of_reaches (.openFile hopen) hs
  have hreplace := replace_outcome path pending hrejects ht (.owned other opened []) (.opened other)
  rcases hr : (toFile path file pending).replace outlets (.owned other opened []) (.opened other) t with
    ⟨chain | _, after, u⟩ <;> rw [hr] at hreplace
  · have houtcome : outcome = (.error chain, after, u) := by
      simp only [outcome, openFile, if_neg hother, hopen, hr]
    rw [houtcome]
    split_ifs at hreplace ⊢ with hpending
    · obtain ⟨⟨failed, heq, hkind⟩, hafter⟩ := hreplace
      exact ⟨⟨chain, rfl, Except.error.inj heq ▸ hkind⟩, hafter⟩
    · cases hreplace.1
  · have houtcome : outcome = (.ok .opened, after, u) := by
      simp only [outcome, openFile, if_neg hother, hopen, hr]
    rw [houtcome]
    split_ifs at hreplace ⊢ with hpending
    · obtain ⟨⟨failed, heq, _⟩, _⟩ := hreplace
      cases heq
    · exact ⟨rfl, hreplace.2⟩

/-! ### Many emissions -/

/-- A stream to a file that rejects everything stays one whatever is written to it. -/
lemma fit_write (emission : Emission) :
    fit ((toFile path file pending).write outlets emission s).2.2 := by
  have hput := emit_staysPut (Prod.eta ((toFile path file pending).emit outlets emission.said s)).symm
  rw [write_eq_emit]
  exact hrejects.fit_of_reaches (.of_device _ hput.reaches) hs

/-- After emissions those are pending that were not refused. -/
lemma writeMany_toFile (emissions : List Emission) :
    ((toFile path file pending).writeMany outlets emissions s).1 =
        toFile path file (kept pending emissions) ∧
      fit ((toFile path file pending).writeMany outlets emissions s).2 := by
  induction emissions generalizing pending s with
  | nil => exact ⟨rfl, hs⟩
  | cons emission emissions ih =>
    have hfit := fit_write path pending hrejects hs emission
    by_cases hover : Overflows bufferCapacity pending emission.bytes.length
    · obtain ⟨chain, t, -, hw⟩ := write_of_overflows path pending hrejects hs hover
      rw [hw] at hfit
      simp only [writeMany, hw, kept, List.foldl_cons, if_pos hover]
      exact ih pending hfit
    · have hw : (toFile path file pending).write outlets emission s =
          (.ok emission.bytes.length, toFile path file (pending ++ emission.bytes), s) :=
        write_of_not_overflows hover
      simp only [writeMany, hw, kept, List.foldl_cons, if_neg hover]
      exact ih (pending ++ emission.bytes) hs

/-- **All or nothing.**  After any emissions to a file that rejects everything, some bytes are pending.
One more emission is refused just if it fills the buffer by itself, or something is pending and it does
not fit behind that; then the stream stays as it is, and else it is taken as a whole and its length is
reported. Redirecting the stream and opening another file fail just if anything is pending, and leave the
stream as it is then; giving the file up never fails, and leads back to standard error. -/
theorem all_or_nothing_if_rejected (emissions : List Emission) :
    let reached := (toFile path file pending).writeMany outlets emissions s
    let waiting := kept pending emissions
    reached.1 = toFile path file waiting ∧
    (∀ emission, let outcome := reached.1.write outlets emission reached.2
      if bufferCapacity ≤ emission.bytes.length ∨
        waiting ≠ [] ∧ bufferCapacity - waiting.length < emission.bytes.length
      then (∃ chain, outcome.1 = .error chain ∧ chain.kind = .inOut .writeFailed) ∧
        outcome.2.1 = reached.1
      else outcome.1 = .ok emission.bytes.length ∧
        outcome.2.1 = toFile path file (waiting ++ emission.bytes)) ∧
    (∀ writer, let outcome := reached.1.setStream outlets writer reached.2
      if waiting ≠ []
      then (∃ chain, outcome.1 = .error chain ∧ chain.kind = .inOut .closeFailed) ∧
        outcome.2.1 = reached.1
      else outcome.1 = .ok () ∧ outcome.2.1 = ⟨true, .ofWriter writer⟩) ∧
    (∀ other opened t, other ≠ [] → outlets.openFile other reached.2 = (.ok opened, t) →
      let outcome := reached.1.openFile outlets other reached.2
      if waiting ≠ []
      then (∃ chain, outcome.1 = .error chain ∧ chain.kind = .inOut .closeFailed) ∧
        outcome.2.1 = reached.1
      else outcome.1 = .ok .opened ∧ outcome.2.1 = toFile other opened []) ∧
    (reached.1.close outlets reached.2).1 = .closed ∧
    (reached.1.close outlets reached.2).2.1 = ⟨true, .standardError⟩ := by
  intro reached waiting
  obtain ⟨hreached, hfit⟩ := writeMany_toFile path pending hrejects hs emissions
  change reached.1 = toFile path file waiting at hreached
  change fit reached.2 at hfit
  rw [hreached]
  refine ⟨rfl, write_outcome path waiting hrejects hfit, ?_, ?_, rfl, rfl⟩
  · intro writer
    cases writer with
    | none => exact replace_outcome path waiting hrejects hfit .standardError .reset
    | some writer => exact replace_outcome path waiting hrejects hfit (.external writer) .redirected
  · intro other opened t hother hopen
    exact openFile_outcome path waiting hrejects hfit hother hopen

end Rejected

end NotifyStream

/-- The device that is full rejects everything. -/
lemma World.rejects_full (route : Route) :
    World.outlets.Rejects route (fun world => world.files.entry? route = some (.device .full)) where
  stays hmove h := (World.grows_of_move hmove route).full h
  zero_of_ok {data world n world'} hfull _ hw := by
    have hnoSpace : (FileTree.write route data world.files).1 = .error .noSpace := by
      rw [FileTree.write, if_pos hfull]
    change ((FileTree.write route data world.files).1, _) = (.ok n, world') at hw
    rw [hnoSpace] at hw
    cases (Prod.mk.inj hw).1
  flush_ok _ := rfl

namespace NotifyStream

/-- A text of one character, repeated, has as many bytes. -/
lemma length_bytes_replicate (count : Nat) :
    (Emission.text (String.ofList (List.replicate count 'x'))).bytes.length = count := by
  have hascii : ∀ c ∈ List.replicate count 'x', c.toNat < 128 := by
    intro c hc
    rw [List.eq_of_mem_replicate hc]
    decide
  change (utf8 (String.ofList (List.replicate count 'x'))).length = count
  rw [utf8_ofList_of_ascii hascii, List.length_map, List.length_replicate]

/-- Three bytes stay pending if a text that does not fit behind them is refused. -/
lemma kept_of_long {long : Emission} (hlong : long.bytes.length = 8190) :
    kept [] [.text "abc", long] = utf8 "abc" := by
  have hshort : ¬Overflows bufferCapacity [] (Emission.text "abc").bytes.length := by decide
  have hover : Overflows bufferCapacity (utf8 "abc") long.bytes.length := by
    rw [hlong]
    decide
  simp only [kept, List.foldl_cons, List.foldl_nil, if_neg hshort, List.nil_append]
  exact if_pos hover

/-- The device that is full takes three bytes into the buffer, refuses a text that does not fit behind
them, and makes the next destination wait for them until it is given up. -/
theorem full_device_all_or_nothing :
    let full : Route := [utf8 "full"]
    let world : World := ⟨⟨[], [(full, .device .full)]⟩, [], []⟩
    ∃ long : Emission, long.bytes.length = 8190 ∧
      let reached :=
        (toFile (utf8 "full") full []).writeMany World.outlets [.text "abc", long] world
      reached.1 = toFile (utf8 "full") full (utf8 "abc") ∧
      (∃ chain, (reached.1.setStream World.outlets none reached.2).1 = .error chain ∧
        chain.kind = .inOut .closeFailed) ∧
      (reached.1.write World.outlets (.text "d") reached.2).1 = .ok 1 ∧
      (reached.1.close World.outlets reached.2).2.1.destination = .standardError := by
  intro full world
  obtain ⟨long, hlong⟩ : ∃ long : Emission, long.bytes.length = 8190 :=
    ⟨_, length_bytes_replicate 8190⟩
  refine ⟨long, hlong, ?_⟩
  intro reached
  obtain ⟨hreached, hwrite, hset, -, -, hclose⟩ :=
    all_or_nothing_if_rejected (utf8 "full") [] (s := world) (World.rejects_full full) rfl
      [.text "abc", long]
  rw [kept_of_long hlong] at hreached hwrite hset
  refine ⟨hreached, ?_, ?_, by rw [hclose]⟩
  · have hnone := hset none
    rw [if_pos (by decide)] at hnone
    exact hnone.1
  · have hd := hwrite (.text "d")
    rw [if_neg (by decide)] at hd
    exact hd.1

end NotifyStream

end PrefetchInfo
