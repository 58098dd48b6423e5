import PrefetchInfo.Notify.Stream
import PrefetchInfo.Proofs.Notify.Account

/-!
# Calls on a notify stream

The calls that a user of a notify stream makes, one after the other, and what each of them can come to.
Whatever a call answers, it does nothing to the world but offer bytes to the destination in force, open a
path, or tell developers of an event.
-/

namespace PrefetchInfo

namespace Notify

/-- A call on a notify stream. -/
inductive Call (ω : Type) where
  /-- Diagnostics are turned on or off. -/
  | setVerbose (verbose : Bool)
  /-- Diagnostics are redirected to a lent writer, or back to standard error. -/
  | redirect (writer : Option ω)
  /-- A file is opened as the destination. -/
  | openFile (path : Bytes)
  /-- The owned file is given up. -/
  | close
  /-- A text is written. -/
  | print (text : String)
  /-- A hex dump is written. -/
  | dump (data : Bytes)
  /-- The records of a chain are written. -/
  | backtrace (chain : ErrorChain)
  deriving DecidableEq, Repr

/-- The text that a call writes, if it writes any. -/
def Call.text? {ω : Type} : Call ω → Option String
  | .print text => some text
  | .dump data => some (HexDump.text data)
  | .backtrace chain => some chain.backtraceLines
  | _ => none

/-- The destination that diagnostics are redirected to: a lent writer, or standard error. -/
def Destination.ofWriter {φ ω : Type} : Option ω → Destination φ ω
  | some writer => .external writer
  | none => .standardError

/-- A destination without the bytes that have not reached it yet. -/
def Destination.bare {φ ω : Type} : Destination φ ω → Destination φ ω
  | .owned path file _ => .owned path file []
  | destination => destination

/-- Without its pending bytes a destination stands for the same place. -/
lemma Destination.place_bare {φ ω : Type} (destination : Destination φ ω) :
    destination.bare.place = destination.place := by
  cases destination <;> rfl

/-- Destinations that differ in nothing but their pending bytes stand for the same place. -/
lemma Destination.place_eq_of_bare_eq {φ ω : Type} {destination other : Destination φ ω}
    (h : destination.bare = other.bare) : destination.place = other.place := by
  rw [← destination.place_bare, h, other.place_bare]

end Notify

/-- A failure that was given a context is of the kind of the context. -/
lemma kind_of_context {ε α : Type} [Cause ε] {failure : ε} {kind : ErrorKind} {message : String}
    {chain : ErrorChain}
    (h : context (.error failure : Except ε α) kind message = .error chain) :
    chain.kind = kind := by
  cases h
  rfl

/-- A success needs no context. -/
lemma context_eq_ok_iff {ε α : Type} [Cause ε] {result : Except ε α} {kind : ErrorKind}
    {message : String} {value : α} : context result kind message = .ok value ↔ result = .ok value := by
  cases result with
  | error failure => constructor <;> intro h <;> cases h
  | ok result => constructor <;> intro h <;> cases h <;> rfl

namespace NotifyStream

open Notify

variable {σ φ ω : Type} {outlets : Outlets σ φ ω} {stream stream' : NotifyStream φ ω} {s s' : σ}
  {chain : ErrorChain}

/-! ### Making calls -/

/-- Makes a call; what it answers beyond success or failure is left out. -/
def perform (outlets : Outlets σ φ ω) (stream : NotifyStream φ ω) (call : Call ω) (s : σ) :
    Except ErrorChain Unit × NotifyStream φ ω × σ :=
  match call with
  | .setVerbose verbose => (.ok (), stream.setVerbose verbose, s)
  | .redirect writer => stream.setStream outlets writer s
  | .openFile path =>
    let (result, stream, s) := stream.openFile outlets path s
    (result.map fun _ => (), stream, s)
  | .close =>
    let (_, stream, s) := stream.close outlets s
    (.ok (), stream, s)
  | .print text =>
    let (result, stream, s) := stream.emit outlets text s
    (result.map fun _ => (), stream, s)
  | .dump data =>
    let (result, stream, s) := stream.printData outlets data s
    (result.map fun _ => (), stream, s)
  | .backtrace chain =>
    let (result, stream, s) := stream.printBacktrace outlets chain s
    (result.map fun _ => (), stream, s)

/-- Makes calls one after the other, whatever they answer. -/
def run (outlets : Outlets σ φ ω) (stream : NotifyStream φ ω) (calls : List (Call ω)) (s : σ) :
    NotifyStream φ ω × σ :=
  match calls with
  | [] => (stream, s)
  | call :: calls =>
    let (_, stream, s) := stream.perform outlets call s
    stream.run outlets calls s

/-- What a call does, case by case: all calls that write a text do the same with it, and a redirection
does the same wherever it leads. -/
lemma perform_cases {P : Call ω → Except ErrorChain Unit × NotifyStream φ ω × σ → Prop}
    (setVerbose : ∀ verbose, P (.setVerbose verbose) (.ok (), stream.setVerbose verbose, s))
    (redirect : ∀ writer event, P (.redirect writer)
      (stream.replace outlets (.ofWriter writer) event s))
    (openFile : ∀ path, P (.openFile path)
      ((stream.openFile outlets path s).1.map fun _ => (), (stream.openFile outlets path s).2))
    (close : P .close (.ok (), (stream.close outlets s).2))
    (write : ∀ call text, call.text? = some text → P call
      ((stream.emit outlets text s).1.map fun _ => (), (stream.emit outlets text s).2))
    (call : Call ω) : P call (stream.perform outlets call s) := by
  cases call with
  | setVerbose verbose => exact setVerbose verbose
  | redirect writer =>
    cases writer with
    | none => exact redirect none .reset
    | some writer => exact redirect (some writer) .redirected
  | openFile path => exact openFile path
  | close => exact close
  | print text => exact write (.print text) text rfl
  | dump data => exact write (.dump data) (HexDump.text data) rfl
  | backtrace chain => exact write (.backtrace chain) chain.backtraceLines rfl

/-! ### What calls can come to -/

/-- What flushing can come to: a file that is owned is flushed, or there is none. -/
lemma flushOwned_cases (outlets : Outlets σ φ ω) (stream : NotifyStream φ ω) (s : σ) :
    (∃ path file pending result b, stream.destination = .owned path file pending ∧
      BlockBuffer.flush (outlets.file file) ⟨pending, s⟩ = (result, b) ∧
      stream.flushOwned outlets s =
        (result, { stream with destination := .owned path file b.pending }, b.inner)) ∨
    (stream.destination = stream.destination.bare ∧ stream.destination.pending = [] ∧
      (∀ file, stream.destination.place ≠ .file file) ∧
      stream.flushOwned outlets s = (.ok (), stream, s)) := by
  obtain ⟨verbose, destination⟩ := stream
  cases destination with
  | standardError => exact .inr ⟨rfl, rfl, fun _ h => (by cases h), rfl⟩
  | external writer => exact .inr ⟨rfl, rfl, fun _ h => (by cases h), rfl⟩
  | owned path file pending => exact .inl ⟨path, file, pending, _, _, rfl, rfl, rfl⟩

/-- What replacing the destination can come to: the flush fails and nothing is replaced, or it succeeds
and developers are told of the new destination. -/
lemma replace_cases (outlets : Outlets σ φ ω) (stream : NotifyStream φ ω)
    (destination : Destination φ ω) (event : Event) (s : σ) :
    (∃ failure flushed t, stream.flushOwned outlets s = (.error failure, flushed, t) ∧
      stream.replace outlets destination event s =
        (context (.error failure) (.inOut .closeFailed) "unable to close notify stream",
          flushed, t)) ∨
    (∃ flushed t, stream.flushOwned outlets s = (.ok (), flushed, t) ∧
      stream.replace outlets destination event s =
        (.ok (), { flushed with destination }, outlets.record event t)) := by
  rcases hf : stream.flushOwned outlets s with ⟨failure | _, flushed, t⟩
  · exact .inl ⟨failure, flushed, t, rfl, by simp only [replace, hf]⟩
  · exact .inr ⟨flushed, t, rfl, by simp only [replace, hf]⟩

/-- What opening a file can come to: the path is empty; it cannot be opened; or it is opened and
becomes the destination unless the one before cannot be flushed. -/
lemma openFile_cases (outlets : Outlets σ φ ω) (stream : NotifyStream φ ω) (path : Bytes) (s : σ) :
    (path = [] ∧ stream.openFile outlets path s =
      (.error (.single (.argument .invalidValue) "invalid notify stream filename"), stream, s)) ∨
    (∃ failure t, path ≠ [] ∧ outlets.openFile path s = (.error failure, t) ∧
      stream.openFile outlets path s =
        (context (.error failure) (.inOut .openFailed)
          ("unable to open notify stream: " ++ Utf8.lossy path), stream, t)) ∨
    (∃ file t, path ≠ [] ∧ outlets.openFile path s = (.ok file, t) ∧
      stream.openFile outlets path s =
        ((stream.replace outlets (.owned path file []) (.opened path) t).1.map fun _ => .opened,
          (stream.replace outlets (.owned path file []) (.opened path) t).2)) := by
  by_cases hpath : path = []
  · exact .inl ⟨hpath, by simp only [openFile, if_pos hpath]⟩
  · rcases ho : outlets.openFile path s with ⟨failure | file, t⟩
    · exact .inr (.inl ⟨failure, t, hpath, rfl, by simp only [openFile, if_neg hpath, ho]⟩)
    · refine .inr (.inr ⟨file, t, hpath, rfl, ?_⟩)
      simp only [openFile, if_neg hpath, ho]
      rcases stream.replace outlets (.owned path file []) (.opened path) t with
        ⟨_ | _, _, _⟩ <;> rfl

/-- What delivering bytes can come to: they are all given to the place that the destination stands for,
behind the bytes of an owned file that are pending; or that place is a writer that cannot be used. -/
lemma deliver_cases (outlets : Outlets σ φ ω) (stream : NotifyStream φ ω) (data : Bytes) (s : σ) :
    (∃ path file pending result b, stream.destination = .owned path file pending ∧
      BlockBuffer.writeAll bufferCapacity (outlets.file file) data ⟨pending, s⟩ = (result, b) ∧
      stream.deliver outlets data s =
        (result, { stream with destination := .owned path file b.pending }, b.inner)) ∨
    (∃ result t, stream.destination.pending = [] ∧
      (outlets.device stream.destination.place).writeAll data s = (result, t) ∧
      stream.deliver outlets data s = (result, stream, t)) ∨
    (∃ writer failure, stream.destination = .external writer ∧
      outlets.ready writer s = .error failure ∧
      stream.deliver outlets data s = (.error failure, stream, s)) := by
  obtain ⟨verbose, destination⟩ := stream
  cases destination with
  | standardError => exact .inr (.inl ⟨_, _, rfl, rfl, rfl⟩)
  | external writer =>
    rcases hready : outlets.ready writer s with failure | _
    · exact .inr (.inr ⟨writer, failure, rfl, hready, by simp only [deliver, hready]⟩)
    · exact .inr (.inl ⟨_, _, rfl, rfl, by simp only [deliver, hready]; rfl⟩)
  | owned path file pending => exact .inl ⟨path, file, pending, _, _, rfl, rfl, rfl⟩

/-! ### What calls leave alone -/

/-- A stream stays put from one state to another if its verbosity and its destination are the same, but
for the bytes that are pending, and nothing was done to the world but at the place that the destination
stands for. -/
structure StaysPut (outlets : Outlets σ φ ω) (stream : NotifyStream φ ω) (s : σ)
    (stream' : NotifyStream φ ω) (s' : σ) : Prop where
  /-- The verbosity is the same. -/
  verbose : stream'.verbose = stream.verbose
  /-- The destination is the same, but for what is pending. -/
  bare : stream'.destination.bare = stream.destination.bare
  /-- Nothing was done but at the place of the destination. -/
  reaches : (outlets.device stream.destination.place).Reaches s s'

/-- A stream that does nothing stays put. -/
lemma StaysPut.refl (outlets : Outlets σ φ ω) (stream : NotifyStream φ ω) (s : σ) :
    StaysPut outlets stream s stream s :=
  ⟨rfl, rfl, .refl _ s⟩

/-- The destination of a stream that stays put stands for the same place. -/
lemma StaysPut.place (h : StaysPut outlets stream s stream' s') :
    stream'.destination.place = stream.destination.place :=
  Destination.place_eq_of_bare_eq h.bare

/-- A stream that stays put twice stays put. -/
lemma StaysPut.trans {stream'' : NotifyStream φ ω} {s'' : σ}
    (h : StaysPut outlets stream s stream' s') (h' : StaysPut outlets stream' s' stream'' s'') :
    StaysPut outlets stream s stream'' s'' := by
  have hreaches := h'.reaches
  rw [h.place] at hreaches
  exact ⟨h'.verbose.trans h.verbose, h'.bare.trans h.bare, h.reaches.trans hreaches⟩

/-- Flushing changes nothing in a stream but what is pending, and nothing in the world but the place
that the destination stands for. -/
lemma flushOwned_staysPut {result : Except Failure Unit}
    (h : stream.flushOwned outlets s = (result, stream', s')) :
    StaysPut outlets stream s stream' s' := by
  rcases flushOwned_cases outlets stream s with
    ⟨path, file, pending, result, b, hd, hb, hf⟩ | ⟨_, _, _, hf⟩ <;>
    rw [hf, Prod.mk.injEq, Prod.mk.injEq] at h <;> obtain ⟨rfl, rfl, rfl⟩ := h
  · have hreaches := BlockBuffer.reaches_flush (outlets.file file) ⟨pending, s⟩
    rw [hb] at hreaches
    refine ⟨rfl, ?_, ?_⟩ <;> rw [hd]
    · rfl
    · exact hreaches
  · exact .refl outlets stream s

/-- After a flush that succeeds, nothing is pending. -/
lemma pending_of_flushOwned_ok (h : stream.flushOwned outlets s = (.ok (), stream', s')) :
    stream'.destination.pending = [] := by
  rcases flushOwned_cases outlets stream s with
    ⟨path, file, pending, result, b, hd, hb, hf⟩ | ⟨_, hnil, _, hf⟩ <;>
    rw [hf, Prod.mk.injEq, Prod.mk.injEq] at h <;> obtain ⟨hr, rfl, _⟩ := h
  · exact BlockBuffer.pending_of_flush_ok (hr ▸ hb)
  · exact hnil

/-- Delivering bytes changes nothing in a stream but what is pending, and nothing in the world but the
place that the destination stands for. -/
lemma deliver_staysPut {data : Bytes} {result : Except Failure Unit}
    (h : stream.deliver outlets data s = (result, stream', s')) :
    StaysPut outlets stream s stream' s' := by
  rcases deliver_cases outlets stream data s with
    ⟨path, file, pending, result, b, hd, hb, hf⟩ | ⟨result, t, _, hw, hf⟩ | ⟨_, _, _, _, hf⟩ <;>
    rw [hf, Prod.mk.injEq, Prod.mk.injEq] at h <;> obtain ⟨rfl, rfl, rfl⟩ := h
  · have hreaches := BlockBuffer.reaches_writeAll bufferCapacity (outlets.file file) data ⟨pending, s⟩
    rw [hb] at hreaches
    refine ⟨rfl, ?_, ?_⟩ <;> rw [hd]
    · rfl
    · exact hreaches
  · have hreaches := Device.Reaches.writeAll (outlets.device stream.destination.place) data s
    rw [hw] at hreaches
    exact ⟨rfl, rfl, hreaches⟩
  · exact .refl outlets stream s

/-- Writing a text changes nothing in a stream but what is pending, and nothing in the world but the
place that the destination stands for. -/
lemma emit_staysPut {text : String} {result : Except ErrorChain Nat}
    (h : stream.emit outlets text s = (result, stream', s')) :
    StaysPut outlets stream s stream' s' := by
  unfold emit at h
  split at h
  · rcases hd : stream.deliver outlets (utf8 text) s with ⟨result, t, u⟩
    simp only [hd, Prod.mk.injEq] at h
    obtain ⟨_, rfl, rfl⟩ := h
    exact deliver_staysPut hd
  · simp only [Prod.mk.injEq] at h
    obtain ⟨_, rfl, rfl⟩ := h
    exact .refl outlets stream s

/-- What giving up a file can come to: a file that is owned is flushed, developers are told, and the
stream falls back to standard error; or no file is owned, and developers are told of that. -/
lemma close_cases (outlets : Outlets σ φ ω) (stream : NotifyStream φ ω) (s : σ) :
    (∃ path file result flushed t u, stream.destination.place = .file file ∧
      stream.flushOwned outlets s = (result, flushed, t) ∧ outlets.Reaches t u ∧
      (result = .ok () → u = outlets.record (.closed path) t) ∧
      stream.close outlets s = (.closed, { stream with destination := .standardError },
        BlockBuffer.release (outlets.file file) ⟨flushed.destination.pending, u⟩)) ∨
    ((∀ file, stream.destination.place ≠ .file file) ∧
      stream.close outlets s = (.closed, stream, outlets.record .nothingToClose s)) := by
  obtain ⟨verbose, destination⟩ := stream
  cases destination with
  | standardError => exact .inr ⟨fun _ h => (by cases h), rfl⟩
  | external writer => exact .inr ⟨fun _ h => (by cases h), rfl⟩
  | owned path file pending =>
    rcases hb : BlockBuffer.flush (outlets.file file) ⟨pending, s⟩ with ⟨failure | _, b⟩
    · refine .inl ⟨path, file, .error failure, ⟨verbose, .owned path file b.pending⟩, b.inner,
        outlets.record (.closed path) (outlets.record (.flushFailed path failure) b.inner), rfl,
        by simp only [flushOwned, hb], ?_, by simp, by simp only [close, hb, Destination.pending]⟩
      exact (Outlets.Reaches.record outlets _ _).trans (.record outlets _ _)
    · exact .inl ⟨path, file, .ok (), ⟨verbose, .owned path file b.pending⟩, b.inner,
        outlets.record (.closed path) b.inner, rfl, by simp only [flushOwned, hb],
        .record outlets _ _, fun _ => rfl, by simp only [close, hb, Destination.pending]⟩

/-- The end of a stream whose owned file, if there is one, can be flushed does nothing but flush it. -/
lemma giveUp_of_flushOwned_ok (h : stream.flushOwned outlets s = (.ok (), stream', s')) :
    stream.giveUp outlets s = s' := by
  obtain ⟨verbose, destination⟩ := stream
  cases destination with
  | standardError => exact (Prod.mk.inj (Prod.mk.inj h).2).2
  | external writer => exact (Prod.mk.inj (Prod.mk.inj h).2).2
  | owned path file pending =>
    have hnil := pending_of_flushOwned_ok h
    rcases hb : BlockBuffer.flush (outlets.file file) ⟨pending, s⟩ with ⟨result, b⟩
    simp only [flushOwned, hb, Prod.mk.injEq] at h
    obtain ⟨rfl, rfl, rfl⟩ := h
    simp only [giveUp, hb]
    exact BlockBuffer.release_of_nil hnil

/-! ### Where calls fail -/

/-- If the destination cannot be replaced, the file owned before could not be flushed. -/
lemma flushOwned_of_replace_error {destination : Destination φ ω} {event : Event}
    (h : stream.replace outlets destination event s = (.error chain, stream', s')) :
    chain.kind = .inOut .closeFailed ∧
      ∃ failure, stream.flushOwned outlets s = (.error failure, stream', s') := by
  rcases replace_cases outlets stream destination event s with
    ⟨failure, flushed, t, hf, hr⟩ | ⟨flushed, t, hf, hr⟩ <;>
    rw [hr, Prod.mk.injEq, Prod.mk.injEq] at h <;> obtain ⟨hchain, rfl, rfl⟩ := h
  · exact ⟨kind_of_context hchain, failure, hf⟩
  · cases hchain

/-- If a text cannot be written, delivering it failed. -/
lemma deliver_of_emit_error {text : String}
    (h : stream.emit outlets text s = (.error chain, stream', s')) :
    chain.kind = .inOut .writeFailed ∧
      ∃ failure, stream.deliver outlets (utf8 text) s = (.error failure, stream', s') := by
  unfold emit at h
  split at h
  · rcases hd : stream.deliver outlets (utf8 text) s with ⟨failure | _, t, u⟩ <;>
      simp only [hd, Prod.mk.injEq] at h <;> obtain ⟨hchain, rfl, rfl⟩ := h
    · exact ⟨kind_of_context hchain, failure, rfl⟩
    · cases hchain
  · cases (Prod.mk.inj h).1

/-- A text that is to be written can be written just if delivering it succeeds, and then as many bytes are
reported as it has. -/
lemma emit_ok_iff {text : String} {count : Nat} (hverbose : stream.verbose = true) :
    (stream.emit outlets text s).1 = .ok count ↔
      (stream.deliver outlets (utf8 text) s).1 = .ok () ∧ count = (utf8 text).length := by
  rcases hd : stream.deliver outlets (utf8 text) s with ⟨failure | _, t, u⟩
  · simp only [emit, if_pos hverbose, hd]
    refine iff_of_false (fun h => ?_) (fun h => ?_)
    · cases h
    · cases h.1
  · simp only [emit, if_pos hverbose, hd, true_and]
    constructor
    · intro h
      exact (Except.ok.inj h).symm
    · rintro rfl
      rfl

/-- If a text that is to be written can be written, delivering it succeeded. -/
lemma deliver_of_emit_ok {text : String} {count : Nat} (hverbose : stream.verbose = true)
    (h : stream.emit outlets text s = (.ok count, stream', s')) :
    (stream.deliver outlets (utf8 text) s).1 = .ok () :=
  ((emit_ok_iff hverbose).mp (by rw [h])).1

/-- Where a call can fail: the path is empty; it cannot be opened; the file owned before cannot be
flushed, after a new one was opened or with nothing done before; or a text cannot be delivered. -/
lemma perform_error_cases {call : Call ω}
    (h : stream.perform outlets call s = (.error chain, stream', s')) :
    (chain.kind = .argument .invalidValue ∧ stream' = stream ∧ s' = s) ∨
    (chain.kind = .inOut .openFailed ∧ stream' = stream ∧
      ∃ path failure, outlets.openFile path s = (.error failure, s')) ∨
    (chain.kind = .inOut .closeFailed ∧ ∃ failure t,
      (t = s ∨ ∃ path file, outlets.openFile path s = (.ok file, t)) ∧
      stream.flushOwned outlets t = (.error failure, stream', s')) ∨
    (chain.kind = .inOut .writeFailed ∧ ∃ failure data,
      stream.deliver outlets data s = (.error failure, stream', s')) := by
  revert h
  refine perform_cases (P := fun _ result => result = (.error chain, stream', s') → _)
    ?_ ?_ ?_ ?_ ?_ call
  · intro verbose h
    cases (Prod.mk.inj h).1
  · intro writer event h
    obtain ⟨hkind, failure, hf⟩ := flushOwned_of_replace_error h
    exact .inr (.inr (.inl ⟨hkind, failure, s, .inl rfl, hf⟩))
  · intro path h
    rcases openFile_cases outlets stream path s with
      ⟨_, ho⟩ | ⟨failure, t, _, hopen, ho⟩ | ⟨file, t, _, hopen, ho⟩ <;> rw [ho] at h
    · cases h
      exact .inl ⟨rfl, rfl, rfl⟩
    · cases h
      exact .inr (.inl ⟨rfl, rfl, path, failure, hopen⟩)
    · rcases hr : stream.replace outlets (.owned path file []) (.opened path) t with
        ⟨failed | _, flushed, u⟩ <;> rw [hr] at h <;> cases h
      obtain ⟨hkind, failure, hf⟩ := flushOwned_of_replace_error hr
      exact .inr (.inr (.inl ⟨hkind, failure, t, .inr ⟨path, file, hopen⟩, hf⟩))
  · intro h
    cases (Prod.mk.inj h).1
  · intro call text _ h
    rcases he : stream.emit outlets text s with ⟨failed | _, t, u⟩ <;> rw [he] at h <;> cases h
    obtain ⟨hkind, failure, hd⟩ := deliver_of_emit_error he
    exact .inr (.inr (.inr ⟨hkind, failure, utf8 text, hd⟩))

end NotifyStream

end PrefetchInfo
