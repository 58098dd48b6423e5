import PrefetchInfo.Proofs.Notify.Balance
import PrefetchInfo.Proofs.Text.Lines
import PrefetchInfo.Status

/-!
# All renderings of a chain agree

What a chain says is told in several ways: shown in full, written to a device, printed to a notify stream,
and copied into a buffer. All of them tell the same bytes, the messages of the records from the most recent
to the root cause with a line feed behind each of them; only a buffer that is too small cuts them off. The
same is true of what the latest record alone says, which is where the whole rendering begins.
-/

namespace PrefetchInfo.ErrorChain

open Notify

variable {σ φ ω : Type}

/-! ### The rendering -/

/-- The messages of some records, with a line feed behind each of them. -/
def rendering (records : List ErrorRecord) : Bytes :=
  records.flatMap fun record => utf8 record.message ++ [newline]

/-- The lines of some records are their rendering. -/
lemma utf8_lines (records : List ErrorRecord) : utf8 (lines records) = rendering records := by
  induction records with
  | nil => exact utf8_empty
  | cons record records ih =>
    have hlines : lines (record :: records) = record.message ++ "\n" ++ lines records := by
      rw [lines, List.map_cons, String.join_cons, lines]
    rw [hlines, utf8_append, utf8_append, utf8_newline, ih, rendering, rendering, List.flatMap_cons]

/-- The line of the latest record is what it says with a line feed behind it. -/
lemma utf8_latestLine (chain : ErrorChain) : utf8 chain.latestLine = utf8 chain.brief ++ [newline] := by
  rw [latestLine, utf8_lines, rendering, List.flatMap_singleton]
  rfl

/-- Messages with line feeds between them lack nothing of the rendering but the last line feed. -/
lemma utf8_intercalate (latest : ErrorRecord) (causes : List ErrorRecord) :
    utf8 ("\n".intercalate ((latest :: causes).map ErrorRecord.message)) ++ [newline] =
      rendering (latest :: causes) := by
  induction causes generalizing latest with
  | nil =>
    rw [List.map_singleton, String.intercalate_singleton, rendering, List.flatMap_singleton]
  | cons cause causes ih =>
    rw [List.map_cons, List.map_cons, String.intercalate_cons_cons, ← List.map_cons, utf8_append,
      List.append_assoc, ih, utf8_append, utf8_newline]
    rfl

/-- What the latest record says is where the rendering of the chain begins. -/
lemma brief_prefix (chain : ErrorChain) :
    utf8 chain.brief ++ [newline] <+: rendering chain.newestFirst :=
  List.prefix_append _ _

/-- If no message contains a line feed, the rendering falls apart into the messages at its line feeds. -/
lemma splitOn_rendering {records : List ErrorRecord}
    (h : ∀ record ∈ records, '\n' ∉ record.message.toList) :
    (rendering records).splitOn newline = records.map (fun record => utf8 record.message) ++ [[]] := by
  have hlines : rendering records =
      (records.map fun record => utf8 record.message).flatMap (· ++ [newline]) := by
    rw [rendering, List.flatMap_map]
  rw [hlines]
  refine splitOn_lines fun line hline => ?_
  obtain ⟨record, hrecord, rfl⟩ := List.mem_map.mp hline
  exact fun hmem => h record hrecord (newline_mem_utf8_iff.mp hmem)

/-! ### Writing and copying -/

/-- A call that writes to a device writes certain bytes. -/
structure Writes (σ : Type) (write : Device σ → σ → Except Failure Nat × σ) (bytes : Bytes) :
    Prop where
  /-- The device is offered these bytes and no others, whatever becomes of them. -/
  offers : ∀ {device s}, (write device s).2 = (device.writeAll bytes s).2
  /-- If the call succeeds, it reports the number of the bytes, and these have arrived, each once and in
  order. -/
  exactly : ∀ {device fit content s count s'}, device.DeliversWhile fit content → fit s →
    write device s = (.ok count, s') → count = bytes.length ∧ content s' = content s ++ bytes
  /-- The call succeeds if the device takes something of whatever it is offered. -/
  succeeds : ∀ {device fit s}, device.Willing fit → fit s → (write device s).1 = .ok bytes.length

/-- A call that copies into a buffer copies certain bytes, whatever the size of the buffer and whatever it
contains. -/
structure Copies (copy : Bytes → Nat × Bytes) (bytes : Bytes) : Prop where
  /-- The call reports the number of all the bytes, however many of them the buffer has room for. -/
  reports : ∀ buffer, (copy buffer).1 = bytes.length
  /-- The buffer stays as long as it is. -/
  length_eq : ∀ buffer, (copy buffer).2.length = buffer.length
  /-- As many of the bytes as there is room for are at the front of the buffer. -/
  front : ∀ buffer, (copy buffer).2.take (min buffer.length bytes.length) =
    bytes.take (min buffer.length bytes.length)
  /-- The buffer is as it was behind them. -/
  rest : ∀ buffer, (copy buffer).2.drop (min buffer.length bytes.length) =
    buffer.drop (min buffer.length bytes.length)

/-- Delivering a text to a device writes its bytes. -/
lemma writes_deliver (text : String) : Writes σ (fun device => deliver device text) (utf8 text) where
  offers {device s} := by
    rcases hw : device.writeAll (utf8 text) s with ⟨failure | _, t⟩ <;> simp only [deliver, hw]
  exactly {device _ _ s count s'} hdelivers hs hok := by
    rcases hw : device.writeAll (utf8 text) s with ⟨failure | _, t⟩
    · simp only [deliver, hw] at hok
      cases hok
    · simp only [deliver, hw] at hok
      obtain ⟨hcount, rfl⟩ := Prod.mk.inj hok
      exact ⟨(Except.ok.inj hcount).symm, hdelivers.content_writeAll_ok hs hw⟩
  succeeds {device _ s} hwilling hs := by
    rcases hw : device.writeAll (utf8 text) s with ⟨result, t⟩
    have hok := hwilling.writeAll_ok (utf8 text) hs
    rw [hw] at hok
    obtain rfl : result = .ok () := hok
    simp only [deliver, hw]

/-- Copying a text into a buffer copies its bytes. -/
lemma copies_copyInto (text : String) : Copies (copyInto text) (utf8 text) where
  reports _ := rfl
  length_eq buffer := by
    simp only [copyInto, List.length_append, List.length_take, List.length_drop]
    omega
  front buffer := by
    rw [copyInto, List.take_left' List.length_take]
    exact List.take_eq_take_min
  rest buffer := by
    rw [copyInto, List.drop_left' List.length_take]
    rcases Nat.le_total buffer.length (utf8 text).length with h | h
    · rw [Nat.min_eq_left h, List.drop_eq_nil_of_le h, List.drop_length]
    · rw [Nat.min_eq_right h]

/-! ### All of them together -/

/-- **All renderings of a chain agree, and cutting them off is safe.**  Shown in full, a chain lacks only
the last line feed of its rendering, the messages of its records from the most recent to the root cause
with a line feed behind each. Writing it to a device writes exactly the rendering, and so does printing it
to a verbose notify stream if that succeeds; copying it into a buffer reports the length of the rendering,
puts as much of it into the buffer as there is room for, and touches nothing behind, and so does the status
call. The same holds of what the latest record alone says, with which the rendering begins. If no message
contains a line feed, the messages are found again between the line feeds of the rendering, in the same
order. -/
theorem renderings_agree (outlets : Outlets σ φ ω) (account : outlets.Account) [DecidableEq φ]
    [DecidableEq ω] (chain : ErrorChain) :
    let whole := rendering chain.newestFirst
    let first := utf8 chain.brief ++ [newline]
    utf8 chain.full ++ [newline] = whole ∧ first <+: whole ∧
    Writes σ chain.writeBacktrace whole ∧ Writes σ chain.writeLatest first ∧
    Copies chain.formatBacktrace whole ∧ Copies chain.formatLatest first ∧
    (∀ buffer, Status.backtraceFormat (some chain) (some buffer) =
      (chain.formatBacktrace buffer).map id some) ∧
    (∀ buffer, Status.errorFormat (some chain) (some buffer) =
      (chain.formatLatest buffer).map id some) ∧
    (∀ (stream : NotifyStream φ ω) s, stream.verbose = true → NotifyStream.Sound account stream s →
      let printed := stream.printBacktrace outlets chain s
      printed.2 = (stream.deliver outlets whole s).2 ∧
      (account.takes stream.destination.place s → printed.1 = .ok whole.length) ∧
      ∀ count, printed.1 = .ok count → count = whole.length ∧ ∀ place, account.keeps place s →
        NotifyStream.holds account place printed.2.1 printed.2.2 =
          NotifyStream.holds account place stream s ++
            if stream.destination.place = place then whole else []) ∧
    ((∀ record ∈ chain.newestFirst, '\n' ∉ record.message.toList) →
      whole.splitOn newline = chain.newestFirst.map (fun record => utf8 record.message) ++ [[]]) := by
  intro whole first
  have hwhole : utf8 chain.backtraceLines = whole := utf8_lines chain.newestFirst
  have hfirst : utf8 chain.latestLine = first := utf8_latestLine chain
  refine ⟨utf8_intercalate chain.latest chain.causes, brief_prefix chain,
    hwhole ▸ writes_deliver chain.backtraceLines, hfirst ▸ writes_deliver chain.latestLine,
    hwhole ▸ copies_copyInto chain.backtraceLines, hfirst ▸ copies_copyInto chain.latestLine,
    fun _ => rfl, fun _ => rfl,
    fun stream s hverbose hsound => ⟨?_, fun htakes => ?_, fun count hok => ?_⟩, splitOn_rendering⟩
  · rw [← hwhole]
    simp only [NotifyStream.printBacktrace, NotifyStream.emit, if_pos hverbose]
  · rw [← hwhole]
    exact (NotifyStream.emit_ok_iff hverbose).mpr ⟨NotifyStream.deliver_ok account htakes _, rfl⟩
  · rw [← hwhole]
    exact NotifyStream.holds_of_emit_ok account hsound hverbose hok

/-- A buffer too small for a message cuts it off even within a character. -/
example : (single (.inOut .generic) "é").formatLatest [0x2e] = (3, [0xc3]) := by decide

end PrefetchInfo.ErrorChain
