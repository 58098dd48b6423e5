import Mathlib
import PrefetchInfo.Interrupt.Handling
import PrefetchInfo.Proofs.Interrupt.Dispatch
import PrefetchInfo.Proofs.Text.Lines

/-!
# The report is made whole

Whatever is put into a line of fixed size, in whatever pieces, the line stays within its cells and holds the
pieces that were taken, one behind the other. The digits of a word of the machine are few enough for the
report of the statistics to fit, whatever the counters are. So each interruption that is handled has one
whole line of report, and any other code has none.
-/

namespace PrefetchInfo.Allocation

namespace Line

variable {line : Line} {piece : String} {pieces : List String}

/-! ### One piece -/

/-- A line has all its cells, and no more of them hold text than it has. -/
structure Sound (line : Line) : Prop where
  /-- It has its cells. -/
  length_cells : line.cells.length = lineCapacity
  /-- No more of them hold text. -/
  used_le : line.used ≤ lineCapacity

/-- A blank line has all its cells. -/
lemma sound_blank : blank.Sound :=
  ⟨List.length_replicate, Nat.zero_le _⟩

/-- There is no text in a blank line. -/
lemma bytes_blank : blank.bytes = [] :=
  List.take_zero

/-- As many bytes are text as there are cells that hold it. -/
lemma Sound.length_bytes (h : line.Sound) : line.bytes.length = line.used := by
  have hle : line.used ≤ line.cells.length := by
    rw [h.length_cells]
    exact h.used_le
  rw [bytes, List.length_take, Nat.min_eq_left hle]

/-- There is room for a piece of text behind the text of a line. -/
def Fits (line : Line) (piece : String) : Prop :=
  line.used + (utf8 piece).length ≤ lineCapacity

/-- A piece that does not fit is not taken, and leaves the line as it is. -/
lemma Sound.add_of_not_fits (h : line.Sound) (hfits : ¬line.Fits piece) :
    line.add piece = (false, line) := by
  have hlong : line.used + (utf8 piece).length > line.cells.length := by
    rw [h.length_cells]
    exact Nat.lt_of_not_le hfits
  unfold add
  exact if_pos hlong

/-- A piece that fits is taken, and comes behind the text. -/
lemma Sound.add_of_fits (h : line.Sound) (hfits : line.Fits piece) :
    ∃ after, line.add piece = (true, after) ∧ after.Sound ∧
      after.bytes = line.bytes ++ utf8 piece := by
  have hshort : line.used + (utf8 piece).length ≤ line.cells.length := by
    rw [h.length_cells]
    exact hfits
  have hfront : (line.cells.take line.used ++ utf8 piece).length =
      line.used + (utf8 piece).length := by
    rw [List.length_append, ← bytes, h.length_bytes]
  refine ⟨⟨line.cells.take line.used ++ utf8 piece ++
    line.cells.drop (line.used + (utf8 piece).length), line.used + (utf8 piece).length⟩, ?_, ?_, ?_⟩
  · unfold add
    exact if_neg (Nat.not_lt_of_le hshort)
  · refine ⟨?_, hfits⟩
    rw [List.length_append, hfront, List.length_drop, ← h.length_cells]
    omega
  · rw [bytes, ← hfront, List.take_left, bytes]

/-- A piece is taken just if it fits. -/
lemma Sound.add_eq_true_iff (h : line.Sound) : (line.add piece).1 = true ↔ line.Fits piece := by
  by_cases hfits : line.Fits piece
  · obtain ⟨after, hadd, -⟩ := h.add_of_fits hfits
    rw [hadd]
    exact iff_of_true rfl hfits
  · rw [h.add_of_not_fits hfits]
    exact iff_of_false Bool.false_ne_true hfits

/-! ### Pieces one after the other -/

/-- Adds pieces one after the other, whatever becomes of them, and tells of each whether it was taken. -/
def tryAll (line : Line) : List String → List Bool × Line
  | [] => ([], line)
  | piece :: pieces =>
    let (answer, line) := line.add piece
    let (answers, line) := line.tryAll pieces
    (answer :: answers, line)

/-- The pieces that were taken, going by the answers. -/
def taken (pieces : List String) (answers : List Bool) : List String :=
  ((pieces.zip answers).filter Prod.snd).map Prod.fst

/-- A line keeps its cells, and the pieces that are taken come behind its text. -/
lemma Sound.tryAll (h : line.Sound) (pieces : List String) :
    (line.tryAll pieces).2.Sound ∧ (line.tryAll pieces).2.bytes =
      line.bytes ++ utf8 (String.join (taken pieces (line.tryAll pieces).1)) := by
  induction pieces generalizing line with
  | nil =>
    refine ⟨h, ?_⟩
    change line.bytes = line.bytes ++ utf8 (String.join [])
    rw [String.join_nil, utf8_empty, List.append_nil]
  | cons piece pieces ih =>
    by_cases hfits : line.Fits piece
    · obtain ⟨after, hadd, hafter, hbytes⟩ := h.add_of_fits hfits
      obtain ⟨hsound, htext⟩ := ih hafter
      simp only [Line.tryAll, hadd]
      refine ⟨hsound, ?_⟩
      change _ = _ ++ utf8 (String.join (piece :: taken pieces (after.tryAll pieces).1))
      rw [htext, hbytes, String.join_cons, utf8_append, List.append_assoc]
    · obtain ⟨hsound, htext⟩ := ih h
      simp only [Line.tryAll, h.add_of_not_fits hfits]
      exact ⟨hsound, htext⟩

/-- Pieces that fit all together are all taken. -/
lemma Sound.addAll_of_fits (h : line.Sound) (hfits : line.Fits (String.join pieces)) :
    ∃ after, line.addAll pieces = (true, after) ∧
      after.bytes = line.bytes ++ utf8 (String.join pieces) := by
  induction pieces generalizing line with
  | nil =>
    refine ⟨line, rfl, ?_⟩
    rw [String.join_nil, utf8_empty, List.append_nil]
  | cons piece pieces ih =>
    unfold Fits at hfits
    rw [String.join_cons, utf8_append, List.length_append] at hfits
    have hpiece : line.Fits piece := by
      unfold Fits
      omega
    obtain ⟨between, hadd, hbetween, hbytes⟩ := h.add_of_fits hpiece
    have hrest : between.Fits (String.join pieces) := by
      have hlength := hbetween.length_bytes
      rw [hbytes, List.length_append, h.length_bytes] at hlength
      unfold Fits
      omega
    obtain ⟨after, hall, htext⟩ := ih hbetween hrest
    refine ⟨after, ?_, ?_⟩
    · rw [addAll, hadd]
      exact hall
    · rw [htext, hbytes, String.join_cons, utf8_append, List.append_assoc]

end Line

/-! ### The report -/

variable (statistics : Statistics)

/-- The statistics as text are the four counters in decimal digits, each behind its label. -/
lemma Statistics.text_eq :
    statistics.text =
      "allocations: " ++ Nat.repr statistics.allocations.toNat ++
      ", deallocations: " ++ Nat.repr statistics.deallocations.toNat ++
      ", bytes in use: " ++ Nat.repr statistics.bytesInUse.toNat ++
      ", peak bytes: " ++ Nat.repr statistics.peakBytes.toNat := by
  simp only [text, pieces, String.join_cons, String.join_nil, String.append_empty,
    String.append_assoc]

/-- What the report says, without the line feed that ends it. -/
def reportText : String :=
  "memory-debug: " ++ statistics.text

/-- The decimal digits of a word are at most twenty bytes. -/
lemma length_utf8_repr_le (word : UInt64) : (utf8 (Nat.repr word.toNat)).length ≤ 20 := by
  have hascii : ∀ c ∈ (Nat.repr word.toNat).toList, c.toNat < 128 :=
    fun c hc => (inline_repr word.toNat c hc).1
  have hdigits : (Nat.repr word.toNat).length ≤ 20 :=
    Nat.repr_length _ _ (by decide) (Nat.lt_trans word.toNat_lt (by decide))
  rw [← String.ofList_toList (s := Nat.repr word.toNat), utf8_ofList_of_ascii hascii, List.length_map,
    String.length_toList]
  exact hdigits

/-- The report and its line feed fit into a line, whatever the counters are. -/
lemma length_reportText_lt : (utf8 (reportText statistics)).length < lineCapacity := by
  have hallocations := length_utf8_repr_le statistics.allocations
  have hdeallocations := length_utf8_repr_le statistics.deallocations
  have hbytesInUse := length_utf8_repr_le statistics.bytesInUse
  have hpeakBytes := length_utf8_repr_le statistics.peakBytes
  have hlabels : (utf8 "memory-debug: ").length + (utf8 "allocations: ").length +
      (utf8 ", deallocations: ").length + (utf8 ", bytes in use: ").length +
      (utf8 ", peak bytes: ").length = 74 := by decide
  simp only [reportText, Statistics.text_eq, utf8_append, List.length_append, lineCapacity]
  omega

/-- The report takes a single line. -/
lemma inline_reportText : Inline (reportText statistics) := by
  have hlabel : Inline "memory-debug: " := by decide
  have hallocations : Inline "allocations: " := by decide
  have hdeallocations : Inline ", deallocations: " := by decide
  have hbytesInUse : Inline ", bytes in use: " := by decide
  have hpeakBytes : Inline ", peak bytes: " := by decide
  simp only [reportText, Statistics.text_eq, String.append_assoc]
  exact hlabel.append <| hallocations.append <| (inline_repr _).append <|
    hdeallocations.append <| (inline_repr _).append <| hbytesInUse.append <|
      (inline_repr _).append <| hpeakBytes.append <| inline_repr _

/-- **The report is made, and made whole,** whatever the counters are. -/
theorem report?_eq : report? statistics = some (utf8 (reportText statistics) ++ [newline]) := by
  have hjoin : String.join ("memory-debug: " :: statistics.pieces ++ ["\n"]) =
      reportText statistics ++ "\n" := by
    rw [String.join_append, String.join_cons, String.join_cons, String.join_nil, String.append_empty]
    rfl
  have hfits : Line.blank.Fits (String.join ("memory-debug: " :: statistics.pieces ++ ["\n"])) := by
    have hshort := length_reportText_lt statistics
    have hused : Line.blank.used = 0 := rfl
    rw [hjoin, Line.Fits, hused, utf8_append, utf8_newline, List.length_append, List.length_singleton]
    omega
  obtain ⟨after, hall, hbytes⟩ := Line.sound_blank.addAll_of_fits hfits
  rw [Line.bytes_blank, List.nil_append, hjoin, utf8_append, utf8_newline] at hbytes
  unfold report?
  rw [hall]
  simp only [hbytes]

/-- A code is recognized just if it is that of an interruption that is trapped. Then the report is handed
over in one write, and else nothing is. -/
lemma written_handle {η : Type} (trap : Trap η) (raw : Int32) :
    (trap.handle statistics raw).recognized = (Signal.ofRaw? raw).isSome ∧
      (trap.handle statistics raw).written =
        if (Signal.ofRaw? raw).isSome = true then [utf8 (reportText statistics) ++ [newline]] else [] := by
  rcases hsignal : Signal.ofRaw? raw with _ | signal
  · have hnone : trap.dispatch raw = none := by rw [Trap.dispatch, hsignal, Option.map_none]
    rw [Trap.handle, hnone]
    exact ⟨rfl, rfl⟩
  · have hsome : trap.dispatch raw = some (signal, trap.handler) := by
      rw [Trap.dispatch, hsignal, Option.map_some]
    rw [Trap.handle, hsome]
    refine ⟨rfl, ?_⟩
    rw [report?_eq, Option.isSome_some, if_pos rfl]
    rfl

/-- **Each interruption has one whole line of report.**  Whatever the counters are: a code that is passed to
the trap is recognized just if it is that of an interruption which is trapped; then a single line is handed
to standard error in one write, and nothing is for any other code. The line shows the statistics behind a
label: the four counters in decimal digits, each behind a label of its own. It fits into the fixed number of
bytes in which it is put together. There, after any pieces of text whatever, the text is made up of the
pieces that were taken, in their order, and stays within that number of bytes; the next piece is taken just
if there is room for it behind the text, and else it is refused and the line is left as it was. -/
theorem one_line_for_each_interruption {η : Type} (trap : Trap η) (statistics : Statistics) :
    let counters :=
      "allocations: " ++ Nat.repr statistics.allocations.toNat ++
      ", deallocations: " ++ Nat.repr statistics.deallocations.toNat ++
      ", bytes in use: " ++ Nat.repr statistics.bytesInUse.toNat ++
      ", peak bytes: " ++ Nat.repr statistics.peakBytes.toNat
    let said := utf8 ("memory-debug: " ++ counters)
    statistics.text = counters ∧
    (∀ raw : Int32, (trap.handle statistics raw).recognized = true ↔ raw = 2 ∨ raw = 1 ∨ raw = 15) ∧
    (∀ raw : Int32, (trap.handle statistics raw).written =
      if (trap.handle statistics raw).recognized = true
      then [said ++ [newline]] else []) ∧
    newline ∉ said ∧ (said ++ [newline]).length ≤ 256 ∧
    ∀ pieces : List String,
      let (answers, line) := Line.blank.tryAll pieces
      line.used ≤ 256 ∧ line.bytes.length = line.used ∧
      line.bytes = utf8 (String.join (Line.taken pieces answers)) ∧
      ∀ piece : String,
        ((line.add piece).1 = true ↔ line.used + (utf8 piece).length ≤ 256) ∧
        (line.add piece = (false, line) ↔ 256 < line.used + (utf8 piece).length) := by
  intro counters said
  have hsaid : said = utf8 (reportText statistics) := by
    rw [reportText, Statistics.text_eq]
  refine ⟨Statistics.text_eq statistics, fun raw => ?_, fun raw => ?_, ?_, ?_, fun pieces => ?_⟩
  · rw [(written_handle statistics trap raw).1]
    exact Signal.isSome_ofRaw?_iff
  · rw [(written_handle statistics trap raw).1, hsaid]
    exact (written_handle statistics trap raw).2
  · rw [hsaid, newline_mem_utf8_iff]
    intro hmem
    exact (inline_reportText statistics _ hmem).2 rfl
  · rw [hsaid, List.length_append, List.length_singleton]
    exact length_reportText_lt statistics
  · obtain ⟨hsound, hbytes⟩ := Line.sound_blank.tryAll pieces
    rw [Line.bytes_blank, List.nil_append] at hbytes
    refine ⟨hsound.used_le, hsound.length_bytes, hbytes, fun piece => ⟨hsound.add_eq_true_iff, ?_⟩⟩
    constructor
    · intro hrefused
      by_contra hroom
      have htaken := hsound.add_eq_true_iff.mpr (Nat.le_of_not_lt hroom)
      rw [hrefused] at htaken
      cases htaken
    · intro hlong
      exact hsound.add_of_not_fits (Nat.not_le_of_lt hlong)

-- A piece that does not fit is passed over, and a shorter one behind it is taken.
example :
    let long (count : Nat) := String.ofList (List.replicate count 'x')
    (Line.blank.tryAll [long 200, long 100, long 56, long 1]).1 = [true, false, true, false] := by
  decide +kernel

end PrefetchInfo.Allocation
