import PrefetchInfo.Proofs.HexDump.Rows
import PrefetchInfo.Proofs.Notify.Calls
import PrefetchInfo.Proofs.Text.Lines

/-!
# The layout of a hex dump

A dump has a row for every sixteen bytes and for what is left of them, and ends with an empty line. Its
length follows from how many bytes there are. The cells of all rows in order are the bytes of the dump,
which is why nothing of them is lost.
-/

namespace PrefetchInfo.HexDump

variable {data : Bytes} {k : Nat}

/-! ### Chunks -/

/-- The number of rows, each but the last of which is full. -/
def rowCount (data : Bytes) : Nat :=
  (data.length + (perLine - 1)) / perLine

/-- The bytes in a row. -/
def chunk (data : Bytes) (k : Nat) : Bytes :=
  (data.drop (perLine * k)).take perLine

/-- The number of rows with bytes in the second group. -/
def longCount (data : Bytes) : Nat :=
  (List.range (rowCount data)).countP fun k => perGroup < (chunk data k).length

/-- No more than sixteen bytes are in a row. -/
lemma length_chunk_le (data : Bytes) (k : Nat) : (chunk data k).length ≤ perLine :=
  List.length_take_le _ _

/-- No more rows have a second group than there are rows. -/
lemma longCount_le (data : Bytes) : longCount data ≤ rowCount data := by
  have hle := List.countP_le_length (p := fun k => perGroup < (chunk data k).length)
    (l := List.range (rowCount data))
  rwa [List.length_range] at hle

/-- A row begins before the end of the bytes, which are not too many for the offsets. -/
lemma offset_lt (hdata : data.length ≤ 2 ^ 32) (hk : k < rowCount data) : perLine * k < 16 ^ 8 := by
  have hbefore : perLine * k < data.length := by
    simp only [rowCount, perLine] at hk ⊢
    omega
  exact Nat.lt_of_lt_of_le hbefore hdata

/-- The rows have room for all bytes. -/
lemma length_le_rowCount (data : Bytes) : data.length ≤ rowCount data * perLine := by
  simp only [rowCount, perLine]
  omega

/-- Bytes have one row more than what is left of them behind the first row. -/
lemma rowCount_of_ne_nil (hdata : data ≠ []) : rowCount data = rowCount (data.drop perLine) + 1 := by
  have hpos : 0 < data.length := List.length_pos_of_ne_nil hdata
  simp only [rowCount, perLine, List.length_drop]
  omega

/-- The first rows show as many of the bytes as there is room for in them. -/
lemma flatMap_chunk_range (data : Bytes) (count : Nat) :
    (List.range count).flatMap (chunk data) = data.take (count * perLine) := by
  induction count with
  | zero => rw [Nat.zero_mul, List.take_zero, List.range_zero, List.flatMap_nil]
  | succ count ih =>
    rw [List.range_succ, List.flatMap_append, List.flatMap_singleton, ih, Nat.succ_mul, List.take_add,
      Nat.mul_comm count]
    rfl

/-- The bytes of all rows in order are all bytes. -/
lemma flatMap_chunk (data : Bytes) : (List.range (rowCount data)).flatMap (chunk data) = data := by
  rw [flatMap_chunk_range, List.take_of_length_le (length_le_rowCount data)]

/-! ### All rows of a dump -/

/-- The rows of a dump. -/
def rows (data : Bytes) : List (List Char) :=
  (List.range (rowCount data)).map fun k => row (perLine * k) (chunk data k)

/-- The lines of bytes that begin at an offset follow each other at a distance of sixteen. -/
lemma linesFrom_eq (offset : Nat) (data : Bytes) :
    linesFrom offset data = ((List.range (rowCount data)).flatMap fun k =>
      line (offset + perLine * k) (chunk data k)) ++ ['\n'] := by
  induction offset, data using linesFrom.induct with
  | case1 offset =>
    rw [linesFrom, if_pos rfl]
    rfl
  | case2 offset data hdata ih =>
    have hchunk : ∀ k, chunk (data.drop perLine) k = chunk data (k + 1) := by
      intro k
      rw [chunk, chunk, List.drop_drop, Nat.mul_succ, Nat.add_comm perLine]
    have hoffset : ∀ k, offset + perLine + perLine * k = offset + perLine * (k + 1) := by
      intro k
      rw [Nat.mul_succ, Nat.add_assoc, Nat.add_comm perLine]
    rw [linesFrom, if_neg hdata, ih, rowCount_of_ne_nil hdata, List.range_succ_eq_map,
      List.flatMap_cons, List.flatMap_map, List.append_assoc]
    simp only [hchunk, hoffset, Nat.succ_eq_add_one]
    rfl

/-- A dump is its rows, with a line feed behind each of them, and an empty line. -/
lemma toList_text (data : Bytes) :
    (text data).toList = (rows data).flatMap (· ++ ['\n']) ++ ['\n'] := by
  simp only [text, String.toList_ofList, linesFrom_eq, Nat.zero_add, line_eq_row, rows,
    List.flatMap_map]

/-- Not even the dump of no bytes is empty. -/
lemma utf8_text_ne_nil (data : Bytes) : utf8 (text data) ≠ [] := by
  rw [text, utf8_ofList, linesFrom_eq, List.flatMap_append]
  exact List.append_ne_nil_of_right_ne_nil _ (by decide)

/-- The number of rows. -/
lemma length_rows (data : Bytes) : (rows data).length = rowCount data := by
  rw [rows, List.length_map, List.length_range]

/-- The row with a given number shows the bytes of that number. -/
lemma shows_chunk (hdata : data.length ≤ 2 ^ 32) (hk : k < rowCount data) :
    Shows (row (perLine * k) (chunk data k)) (perLine * k) (chunk data k) :=
  shows_row (offset_lt hdata hk) (length_chunk_le data k)

/-- Each row of a dump shows its bytes at its offset. -/
lemma shows_rows (hdata : data.length ≤ 2 ^ 32) (h : k < (rows data).length) :
    Shows (rows data)[k] (perLine * k) (chunk data k) := by
  have hrow : (rows data)[k] = row (perLine * k) (chunk data k) := by
    simp only [rows, List.getElem_map, List.getElem_range]
  rw [hrow]
  exact shows_chunk hdata (length_rows data ▸ h)

/-- All rows of a dump are printable. -/
lemma printable_rows : ∀ row ∈ rows data, ∀ c ∈ row, Text.Printable c := by
  intro row hrow
  obtain ⟨k, -, rfl⟩ := List.mem_map.mp hrow
  exact printable_row _ _

/-- There are no line feeds within rows. -/
lemma newline_not_mem_rows : ∀ row ∈ rows data, '\n' ∉ row := by
  intro row hrow hmem
  exact absurd (printable_rows row hrow '\n' hmem) (by decide)

/-- A dump consists of printable characters and line feeds. -/
lemma printable_text : ∀ c ∈ (text data).toList, Text.Printable c ∨ c = '\n' := by
  rw [toList_text]
  refine List.forall_mem_append.mpr ⟨fun c hc => ?_, List.forall_mem_singleton.mpr (.inr rfl)⟩
  obtain ⟨row, hrow, hmem⟩ := List.mem_flatMap.mp hc
  rcases List.mem_append.mp hmem with hc | hc
  · exact .inl (printable_rows row hrow c hc)
  · exact .inr (List.mem_singleton.mp hc)

/-! ### The length of a dump -/

/-- Lines take 61 characters each besides those that show the bytes, and one more if there is a second
group. -/
lemma length_flatMap_line {numbers : List Nat} (h : ∀ k ∈ numbers, perLine * k < 16 ^ 8) :
    (numbers.flatMap fun k => line (perLine * k) (chunk data k)).length =
      61 * numbers.length + (numbers.flatMap (chunk data)).length +
        numbers.countP fun k => perGroup < (chunk data k).length := by
  induction numbers with
  | nil => rfl
  | cons k numbers ih =>
    obtain ⟨hhead, htail⟩ := List.forall_mem_cons.mp h
    rw [List.flatMap_cons, List.length_append, ih htail, line_eq_row, List.length_append,
      length_row hhead (length_chunk_le data k), List.flatMap_cons, List.length_append,
      List.countP_cons]
    simp only [decide_eq_true_eq, List.length_cons, List.length_nil]
    omega

/-- The number of bytes of a dump. -/
lemma length_utf8_text (hdata : data.length ≤ 2 ^ 32) :
    (utf8 (text data)).length = 61 * rowCount data + data.length + longCount data + 1 := by
  have hascii : ∀ c ∈ linesFrom 0 data, c.toNat < 128 := by
    have hprintable : ∀ c ∈ (text data).toList, _ := printable_text
    rw [text, String.toList_ofList] at hprintable
    intro c hc
    rcases hprintable c hc with hc | rfl
    · exact Nat.lt_of_le_of_lt hc.2 (by decide)
    · decide
  have hoffset : ∀ k ∈ List.range (rowCount data), perLine * k < 16 ^ 8 :=
    fun k hk => offset_lt hdata (List.mem_range.mp hk)
  rw [text, utf8_ofList_of_ascii hascii, List.length_map, linesFrom_eq, List.length_append]
  simp only [Nat.zero_add]
  rw [length_flatMap_line hoffset, List.length_range, flatMap_chunk]
  rfl

/-! ### Reading a dump -/

/-- The bytes that the cells of all lines of a text show. -/
def decode (text : String) : Bytes :=
  (text.toList.splitOn '\n').flatMap readRow

/-- The bytes of a dump are read from it. -/
lemma decode_text (hdata : data.length ≤ 2 ^ 32) : decode (text data) = data := by
  have hlines : (text data).toList = (rows data ++ [[]]).flatMap (· ++ ['\n']) := by
    rw [toList_text, List.flatMap_append, List.flatMap_singleton, List.nil_append]
  have hsplit : (text data).toList.splitOn '\n' = rows data ++ [[]] ++ [[]] := by
    rw [hlines]
    exact splitOn_lines
      (List.forall_mem_append.mpr ⟨newline_not_mem_rows, List.forall_mem_singleton.mpr (by decide)⟩)
  have hread : ∀ k ∈ List.range (rowCount data),
      readRow (row (perLine * k) (chunk data k)) = chunk data k := by
    intro k hk
    exact readRow_of_shows (shows_chunk hdata (List.mem_range.mp hk)) (length_chunk_le data k)
  have hempty : readRow [] = [] := by decide
  rw [decode, hsplit, List.flatMap_append, List.flatMap_append, List.flatMap_singleton, hempty,
    List.append_nil, List.append_nil, rows, List.flatMap_map, List.flatMap_congr hread, flatMap_chunk]

/-! ### All of it together -/

variable {σ φ ω : Type}

open Notify

/-- **A hex dump has a fixed layout and loses nothing.**  It has a row for every sixteen bytes and one for
what is left of them, each ended by a line feed, and an empty line at its end; the rows show their bytes in
fixed columns at their offsets. Reading the cells of all rows gives the bytes back, so that different bytes
have different dumps. A dump is printable ASCII besides its line feeds, and has 61 bytes for every row, one
for every byte that it shows, one for every row with a second group, and one for the empty line: that is
what a verbose stream reports if it can deliver the dump. -/
theorem shows_every_byte (hdata : data.length ≤ 2 ^ 32) :
    let length := 61 * rowCount data + data.length + longCount data + 1
    (∃ rows : List (List Char), rows.length = rowCount data ∧
      (text data).toList = rows.flatMap (· ++ ['\n']) ++ ['\n'] ∧ (∀ row ∈ rows, '\n' ∉ row) ∧
      ∀ k (h : k < rows.length), Shows rows[k] (perLine * k) (chunk data k)) ∧
    decode (text data) = data ∧
    (∀ other, other.length ≤ 2 ^ 32 → text other = text data → other = data) ∧
    (∀ c ∈ (text data).toList, Text.Printable c ∨ c = '\n') ∧
    (utf8 (text data)).length = length ∧
    ∀ (outlets : Outlets σ φ ω) (stream : NotifyStream φ ω) s count, stream.verbose = true →
      ((stream.printData outlets data s).1 = .ok count ↔
        (stream.deliver outlets (utf8 (text data)) s).1 = .ok () ∧ count = length) := by
  intro length
  have hlength : (utf8 (text data)).length = length := length_utf8_text hdata
  refine ⟨⟨rows data, length_rows data, toList_text data, newline_not_mem_rows,
      fun _ h => shows_rows hdata h⟩, decode_text hdata, fun other hother hsame => ?_, printable_text,
    hlength, fun outlets stream s count hverbose => ?_⟩
  · rw [← decode_text hdata, ← hsame, decode_text hother]
  · rw [← hlength]
    exact NotifyStream.emit_ok_iff hverbose

/-- Seventeen bytes take two rows, of which only the first has a second group. -/
theorem shows_seventeen_bytes :
    let data : Bytes := (List.range 17).map UInt8.ofNat
    data.length ≤ 2 ^ 32 ∧ decode (text data) = data ∧ (utf8 (text data)).length = 141 := by
  intro data
  have hdata : data.length ≤ 2 ^ 32 := by decide
  obtain ⟨-, hdecode, -, -, hlength, -⟩ := @shows_every_byte data Unit Unit Unit hdata
  have hcount : 61 * rowCount data + data.length + longCount data + 1 = 141 := by decide
  exact ⟨hdata, hdecode, hlength.trans hcount⟩

/-- Nine bytes, the last of which stands alone in the second group. -/
example : text [0x41, 0x42, 0x43, 0x44, 0x45, 0x46, 0x00, 0x48, 0x49] =
    "00000000: 41 42 43 44 45 46 00 48  49                       ABCDEF.H I\n\n" := by
  rw [text, linesFrom_eq]
  decide

end PrefetchInfo.HexDump
