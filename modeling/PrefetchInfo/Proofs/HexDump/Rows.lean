import Mathlib.Data.List.Forall2
import PrefetchInfo.HexDump
import PrefetchInfo.Proofs.Text.Hexadecimal

/-!
# The rows of a hex dump

A row of a dump has fixed columns: the offset, sixteen cells in two groups, and the bytes as characters.
`Shows` tells what stands in which column. The bytes of a row can be read back from its cells.
-/

namespace PrefetchInfo.HexDump

variable {chunk group : Bytes} {offset i : Nat} {byte : UInt8} {columns : List Char}

/-! ### The columns -/

/-- The column in which a cell begins: behind the offset, and behind a blank if the cell is one of the
second group. -/
def column (i : Nat) : Nat :=
  10 + 3 * i + if i < perGroup then 0 else 1

/-- The cell for a byte, or the cell behind the last byte. -/
def IsCell (cell : List Char) : Option UInt8 → Prop
  | some byte => ∃ first second, cell = [first, second, ' '] ∧
      Text.hexNumber? [first, second] = some byte.toNat
  | none => cell = [' ', ' ', ' ']

/-- The character for a byte: the one with the number of the byte, if that is one from 0x20 to 0x7e, and a
point for any other byte. -/
def IsCharacter (c : Char) (byte : UInt8) : Prop :=
  if 0x20 ≤ byte.toNat ∧ byte.toNat ≤ 0x7e then c.toNat = byte.toNat else c = '.'

/-- The characters for bytes: one for each byte, and a blank behind those of the first group just if there
are more. -/
def AreCharacters (columns : List Char) (chunk : Bytes) : Prop :=
  ∃ first second, columns = first ++ (if perGroup < chunk.length then [' '] else []) ++ second ∧
    List.Forall₂ IsCharacter first (chunk.take perGroup) ∧
    List.Forall₂ IsCharacter second (chunk.drop perGroup)

/-- The columns of a row show `chunk` at `offset`. -/
structure Shows (columns : List Char) (offset : Nat) (chunk : Bytes) : Prop where
  /-- The offset takes eight columns. -/
  length_offset : (columns.take 8).length = 8
  /-- These are small hexadecimal digits, and the number they stand for is the offset. -/
  offset_eq : Text.hexNumber? (columns.take 8) = some offset
  /-- A colon and a blank follow. -/
  colon : (columns.drop 8).take 2 = [':', ' ']
  /-- There are sixteen cells, which show the bytes and are blank where there is none. -/
  cell : ∀ i < perLine, IsCell ((columns.drop (column i)).take 3) chunk[i]?
  /-- A blank separates the groups of cells. -/
  between : columns[34]? = some ' '
  /-- Another blank stands behind the cells. -/
  behind : columns[59]? = some ' '
  /-- All the rest are the characters for the bytes. -/
  characters : AreCharacters (columns.drop 60) chunk

/-! ### Cells -/

/-- A byte and the blank behind it take three characters. -/
lemma length_cell (byte : UInt8) : (cell byte).length = 3 := by
  rw [cell, List.length_append, Text.length_zeroFilled (by decide) byte.toNat_lt]
  rfl

/-- A byte is shown in a cell. -/
lemma isCell_cell (byte : UInt8) : IsCell (cell byte) (some byte) := by
  obtain ⟨first, second, hdigits⟩ :=
    List.length_eq_two.mp (Text.length_zeroFilled (by decide) byte.toNat_lt)
  refine ⟨first, second, ?_, ?_⟩
  · rw [cell, hdigits]
    rfl
  · rw [← hdigits, Text.hexNumber?_zeroFilled]

/-- Bytes take three characters each. -/
lemma length_flatMap_cell (group : Bytes) : (group.flatMap cell).length = 3 * group.length := by
  rw [List.length_flatMap, List.map_congr_left fun byte _ => length_cell byte, List.map_const',
    List.sum_replicate_nat, Nat.mul_comm]

/-- A group of bytes takes as many characters as a whole one. -/
lemma length_cells (hgroup : group.length ≤ perGroup) : (cells group).length = 3 * perGroup := by
  rw [cells, List.length_append, length_flatMap_cell, List.length_replicate]
  omega

/-- A byte is found in the cell of its place. -/
lemma take_drop_flatMap_cell (h : group[i]? = some byte) (rest : List Char) :
    ((group.flatMap cell ++ rest).drop (3 * i)).take 3 = cell byte := by
  induction group generalizing i with
  | nil => cases h
  | cons first group ih =>
    rw [List.flatMap_cons, List.append_assoc]
    cases i with
    | zero =>
      obtain rfl : first = byte := Option.some.inj h
      exact List.take_left' (length_cell first)
    | succ i =>
      rw [Nat.mul_succ, Nat.add_comm, ← List.drop_drop, List.drop_left' (length_cell first)]
      exact ih h

/-- Each place of a group has its cell. -/
lemma isCell_cells (hgroup : group.length ≤ perGroup) (hi : i < perGroup) (rest : List Char) :
    IsCell (((cells group ++ rest).drop (3 * i)).take 3) group[i]? := by
  rcases hbyte : group[i]? with _ | byte
  · have hle : group.length ≤ i := List.getElem?_eq_none_iff.mp hbyte
    have hsplit : 3 * i = 3 * group.length + 3 * (i - group.length) := by omega
    have hblank : 3 * (i - group.length) ≤ 3 * (perGroup - group.length) := by omega
    have hroom : 3 ≤ 3 * (perGroup - group.length) - 3 * (i - group.length) := by omega
    change _ = List.replicate 3 ' '
    rw [cells, List.append_assoc, hsplit, ← List.drop_drop,
      List.drop_left' (length_flatMap_cell group),
      List.drop_append_of_le_length (by rwa [List.length_replicate]), List.drop_replicate,
      List.take_append_of_le_length (by rwa [List.length_replicate]), List.take_replicate,
      Nat.min_eq_left hroom]
  · rw [cells, List.append_assoc, take_drop_flatMap_cell hbyte]
    exact isCell_cell byte

/-! ### Characters -/

/-- A byte is shown as the character for it. -/
lemma isCharacter_shown (byte : UInt8) : IsCharacter (shown byte) byte := by
  unfold IsCharacter
  split
  · rename_i hprintable
    have hvalid : byte.toNat.isValidChar := .inl (Nat.lt_trans byte.toNat_lt (by decide))
    have hshown : shown byte = Char.ofNat byte.toNat := if_pos hprintable
    rw [hshown, Char.ofNat, dif_pos hvalid]
    rfl
  · rename_i hprintable
    exact if_neg hprintable

/-- The characters for bytes, group by group. -/
lemma forall₂_isCharacter_shown (group : Bytes) :
    List.Forall₂ IsCharacter (group.map shown) group := by
  rw [List.forall₂_map_left_iff, List.forall₂_same]
  exact fun byte _ => isCharacter_shown byte

/-- There are as many characters as bytes, and one more if there is a second group. -/
lemma AreCharacters.length_eq (h : AreCharacters columns chunk) :
    columns.length = chunk.length + if perGroup < chunk.length then 1 else 0 := by
  obtain ⟨first, second, rfl, hfirst, hsecond⟩ := h
  rw [List.length_append, List.length_append, hfirst.length_eq, hsecond.length_eq, List.length_take,
    List.length_drop]
  split <;> simp only [List.length_cons, List.length_nil] <;> omega

/-! ### Rows -/

/-- A line of a dump without the line feed at its end. -/
def row (offset : Nat) (chunk : Bytes) : List Char :=
  (line offset chunk).dropLast

/-- A line is a row and a line feed. -/
lemma line_eq_row (offset : Nat) (chunk : Bytes) : line offset chunk = row offset chunk ++ ['\n'] := by
  rw [row, line, List.dropLast_concat]

/-- What a row consists of, from left to right. -/
lemma row_eq (offset : Nat) (chunk : Bytes) :
    row offset chunk = Text.zeroFilled 8 (Text.hexDigits offset) ++ ([':', ' '] ++
      (cells (chunk.take perGroup) ++ ([' '] ++ (cells (chunk.drop perGroup) ++ ([' '] ++
        ((chunk.take perGroup).map shown ++ (if perGroup < chunk.length then [' '] else []) ++
          (chunk.drop perGroup).map shown)))))) := by
  have hsecond : (if chunk.drop perGroup = [] then [] else [' ']) =
      if perGroup < chunk.length then [' '] else [] := by
    simp only [List.drop_eq_nil_iff, ← Nat.not_lt, ite_not]
  rw [row, line, List.dropLast_concat, hsecond]
  simp only [List.append_assoc]

/-- What is left of characters behind a part of them. -/
lemma drop_behind {chars front rest : List Char} {m n : Nat} (h : chars.drop m = front ++ rest)
    (hlength : m + front.length = n) : chars.drop n = rest := by
  rw [← hlength, ← List.drop_drop, h, List.drop_left]

/-- **A row shows its bytes at its offset.** -/
lemma shows_row (hoffset : offset < 16 ^ 8) (hchunk : chunk.length ≤ perLine) :
    Shows (row offset chunk) offset chunk := by
  have hdigits : (Text.zeroFilled 8 (Text.hexDigits offset)).length = 8 :=
    Text.length_zeroFilled (by decide) hoffset
  have htake : (chunk.take perGroup).length ≤ perGroup := List.length_take_le _ _
  have hdrop : (chunk.drop perGroup).length ≤ perGroup := by
    rw [List.length_drop]
    exact Nat.sub_le_of_le_add hchunk
  -- What is left of the row behind each of its parts.
  have h0 : (row offset chunk).drop 0 = _ := row_eq offset chunk
  have h8 := drop_behind h0 (n := 8) (by rw [hdigits])
  have h10 := drop_behind h8 (n := 10) rfl
  have h34 := drop_behind h10 (n := 34) (by rw [length_cells htake]; rfl)
  have h35 := drop_behind h34 (n := 35) rfl
  have h59 := drop_behind h35 (n := 59) (by rw [length_cells hdrop]; rfl)
  have h60 := drop_behind h59 (n := 60) rfl
  refine ⟨?_, ?_, ?_, fun i hi => ?_, ?_, ?_,
    ⟨_, _, h60, forall₂_isCharacter_shown _, forall₂_isCharacter_shown _⟩⟩
  · rw [row_eq, List.take_left' hdigits, hdigits]
  · rw [row_eq, List.take_left' hdigits, Text.hexNumber?_zeroFilled]
  · rw [h8]
    rfl
  · rcases Nat.lt_or_ge i perGroup with hfirst | hsecond
    · rw [column, if_pos hfirst, Nat.add_zero, ← List.drop_drop, h10,
        ← List.getElem?_take_of_lt hfirst]
      exact isCell_cells htake hfirst _
    · have hplace : i - perGroup < perGroup := Nat.sub_lt_right_of_lt_add hsecond hi
      have hcolumn : column i = 35 + 3 * (i - perGroup) := by
        rw [column, if_neg (Nat.not_lt.mpr hsecond)]
        simp only [perGroup] at hsecond ⊢
        omega
      have hbyte : chunk[i]? = (chunk.drop perGroup)[i - perGroup]? := by
        rw [List.getElem?_drop, Nat.add_sub_cancel' hsecond]
      rw [hcolumn, ← List.drop_drop, h35, hbyte]
      exact isCell_cells hdrop hplace _
  · rw [← List.head?_drop, h34]
    rfl
  · rw [← List.head?_drop, h59]
    rfl

/-- How long a row is. -/
lemma length_row (hoffset : offset < 16 ^ 8) (hchunk : chunk.length ≤ perLine) :
    (row offset chunk).length = 60 + chunk.length + if perGroup < chunk.length then 1 else 0 := by
  have hrest := (shows_row hoffset hchunk).characters.length_eq
  have hlong : 59 < (row offset chunk).length :=
    (List.getElem?_eq_some_iff.mp (shows_row hoffset hchunk).behind).1
  rw [List.length_drop] at hrest
  omega

/-! ### Printable characters -/

open Text (Printable)

/-- The character for a byte is printable. -/
lemma IsCharacter.printable {c : Char} (h : IsCharacter c byte) : Printable c := by
  unfold IsCharacter at h
  split at h
  · rename_i hprintable
    rw [Printable, h]
    exact hprintable
  · rw [h]
    decide

/-- Blanks are printable. -/
lemma printable_blank : Printable ' ' := by
  decide

/-- Cells are printable. -/
lemma printable_cells (group : Bytes) : ∀ c ∈ cells group, Printable c := by
  have hcell : ∀ byte, ∀ c ∈ cell byte, Printable c := fun byte => List.forall_mem_append.mpr
    ⟨Text.printable_zeroFilled 2 byte.toNat, List.forall_mem_singleton.mpr printable_blank⟩
  refine List.forall_mem_append.mpr ⟨fun c hc => ?_, fun c hc => ?_⟩
  · obtain ⟨byte, -, hmem⟩ := List.mem_flatMap.mp hc
    exact hcell byte c hmem
  · rw [List.eq_of_mem_replicate hc]
    exact printable_blank

/-- Rows are printable. -/
lemma printable_row (offset : Nat) (chunk : Bytes) : ∀ c ∈ row offset chunk, Printable c := by
  have hshown : ∀ group : Bytes, ∀ c ∈ group.map shown, Printable c := by
    intro group c hc
    obtain ⟨byte, -, rfl⟩ := List.mem_map.mp hc
    exact (isCharacter_shown byte).printable
  have hblank : ∀ c ∈ [' '], Printable c := List.forall_mem_singleton.mpr printable_blank
  have hbehind : ∀ c ∈ if perGroup < chunk.length then [' '] else [], Printable c := by
    split
    · exact hblank
    · exact List.forall_mem_nil _
  have hcolon : ∀ c ∈ [':', ' '], Printable c := List.forall_mem_cons.mpr ⟨by decide, hblank⟩
  rw [row_eq]
  simp only [List.forall_mem_append]
  exact ⟨Text.printable_zeroFilled 8 offset, hcolon, printable_cells _, hblank, printable_cells _,
    hblank, ⟨hshown _, hbehind⟩, hshown _⟩

/-! ### Reading a row -/

/-- The byte that a cell shows, if it shows one. -/
def byteOf? : List Char → Option UInt8
  | [first, second, ' '] => (Text.hexNumber? [first, second]).map UInt8.ofNat
  | _ => none

/-- The bytes that the cells of a row show. -/
def readRow (columns : List Char) : Bytes :=
  (List.range perLine).filterMap fun i => byteOf? ((columns.drop (column i)).take 3)

/-- What a cell shows is read from it. -/
lemma byteOf?_of_isCell {cell : List Char} {byte? : Option UInt8} (h : IsCell cell byte?) :
    byteOf? cell = byte? := by
  cases byte? with
  | none =>
    rw [show cell = [' ', ' ', ' '] from h]
    rfl
  | some byte =>
    obtain ⟨first, second, rfl, hnumber⟩ := h
    rw [byteOf?, hnumber, Option.map_some, UInt8.ofNat_toNat]

/-- A list is what is found at its places, and nothing is found behind them. -/
lemma filterMap_getElem?_range {α : Type} {count : Nat} {list : List α} (h : list.length ≤ count) :
    (List.range count).filterMap (list[·]?) = list := by
  induction list generalizing count with
  | nil => exact List.filterMap_eq_nil_iff.mpr fun _ _ => rfl
  | cons first list ih =>
    obtain ⟨count, rfl⟩ := Nat.exists_eq_add_of_lt (Nat.lt_of_lt_of_le (Nat.zero_lt_succ _) h)
    rw [Nat.zero_add] at h ⊢
    have hfirst : (first :: list)[0]? = some first := rfl
    rw [List.range_succ_eq_map, List.filterMap_cons_some hfirst, List.filterMap_map]
    exact congrArg (first :: ·) (ih (Nat.le_of_succ_le_succ h))

/-- **The bytes that a row shows are read from it.** -/
lemma readRow_of_shows (h : Shows columns offset chunk) (hchunk : chunk.length ≤ perLine) :
    readRow columns = chunk := by
  have hcells : ∀ i ∈ List.range perLine,
      byteOf? ((columns.drop (column i)).take 3) = chunk[i]? :=
    fun i hi => byteOf?_of_isCell (h.cell i (List.mem_range.mp hi))
  rw [readRow, List.filterMap_congr hcells, filterMap_getElem?_range hchunk]

end PrefetchInfo.HexDump
