import Mathlib.Tactic.Lemma
import PrefetchInfo.Text.Bytes

/-!
# Lines of text as bytes

The bytes of a text are those of its characters. A byte of the ASCII range stands for the character with
its number and is no part of any other, so that text can be taken apart at its line feeds as bytes as well
as characters.
-/

namespace PrefetchInfo

/-! ### Characters as bytes -/

/-- The bytes of characters are those of each of them, one after the other. -/
lemma utf8_ofList (chars : List Char) :
    utf8 (String.ofList chars) = chars.flatMap String.utf8EncodeChar := by
  rw [utf8, String.toByteArray_ofList, List.utf8Encode, List.data_toByteArray]

/-- The bytes of a text are those of its characters, one after the other. -/
lemma utf8_eq_flatMap (text : String) : utf8 text = text.toList.flatMap String.utf8EncodeChar := by
  rw [← utf8_ofList, String.ofList_toList]

/-- A character of the ASCII range is a single byte. -/
lemma utf8EncodeChar_of_ascii {c : Char} (h : c.toNat < 128) : String.utf8EncodeChar c = [ascii c] := by
  have hle : c.val.toNat ≤ 0x7f := Nat.le_of_lt_succ h
  rw [String.utf8EncodeChar, if_pos hle]
  rfl

/-- Characters of the ASCII range are as many bytes. -/
lemma utf8_ofList_of_ascii {chars : List Char} (h : ∀ c ∈ chars, c.toNat < 128) :
    utf8 (String.ofList chars) = chars.map ascii := by
  rw [utf8_ofList]
  induction chars with
  | nil => rfl
  | cons c chars ih =>
    obtain ⟨hhead, htail⟩ := List.forall_mem_cons.mp h
    rw [List.flatMap_cons, utf8EncodeChar_of_ascii hhead, ih htail]
    rfl

/-- Bytes as characters of the ASCII range. -/
def asciiChars (bytes : Bytes) : List Char :=
  bytes.map fun byte => Char.ofNat byte.toNat

/-- Characters of the ASCII range are found again in their bytes. -/
lemma asciiChars_utf8 {text : String} (h : ∀ c ∈ text.toList, c.toNat < 128) :
    asciiChars (utf8 text) = text.toList := by
  rw [← String.ofList_toList (s := text), String.toList_ofList, utf8_ofList_of_ascii h, asciiChars,
    List.map_map]
  refine (List.map_congr_left fun c hc => ?_).trans (List.map_id _)
  have hbyte : (ascii c).toNat = c.toNat :=
    UInt8.toNat_ofNat_of_lt' (Nat.lt_trans (h c hc) (by decide))
  simp only [Function.comp_apply, hbyte, Char.ofNat_toNat, id]

/-- A byte of the ASCII range is among the bytes of a character just if it has the number of that
character. -/
lemma mem_utf8EncodeChar_iff {byte : UInt8} (hascii : byte.toNat < 128) {c : Char} :
    byte ∈ String.utf8EncodeChar c ↔ c.toNat = byte.toNat := by
  -- All bytes of a character that takes several are at least 128.
  have hhigh : ∀ {n : Nat}, 128 ≤ n → n < 256 → byte ≠ UInt8.ofNat n := by
    rintro n hlow hlt rfl
    rw [UInt8.toNat_ofNat_of_lt' hlt] at hascii
    omega
  by_cases hsmall : c.toNat < 128
  · rw [utf8EncodeChar_of_ascii hsmall, List.mem_singleton, ← UInt8.toNat_inj, ascii,
      UInt8.toNat_ofNat_of_lt' (Nat.lt_trans hsmall (by decide)), eq_comm]
  · have hlarge : ¬c.val.toNat ≤ 0x7f := fun hle => hsmall (Nat.lt_succ_of_le hle)
    refine iff_of_false (fun hmem => ?_) (by omega)
    rw [String.utf8EncodeChar, if_neg hlarge] at hmem
    split at hmem
    · simp only [List.mem_cons, List.not_mem_nil, or_false] at hmem
      rcases hmem with h | h <;> exact hhigh (by omega) (by omega) h
    · split at hmem
      · simp only [List.mem_cons, List.not_mem_nil, or_false] at hmem
        rcases hmem with h | h | h <;> exact hhigh (by omega) (by omega) h
      · simp only [List.mem_cons, List.not_mem_nil, or_false] at hmem
        rcases hmem with h | h | h | h <;> exact hhigh (by omega) (by omega) h

/-- There are line feeds among the bytes of a text just if there are among its characters. -/
lemma newline_mem_utf8_iff {text : String} : newline ∈ utf8 text ↔ '\n' ∈ text.toList := by
  have hnewline : ∀ {c : Char}, newline ∈ String.utf8EncodeChar c ↔ c = '\n' := by
    intro c
    rw [mem_utf8EncodeChar_iff (by decide), ← Char.toNat_inj]
    rfl
  simp only [utf8_eq_flatMap, List.mem_flatMap, hnewline, exists_eq_right]

/-- A line feed is a single byte. -/
lemma utf8_newline : utf8 "\n" = [newline] :=
  utf8_ofList ['\n']

/-- A text takes a single line, in characters of the ASCII range. -/
def Inline (text : String) : Prop :=
  ∀ c ∈ text.toList, c.toNat < 128 ∧ c ≠ '\n'

-- Only the characters of the text are looked at; the instance for all characters does not compute.
instance (text : String) : Decidable (Inline text) :=
  List.decidableBAll (fun c : Char => c.toNat < 128 ∧ c ≠ '\n') text.toList

/-- Texts on the same line are one. -/
lemma Inline.append {text more : String} (htext : Inline text) (hmore : Inline more) :
    Inline (text ++ more) := by
  intro c hc
  rw [String.toList_append] at hc
  exact (List.mem_append.mp hc).elim (htext c) (hmore c)

/-- A number in decimal digits takes a single line. -/
lemma inline_repr (n : Nat) : Inline (Nat.repr n) := by
  intro c hc
  rw [Nat.toList_repr] at hc
  have hdigit : c.isDigit = true := Nat.isDigit_of_mem_toDigits (by decide) (by decide) hc
  rw [Char.isDigit, Bool.and_eq_true, decide_eq_true_eq, decide_eq_true_eq] at hdigit
  have hlast : c.toNat ≤ 57 := hdigit.2
  refine ⟨Nat.lt_of_le_of_lt hlast (by decide), ?_⟩
  rintro rfl
  exact absurd hdigit.1 (by decide)

/-! ### Taking text apart at line feeds -/

/-- Lines with a separator behind each of them are found again between the separators, and nothing behind
the last one. -/
lemma splitOn_lines {α : Type} [BEq α] [LawfulBEq α] {separator : α} {lines : List (List α)}
    (h : ∀ line ∈ lines, separator ∉ line) :
    (lines.flatMap (· ++ [separator])).splitOn separator = lines ++ [[]] := by
  induction lines with
  | nil => exact List.splitOn_nil separator
  | cons line lines ih =>
    obtain ⟨hhead, htail⟩ := List.forall_mem_cons.mp h
    rw [List.flatMap_cons, List.append_assoc, List.singleton_append,
      List.splitOn_append_cons_self_of_not_mem hhead, ih htail, List.cons_append]

end PrefetchInfo
