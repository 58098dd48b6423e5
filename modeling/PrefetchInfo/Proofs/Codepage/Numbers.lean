import Mathlib
import PrefetchInfo.Proofs.Codepage.Naming
import PrefetchInfo.Proofs.Codepage.Spelling

/-!
# Names and numbers of codepages

A codepage can be looked up by its number as a word of the machine, or by a name that ends with a number in
decimal digits, of whatever size. Both ways lead to the same codepage: a name finds a codepage just if the
number that it stands for is a word and finds it too.
-/

namespace PrefetchInfo.Codepage

variable {codepage : Codepage} {number : UInt32} {value part : Nat}

/-! ### Numbers -/

/-- A codepage is found by its number and by no other. -/
lemma ofNumber?_eq_some_iff : ofNumber? number = some codepage ↔ codepage.number = number := by
  constructor
  · intro h
    unfold ofNumber? at h
    split_ifs at h with hascii hkoi8R hkoi8U hiso
    · rw [hascii, ← Option.some.inj h]
      rfl
    · rw [hkoi8R, ← Option.some.inj h]
      rfl
    · rw [hkoi8U, ← Option.some.inj h]
      rfl
    · have hfound := List.find?_some h
      exact of_decide_eq_true hfound
    · have hfound := List.find?_some h
      exact of_decide_eq_true hfound
  · rintro rfl
    exact ofNumber?_number codepage

/-- A codepage has a number just if that is a word and the codepage is found by it. -/
lemma number_toNat_eq_iff :
    codepage.number.toNat = value ↔
      value < UInt32.size ∧ ofNumber? (UInt32.ofNat value) = some codepage := by
  rw [ofNumber?_eq_some_iff, toNat_eq_iff]

/-- No codepage has a number from 28590 on but those of ISO 8859, which have them up to 28606 with 28602
left out. -/
lemma part_of_number (h : codepage.number.toNat = 28590 + part) :
    1 ≤ part ∧ part ≤ 16 ∧ part ≠ 12 := by
  have hrange : ∀ page : Codepage, 28590 ≤ page.number.toNat →
      28591 ≤ page.number.toNat ∧ page.number.toNat ≤ 28606 ∧ page.number.toNat ≠ 28602 := by
    intro page
    cases page <;> decide
  have hpart := hrange codepage (by omega)
  omega

/-! ### Names that end with a number -/

/-- A name is read as a codepage just if it is a name of that codepage. -/
lemma ofName_eq_ok_iff {name : String} : ofName name = .ok codepage ↔ ofName? name = some codepage := by
  unfold ofName
  split
  · rename_i hfound
    rw [hfound, Except.ok.injEq, Option.some.injEq]
  · rename_i hnone
    rw [hnone]
    exact iff_of_false (fun h => nomatch h) (fun h => nomatch h)

/-- Decimal digits are the same in small letters. -/
lemma map_toLower_toDigits (n : Nat) :
    (Nat.toDigits 10 n).map Char.toLower = Nat.toDigits 10 n := by
  have hdenotes : Denotes (Nat.toDigits 10 n) n := denotes_toDigits_iff.mpr rfl
  refine (List.map_congr_left fun c hc => ?_).trans (List.map_id _)
  exact Char.toLower_eq_of_not_isUpper (by simp [hdenotes.isUpper_eq_false c hc])

/-- A word in small letters and a number behind it are read as what they are. -/
lemma ofName?_append_repr {word : String} (hword : word.toList.map Char.toLower = word.toList)
    (n : Nat) : ofName? (word ++ Nat.repr n) = ofLowerCase? (word.toList ++ Nat.toDigits 10 n) := by
  rw [ofName?, String.toList_append, Nat.toList_repr, List.map_append, hword, map_toLower_toDigits]

/-- What decimal digits are looked up as is what is found by a word with the value that they show. -/
lemma bind_decimal?_toDigits_eq_some_iff {lookup : UInt32 → Option Codepage} :
    (decimal? (Nat.toDigits 10 value)).bind lookup = some codepage ↔
      ∃ word, word.toNat = value ∧ lookup word = some codepage := by
  simp only [Option.bind_eq_some_iff, decimal?_eq_some_iff, denotes_toDigits_iff]

/-- A part of ISO 8859 is found by its number in the name, counted from 28590 on. -/
lemma ofName?_iso_eq_some_iff :
    ofName? ("iso-8859-" ++ Nat.repr part) = some codepage ↔
      codepage.number.toNat = 28590 + part := by
  have hread : ofLowerCase? ("iso-8859-".toList ++ Nat.toDigits 10 part) =
      (decimal? (Nat.toDigits 10 part)).bind fun word => isoParts.lookup word.toNat := rfl
  rw [ofName?_append_repr rfl, hread, bind_decimal?_toDigits_eq_some_iff]
  constructor
  · rintro ⟨word, rfl, hlookup⟩
    exact (lookup_isoParts_eq_some_iff.mp hlookup).2.2.2
  · intro hnumber
    obtain ⟨hpos, hle, hne⟩ := part_of_number hnumber
    have hword : (UInt32.ofNat part).toNat = part :=
      UInt32.toNat_ofNat_of_lt' (Nat.lt_of_le_of_lt hle (by decide))
    refine ⟨UInt32.ofNat part, hword, ?_⟩
    rw [hword]
    exact lookup_isoParts_eq_some_iff.mpr ⟨hpos, hle, hne, hnumber⟩

/-- A codepage of Windows is found by its number in the name. -/
lemma ofName?_windows_eq_some_iff :
    ofName? ("windows-" ++ Nat.repr value) = some codepage ↔
      codepage.number.toNat = value ∧ codepage ∈ windowsPages := by
  have hread : ofLowerCase? ("windows-".toList ++ Nat.toDigits 10 value) =
      (decimal? (Nat.toDigits 10 value)).bind fun word =>
        windowsPages.find? fun page => page.number = word := rfl
  rw [ofName?_append_repr rfl, hread, bind_decimal?_toDigits_eq_some_iff]
  simp only [find?_windowsPages_eq_some_iff]
  constructor
  · rintro ⟨word, rfl, hmem, rfl⟩
    exact ⟨rfl, hmem⟩
  · rintro ⟨rfl, hmem⟩
    exact ⟨codepage.number, rfl, hmem, rfl⟩

/-! ### Both lookups -/

/-- **The lookups by name and by number agree.**  A codepage is found by its number and by no other. A name
of a part of ISO 8859 with any number as its part is read as the codepage just if the number of the part,
counted from 28590 on, is a word that the codepage is found by; a name of a codepage of Windows with any
number is read as the codepage just if that is a word that the codepage is found by, and the codepage is one
of Windows, which are all but US-ASCII, KOI8 and those of ISO 8859. From whatever text the codepage has been
read, it is read again from the name that it is shown with. -/
theorem lookups_agree (codepage : Codepage) :
    (∀ number, ofNumber? number = some codepage ↔ codepage.number = number) ∧
    (∀ part : Nat, ofName ("iso-8859-" ++ Nat.repr part) = .ok codepage ↔
      28590 + part < UInt32.size ∧ ofNumber? (UInt32.ofNat (28590 + part)) = some codepage) ∧
    (∀ value : Nat, ofName ("windows-" ++ Nat.repr value) = .ok codepage ↔
      value < UInt32.size ∧ ofNumber? (UInt32.ofNat value) = some codepage ∧
        codepage ∈ windowsPages) ∧
    (codepage ∈ windowsPages ↔ codepage ∉ ascii :: koi8R :: koi8U :: isoParts.map Prod.snd) ∧
    ofName codepage.name = .ok codepage := by
  refine ⟨fun number => ofNumber?_eq_some_iff, fun part => ?_, fun value => ?_, ?_, ?_⟩
  · rw [ofName_eq_ok_iff, ofName?_iso_eq_some_iff, number_toNat_eq_iff]
  · rw [ofName_eq_ok_iff, ofName?_windows_eq_some_iff, number_toNat_eq_iff, and_assoc]
  · cases codepage <;> decide
  · rw [ofName_eq_ok_iff]
    exact ofName?_name codepage

-- A number that is too large for a word finds nothing, although the word that is left of it would.
example :
    (ofName? "windows-4294968548", ofNumber? (UInt32.ofNat 4294968548)) = (none, some windows1252) := by
  decide

end PrefetchInfo.Codepage
