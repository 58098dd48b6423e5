import Mathlib.Tactic.IntervalCases
import Mathlib.Tactic.Lemma
import PrefetchInfo.Codepage.Name

/-!
# What is found in the tables of codepages

Every codepage has a number of its own. So a part of ISO 8859 is found in its table just by the number
of the part, and a codepage of Windows just by its number as a codepage.
-/

namespace PrefetchInfo.Codepage

variable {codepage : Codepage} {part value : Nat} {word : UInt32}

/-- A codepage is found by its number. -/
lemma ofNumber?_number (codepage : Codepage) : ofNumber? codepage.number = some codepage := by
  cases codepage <;> rfl

/-- No two codepages have the same number. -/
lemma number_injective : Function.Injective number := by
  intro codepage other h
  have hfound := ofNumber?_number other
  rw [← h, ofNumber?_number] at hfound
  exact Option.some.inj hfound

/-- The same as a natural number. -/
lemma eq_of_number_toNat_eq {other : Codepage}
    (h : codepage.number.toNat = other.number.toNat) : codepage = other :=
  number_injective (UInt32.toNat_inj.mp h)

/-- A word has a value just if the value fits into a word, and the word is the one with that value. -/
lemma toNat_eq_iff : word.toNat = value ↔ value < UInt32.size ∧ word = UInt32.ofNat value := by
  constructor
  · rintro rfl
    exact ⟨word.toNat_lt_size, UInt32.ofNat_toNat.symm⟩
  · rintro ⟨hfits, rfl⟩
    exact UInt32.toNat_ofNat_of_lt' hfits

/-- The supported parts of ISO 8859 are those from 1 to 16 less 12, and each has the number of its
part as a codepage. -/
lemma exists_lookup_isoParts (hpos : 1 ≤ part) (hle : part ≤ 16) (hne : part ≠ 12) :
    ∃ found, isoParts.lookup part = some found ∧ found.number.toNat = 28590 + part := by
  interval_cases part
  case «12» => exact absurd rfl hne
  all_goals exact ⟨_, rfl, rfl⟩

/-- A part of ISO 8859 is found by its number as a part, which is one from 1 to 16 but not 12. -/
lemma lookup_isoParts_eq_some_iff :
    isoParts.lookup part = some codepage ↔
      1 ≤ part ∧ part ≤ 16 ∧ part ≠ 12 ∧ codepage.number.toNat = 28590 + part := by
  constructor
  · intro h
    obtain ⟨before, after, htable, -⟩ := List.lookup_eq_some_iff.mp h
    have hmem : (part, codepage) ∈ isoParts := by
      rw [htable]
      exact List.mem_append_right before List.mem_cons_self
    have htable : ∀ entry ∈ isoParts, 1 ≤ entry.1 ∧ entry.1 ≤ 16 ∧ entry.1 ≠ 12 ∧
        entry.2.number.toNat = 28590 + entry.1 := by decide
    exact htable _ hmem
  · rintro ⟨hpos, hle, hne, hnumber⟩
    obtain ⟨found, hlookup, hfound⟩ := exists_lookup_isoParts hpos hle hne
    rw [hlookup, eq_of_number_toNat_eq (hfound.trans hnumber.symm)]

/-- A codepage of Windows is found by its number. -/
lemma find?_windowsPages_eq_some_iff :
    (windowsPages.find? fun page => page.number = word) = some codepage ↔
      codepage ∈ windowsPages ∧ codepage.number = word := by
  constructor
  · intro h
    have hnumber := List.find?_some h
    exact ⟨List.mem_of_find?_eq_some h, of_decide_eq_true hnumber⟩
  · rintro ⟨hmem, hnumber⟩
    have hsome : (windowsPages.find? fun page => page.number = word).isSome = true :=
      List.find?_isSome.mpr ⟨codepage, hmem, decide_eq_true hnumber⟩
    obtain ⟨found, hfound⟩ := Option.isSome_iff_exists.mp hsome
    have hword := List.find?_some hfound
    have hsame : found.number = codepage.number := (of_decide_eq_true hword).trans hnumber.symm
    rw [hfound, number_injective hsame]

end PrefetchInfo.Codepage
