import Mathlib.Algebra.Group.Nat.Defs
import Mathlib.Tactic.Lemma
import PrefetchInfo.Text.Quoted

/-!
# Reading hexadecimal numbers

Numbers are written in small hexadecimal digits, and filled up with zeros on the left where they stand in
columns. Reading them takes small digits only, and gives the number that was written.
-/

namespace PrefetchInfo.Text

/-- The value of a small hexadecimal digit. -/
def digitValue? (c : Char) : Option Nat :=
  if '0' ≤ c ∧ c ≤ '9' then some (c.toNat - '0'.toNat)
  else if 'a' ≤ c ∧ c ≤ 'f' then some (10 + (c.toNat - 'a'.toNat))
  else none

/-- Reads digits behind a number whose digits were read before. -/
def readDigits? (value : Nat) (digits : List Char) : Option Nat :=
  digits.foldlM (fun value digit => (digitValue? digit).map (16 * value + ·)) value

/-- The number written in small hexadecimal digits. -/
def hexNumber? (digits : List Char) : Option Nat :=
  readDigits? 0 digits

variable {digits : List Char} {value width n : Nat}

/-- A digit is read with the value it was written for. -/
lemma digitValue?_digitChar : ∀ {d : Nat}, d < 16 → digitValue? (Nat.digitChar d) = some d := by
  decide

/-- More digits are read behind the ones before. -/
lemma readDigits?_append (value : Nat) (digits more : List Char) :
    readDigits? value (digits ++ more) = (readDigits? value digits).bind (readDigits? · more) :=
  List.foldlM_append

/-- One more digit counts for its value, and sixteenfold all before it. -/
lemma readDigits?_singleton {digit : Char} {d : Nat} (h : digitValue? digit = some d) (value : Nat) :
    readDigits? value [digit] = some (16 * value + d) := by
  rw [readDigits?, List.foldlM_cons, h]
  rfl

/-- Zeros on the left do not count. -/
lemma readDigits?_zeros (count : Nat) : readDigits? 0 (List.replicate count '0') = some 0 := by
  induction count with
  | zero => rfl
  | succ count ih => exact ih

/-- A number is read as it was written. -/
lemma hexNumber?_hexDigits (n : Nat) : hexNumber? (hexDigits n) = some n := by
  induction n using Nat.strongRecOn with
  | ind n ih =>
    rw [hexNumber?, hexDigits, Nat.toDigits_eq_if (by decide)]
    split
    · rename_i hlt
      rw [readDigits?_singleton (digitValue?_digitChar hlt), Nat.mul_zero, Nat.zero_add]
    · rename_i hge
      have hfront := ih (n / 16) (Nat.div_lt_self (by omega) (by decide))
      rw [hexNumber?, hexDigits] at hfront
      rw [readDigits?_append, hfront, Option.bind_some,
        readDigits?_singleton (digitValue?_digitChar (Nat.mod_lt n (by decide))), Nat.div_add_mod]

/-- A number is read as it was written, whatever the width it was filled up to. -/
lemma hexNumber?_zeroFilled (width n : Nat) :
    hexNumber? (zeroFilled width (hexDigits n)) = some n := by
  rw [hexNumber?, zeroFilled, readDigits?_append, readDigits?_zeros, Option.bind_some]
  exact hexNumber?_hexDigits n

/-- A number that is not too large takes exactly the width it is filled up to. -/
lemma length_zeroFilled (hpos : 0 < width) (h : n < 16 ^ width) :
    (zeroFilled width (hexDigits n)).length = width := by
  have hle : (hexDigits n).length ≤ width := (Nat.length_toDigits_le_iff (by decide) hpos).mpr h
  rw [zeroFilled, List.length_append, List.length_replicate]
  exact Nat.sub_add_cancel hle

/-- What can be read are small hexadecimal digits. -/
lemma isSome_of_readDigits? (h : (readDigits? value digits).isSome = true) :
    ∀ digit ∈ digits, (digitValue? digit).isSome = true := by
  induction digits generalizing value with
  | nil => exact fun _ hmem => nomatch hmem
  | cons first digits ih =>
    rw [readDigits?, List.foldlM_cons] at h
    rcases hfirst : digitValue? first with _ | d
    · rw [hfirst] at h
      cases h
    · rw [hfirst] at h
      exact List.forall_mem_cons.mpr ⟨by rw [hfirst]; rfl, ih h⟩

/-- A character of printable ASCII. -/
def Printable (c : Char) : Prop :=
  0x20 ≤ c.toNat ∧ c.toNat ≤ 0x7e

instance : DecidablePred Printable :=
  fun c => inferInstanceAs (Decidable (0x20 ≤ c.toNat ∧ c.toNat ≤ 0x7e))

/-- Small hexadecimal digits are printable. -/
lemma printable_of_digitValue? {c : Char} (h : (digitValue? c).isSome = true) : Printable c := by
  unfold digitValue? at h
  split at h
  · rename_i hdigit
    exact ⟨Nat.le_trans (by decide) hdigit.1, Nat.le_trans hdigit.2 (by decide)⟩
  · split at h
    · rename_i hletter
      exact ⟨Nat.le_trans (by decide) hletter.1, Nat.le_trans hletter.2 (by decide)⟩
    · cases h

/-- A number that is written in columns is printable. -/
lemma printable_zeroFilled (width n : Nat) :
    ∀ c ∈ zeroFilled width (hexDigits n), Printable c := by
  have hread : (readDigits? 0 (zeroFilled width (hexDigits n))).isSome = true :=
    Option.isSome_of_eq_some (hexNumber?_zeroFilled width n)
  exact fun c hmem => printable_of_digitValue? (isSome_of_readDigits? hread c hmem)

end PrefetchInfo.Text
