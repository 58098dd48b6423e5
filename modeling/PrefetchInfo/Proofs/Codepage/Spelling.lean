import PrefetchInfo.Proofs.Codepage.Naming
import PrefetchInfo.Proofs.Text.Lines

/-!
# The name that is shown

A word in decimal digits is read as that word, and the name that a codepage is shown with is read as that
codepage. Such a name takes a single line of ASCII.
-/

namespace PrefetchInfo.Codepage

/-- The decimal digits of a word are read as that word. -/
lemma decimal?_toDigits (word : UInt32) : decimal? (Nat.toDigits 10 word.toNat) = some word :=
  decimal?_eq_some_iff.mpr (denotes_toDigits_iff.mpr rfl)

/-- A codepage is read from the name that it is shown with. -/
lemma ofName?_name (codepage : Codepage) : ofName? codepage.name = some codepage := by
  cases codepage <;> decide

/-- The name of a codepage takes a single line. -/
lemma inline_name (codepage : Codepage) : Inline codepage.name := by
  cases codepage <;> decide

end PrefetchInfo.Codepage
