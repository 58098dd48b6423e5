import Mathlib
import PrefetchInfo.Proofs.Codepage.Tables

/-!
# The names of a codepage

A grammar says which names a codepage has: a word, the separators `-` and `_`, and a number in as many
digits as one likes. Capital letters of ASCII stand for small ones, and every other character for itself
only. Reading a name finds a codepage just if the grammar gives it that name; any other text is
complained of as it was given.
-/

namespace PrefetchInfo.Codepage

variable {codepage : Codepage} {text rest : List Char} {value : Nat} {word : UInt32}

/-! ### The grammar -/

/-- The characters between the parts of a name. -/
def Separates (c : Char) : Prop :=
  c = '-' ∨ c = '_'

/-- A text of one or more digits has a value in the decimal system. -/
def Denotes (digits : List Char) (value : Nat) : Prop :=
  digits ≠ [] ∧ (∀ digit ∈ digits, '0' ≤ digit ∧ digit ≤ '9') ∧
    Nat.ofDigits 10 (digits.reverse.map fun digit => digit.toNat - '0'.toNat) = value

/-- The names of codepages in small letters. -/
inductive Names : List Char → Codepage → Prop where
  /-- US-ASCII has a name of one word. -/
  | ascii : Names ['a', 's', 'c', 'i', 'i'] ascii
  /-- KOI8-R is named by its letter. -/
  | koi8R {separator : Char} (hseparator : Separates separator) :
      Names (['k', 'o', 'i', '8'] ++ separator :: ['r']) koi8R
  /-- KOI8-U is named by its letter. -/
  | koi8U {separator : Char} (hseparator : Separates separator) :
      Names (['k', 'o', 'i', '8'] ++ separator :: ['u']) koi8U
  /-- The parts of ISO 8859 are named by their numbers, which go from 1 to 16 with 12 left out. -/
  | iso {first second : Char} {digits : List Char} {part : Nat} {codepage : Codepage}
      (hfirst : Separates first) (hsecond : Separates second) (hdigits : Denotes digits part)
      (hpos : 1 ≤ part) (hle : part ≤ 16) (hne : part ≠ 12)
      (hnumber : codepage.number.toNat = 28590 + part) :
      Names (['i', 's', 'o'] ++ first :: (['8', '8', '5', '9'] ++ second :: digits)) codepage
  /-- The codepages of Windows are named by their numbers. -/
  | windows {separator : Char} {digits : List Char} {codepage : Codepage}
      (hseparator : Separates separator) (hmem : codepage ∈ windowsPages)
      (hdigits : Denotes digits codepage.number.toNat) :
      Names (['w', 'i', 'n', 'd', 'o', 'w', 's'] ++ separator :: digits) codepage

/-- A character stands for itself and, if it is a capital letter of ASCII, for the small letter. -/
inductive StandsFor : Char → Char → Prop where
  /-- Every character stands for itself. -/
  | itself (c : Char) : StandsFor c c
  /-- A capital letter stands for the small letter, which comes 32 places after it. -/
  | capital {c small : Char} (hfirst : 'A' ≤ c) (hlast : c ≤ 'Z')
      (hsmall : small.toNat = c.toNat + 32) : StandsFor c small

/-- A text is a name of a codepage, whatever the case of its letters. -/
def IsNamed (codepage : Codepage) (name : String) : Prop :=
  ∃ small, List.Forall₂ StandsFor name.toList small ∧ Names small codepage

/-! ### Reading the parts of a name -/

/-- What follows a word is what comes behind the word and a separator. -/
lemma afterWord?_eq_some_iff {word : List Char} :
    afterWord? word text = some rest ↔
      ∃ separator, Separates separator ∧ text = word ++ separator :: rest := by
  induction word generalizing text with
  | nil =>
    constructor
    · intro h
      unfold afterWord? at h
      split at h
      · exact ⟨'-', .inl rfl, by rw [← Option.some.inj h]; rfl⟩
      · exact ⟨'_', .inr rfl, by rw [← Option.some.inj h]; rfl⟩
      · contradiction
      · cases h
    · rintro ⟨separator, rfl | rfl, rfl⟩ <;> rfl
  | cons c word ih =>
    cases text with
    | nil =>
      refine iff_of_false (fun h => nomatch h) ?_
      rintro ⟨separator, -, htext⟩
      cases htext
    | cons d text =>
      by_cases hsame : c = d
      · subst hsame
        simp only [afterWord?, if_true, ih, List.cons_append, List.cons.injEq, true_and]
      · simp only [afterWord?, if_neg hsame, reduceCtorEq, false_iff, not_exists, not_and]
        intro separator _ htext
        exact hsame (List.cons.inj htext).1.symm

/-- Reading digits from left to right gives their value in the decimal system. -/
lemma foldl_digits_eq_ofDigits (digits : List Char) :
    digits.foldl (fun value digit => value * 10 + (digit.toNat - '0'.toNat)) 0 =
      Nat.ofDigits 10 (digits.reverse.map fun digit => digit.toNat - '0'.toNat) := by
  induction digits using List.reverseRecOn with
  | nil => rfl
  | append_singleton digits digit ih =>
    rw [List.foldl_append, ih, List.reverse_concat, List.map_cons, Nat.ofDigits_cons]
    simp only [List.foldl_cons, List.foldl_nil]
    rw [Nat.mul_comm, Nat.add_comm]

/-- A text is read as a word just if it denotes the value of that word. -/
lemma decimal?_eq_some_iff : decimal? text = some word ↔ Denotes text word.toNat := by
  have hdigits : text.all Char.isDigit = true ↔ ∀ digit ∈ text, '0' ≤ digit ∧ digit ≤ '9' := by
    simp only [List.all_eq_true, Char.isDigit, Bool.and_eq_true, decide_eq_true_eq]
    rfl
  unfold decimal? Denotes
  rw [← hdigits, ← foldl_digits_eq_ofDigits]
  split
  · rename_i hbad
    refine iff_of_false (fun h => nomatch h) ?_
    rintro ⟨hne, hall, -⟩
    exact hbad.elim hne fun hnot => hnot hall
  · rename_i hgood
    rw [not_or, not_not] at hgood
    rw [Option.ite_none_right_eq_some, Option.some.injEq, eq_comm (a := UInt32.ofNat _),
      ← toNat_eq_iff, eq_comm]
    simp only [hgood, ne_eq, not_false_eq_true, true_and]

/-- The decimal digits of a number denote that number and no other. -/
lemma denotes_toDigits_iff {n : Nat} : Denotes (Nat.toDigits 10 n) value ↔ value = n := by
  have hdigits : ∀ digit ∈ Nat.toDigits 10 n, '0' ≤ digit ∧ digit ≤ '9' := by
    intro digit hdigit
    have hshown : digit.isDigit = true :=
      Nat.isDigit_of_mem_toDigits (by decide) (by decide) hdigit
    rw [Char.isDigit, Bool.and_eq_true, decide_eq_true_eq, decide_eq_true_eq] at hshown
    exact hshown
  have hvalue := Nat.ofDigitChars_ten_toDigits (n := n)
  rw [Nat.ofDigitChars_eq_foldl] at hvalue
  simp only [Nat.mul_comm 10] at hvalue
  rw [Denotes, ← foldl_digits_eq_ofDigits, hvalue, eq_comm]
  simp only [ne_eq, Nat.toDigits_ne_nil, not_false_eq_true, true_and, and_iff_right hdigits]

/-! ### Reading a name -/

/-- A text in small letters that is read as a codepage is a name of it. -/
lemma names_of_ofLowerCase?_eq_some (h : ofLowerCase? text = some codepage) : Names text codepage := by
  unfold ofLowerCase? at h
  split at h
  · rename_i htext
    rw [htext, ← Option.some.inj h]
    exact .ascii
  · split at h
    · rename_i letter hkoi8
      obtain ⟨separator, hseparator, rfl⟩ := afterWord?_eq_some_iff.mp hkoi8
      split at h
      · rename_i hr
        rw [hr, ← Option.some.inj h]
        exact .koi8R hseparator
      · split at h
        · rename_i hu
          rw [hu, ← Option.some.inj h]
          exact .koi8U hseparator
        · cases h
    · split at h
      · rename_i number hiso
        obtain ⟨first, hfirst, rfl⟩ := afterWord?_eq_some_iff.mp hiso
        obtain ⟨digits, hafter, h⟩ := Option.bind_eq_some_iff.mp h
        obtain ⟨part, hpart, hlookup⟩ := Option.bind_eq_some_iff.mp h
        obtain ⟨second, hsecond, rfl⟩ := afterWord?_eq_some_iff.mp hafter
        obtain ⟨hpos, hle, hne, hnumber⟩ := lookup_isoParts_eq_some_iff.mp hlookup
        exact .iso hfirst hsecond (decimal?_eq_some_iff.mp hpart) hpos hle hne hnumber
      · split at h
        · rename_i digits hwindows
          obtain ⟨separator, hseparator, rfl⟩ := afterWord?_eq_some_iff.mp hwindows
          obtain ⟨number, hnumber, hfind⟩ := Option.bind_eq_some_iff.mp h
          obtain ⟨hmem, rfl⟩ := find?_windowsPages_eq_some_iff.mp hfind
          exact .windows hseparator hmem (decimal?_eq_some_iff.mp hnumber)
        · cases h

/-- A name in small letters is read as the codepage that it names. -/
lemma Names.ofLowerCase?_eq_some (h : Names text codepage) : ofLowerCase? text = some codepage := by
  cases h with
  | ascii => rfl
  | koi8R hseparator => rcases hseparator with rfl | rfl <;> rfl
  | koi8U hseparator => rcases hseparator with rfl | rfl <;> rfl
  | @iso first second digits part _ hfirst hsecond hdigits hpos hle hne hnumber =>
    have hfits : part < UInt32.size := Nat.lt_of_le_of_lt hle (by decide)
    obtain ⟨word, rfl⟩ : ∃ word : UInt32, word.toNat = part :=
      ⟨UInt32.ofNat part, UInt32.toNat_ofNat_of_lt' hfits⟩
    have hafter : afterWord? ['8', '8', '5', '9'] (['8', '8', '5', '9'] ++ second :: digits) =
        some digits := afterWord?_eq_some_iff.mpr ⟨second, hsecond, rfl⟩
    have hfound : (afterWord? ['8', '8', '5', '9'] (['8', '8', '5', '9'] ++ second :: digits)).bind
        (fun digits => (decimal? digits).bind fun part => isoParts.lookup part.toNat) =
          some codepage := by
      rw [hafter, Option.bind_some, decimal?_eq_some_iff.mpr hdigits, Option.bind_some,
        lookup_isoParts_eq_some_iff]
      exact ⟨hpos, hle, hne, hnumber⟩
    rcases hfirst with rfl | rfl <;> exact hfound
  | @windows separator digits _ hseparator hmem hdigits =>
    have hfound : (decimal? digits).bind (fun number =>
        windowsPages.find? fun page => page.number = number) = some codepage := by
      rw [decimal?_eq_some_iff.mpr hdigits, Option.bind_some, find?_windowsPages_eq_some_iff]
      exact ⟨hmem, rfl⟩
    rcases hseparator with rfl | rfl <;> exact hfound

/-- A text in small letters is read as a codepage just if it is a name of it. -/
lemma ofLowerCase?_eq_some_iff : ofLowerCase? text = some codepage ↔ Names text codepage :=
  ⟨names_of_ofLowerCase?_eq_some, Names.ofLowerCase?_eq_some⟩

/-! ### The case of letters -/

/-- Every character stands for what it is as a small letter. -/
lemma standsFor_toLower (c : Char) : StandsFor c c.toLower := by
  by_cases hcapital : c.isUpper = true
  · obtain ⟨hfirst, hlast⟩ := of_decide_eq_true hcapital
    have hle : c.toNat ≤ 90 := hlast
    refine .capital hfirst hlast ?_
    rw [Char.toLower_eq_of_isUpper hcapital, Char.toNat_ofNat, if_pos (.inl (by omega))]
  · rw [Char.toLower_eq_of_not_isUpper hcapital]
    exact .itself c

/-- Only one character that is no capital letter is stood for by a character. -/
lemma toLower_eq_of_standsFor {c small : Char} (h : StandsFor c small)
    (hsmall : small.isUpper = false) : c.toLower = small := by
  cases h with
  | itself =>
    exact Char.toLower_eq_of_not_isUpper (by simp [hsmall])
  | capital hfirst hlast hplaces =>
    have hcapital : c.isUpper = true := decide_eq_true ⟨hfirst, hlast⟩
    rw [Char.toLower_eq_of_isUpper hcapital, ← hplaces, Char.ofNat_toNat]

/-- Digits are no capital letters. -/
lemma Denotes.isUpper_eq_false (h : Denotes text value) : ∀ c ∈ text, c.isUpper = false := by
  intro c hc
  obtain ⟨-, hlast⟩ := h.2.1 c hc
  have hle : c.toNat ≤ 57 := hlast
  refine decide_eq_false ?_
  rintro ⟨hfirst, -⟩
  have hge : 65 ≤ c.toNat := hfirst
  omega

/-- The names of codepages in small letters hold no capital letters. -/
lemma Names.isUpper_eq_false (h : Names text codepage) : ∀ c ∈ text, c.isUpper = false := by
  have hseparates : ∀ {c}, Separates c → c.isUpper = false := by
    rintro c (rfl | rfl) <;> rfl
  cases h with
  | ascii => simp
  | koi8R hseparator | koi8U hseparator => simp [hseparates hseparator]
  | iso hfirst hsecond hdigits =>
    simpa [hseparates hfirst, hseparates hsecond] using hdigits.isUpper_eq_false
  | windows hseparator _ hdigits =>
    simpa [hseparates hseparator] using hdigits.isUpper_eq_false

/-- What a name stands for in small letters is what it is as a text in small letters. -/
lemma forall₂_standsFor_iff {name small : List Char} (hsmall : ∀ c ∈ small, c.isUpper = false) :
    List.Forall₂ StandsFor name small ↔ name.map Char.toLower = small := by
  constructor
  · intro h
    induction h with
    | nil => rfl
    | cons hfirst _ ih =>
      obtain ⟨hhead, htail⟩ := List.forall_mem_cons.mp hsmall
      rw [List.map_cons, toLower_eq_of_standsFor hfirst hhead, ih htail]
  · rintro rfl
    rw [List.forall₂_map_right_iff, List.forall₂_same]
    exact fun c _ => standsFor_toLower c

/-- A name is read just if the grammar gives it to the codepage. -/
lemma ofName?_eq_some_iff {name : String} : ofName? name = some codepage ↔ IsNamed codepage name := by
  rw [ofName?, ofLowerCase?_eq_some_iff]
  constructor
  · intro h
    exact ⟨_, (forall₂_standsFor_iff h.isUpper_eq_false).mpr rfl, h⟩
  · rintro ⟨small, hstands, h⟩
    rwa [(forall₂_standsFor_iff h.isUpper_eq_false).mp hstands]

/-- **A codepage is read from its names and from nothing else.**  Whatever the text: reading it gives a
codepage just if it is a name of that codepage, and if it is no name of any, reading fails, with a single
record that says that such a value is not supported and ends with the text as it was given. -/
theorem read_from_names_only (name : String) :
    (∀ codepage, ofName name = .ok codepage ↔ IsNamed codepage name) ∧
    ((∃ chain, ofName name = .error chain ∧
        chain.records = [⟨.argument .unsupportedValue, "unsupported codepage: " ++ name⟩]) ↔
      ∀ codepage, ¬IsNamed codepage name) := by
  simp only [← ofName?_eq_some_iff]
  rcases hread : ofName? name with _ | found
  · have herror : ofName name = .error (.single (.argument .unsupportedValue)
        ("unsupported codepage: " ++ name)) := by rw [ofName, hread]
    refine ⟨fun codepage => by simp [herror], iff_of_true ⟨_, herror, rfl⟩ (by simp)⟩
  · have hok : ofName name = .ok found := by rw [ofName, hread]
    refine ⟨fun codepage => by simp [hok], iff_of_false ?_ ?_⟩
    · rintro ⟨chain, hchain, -⟩
      rw [hok] at hchain
      cases hchain
    · intro hnone
      exact hnone found rfl

-- Only the letters of ASCII have a case: the sign of the kelvin does not stand for the letter.
example : [ofName? "KOI8_r", ofName? "\u212aOI8_r"] = [some koi8R, none] := by decide

end PrefetchInfo.Codepage
