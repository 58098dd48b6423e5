import PrefetchInfo.Codepage.Basic
import PrefetchInfo.Error.Chain

/-!
# Names of codepages

Every codepage has a name, and may be named more freely than that: in upper or lower case, with `-`
or `_` between the parts of the name, and with leading zeros in its number. Letters outside ASCII are
not folded.
-/

namespace PrefetchInfo.Codepage

/-- The number of a codepage as a part of ISO 8859, if it is one. -/
def isoPart? (codepage : Codepage) : Option Nat :=
  (isoParts.find? fun part => part.2 = codepage).map Prod.fst

/-- The name a codepage is shown with. -/
def name (codepage : Codepage) : String :=
  match codepage with
  | ascii => "ascii"
  | koi8R => "koi8-r"
  | koi8U => "koi8-u"
  | _ =>
    match codepage.isoPart? with
    | some part => "iso-8859-" ++ Nat.repr part
    | none => "windows-" ++ Nat.repr codepage.number.toNat

/-- What follows a word and one of the separators `-` and `_`. -/
def afterWord? : List Char → List Char → Option (List Char)
  | [], '-' :: rest => some rest
  | [], '_' :: rest => some rest
  | c :: word, d :: text => if c = d then afterWord? word text else none
  | _, _ => none

/-- The word whose value a text shows that consists of one or more decimal digits; none if the value does
not fit into a word. -/
def decimal? (text : List Char) : Option UInt32 :=
  if text = [] ∨ ¬ text.all Char.isDigit then none
  else
    let value := text.foldl (fun value c => value * 10 + (c.toNat - '0'.toNat)) 0
    if value < UInt32.size then some (UInt32.ofNat value) else none

/-- The codepage with a given name in lower case. -/
def ofLowerCase? (text : List Char) : Option Codepage :=
  if text = ['a', 's', 'c', 'i', 'i'] then some ascii
  else if let some rest := afterWord? ['k', 'o', 'i', '8'] text then
    if rest = ['r'] then some koi8R else if rest = ['u'] then some koi8U else none
  else if let some rest := afterWord? ['i', 's', 'o'] text then do
    let digits ← afterWord? ['8', '8', '5', '9'] rest
    let part ← decimal? digits
    isoParts.lookup part.toNat
  else if let some digits := afterWord? ['w', 'i', 'n', 'd', 'o', 'w', 's'] text then do
    let number ← decimal? digits
    windowsPages.find? fun codepage => codepage.number = number
  else none

/-- The codepage with a given name, if it is supported. -/
def ofName? (name : String) : Option Codepage :=
  ofLowerCase? (name.toList.map Char.toLower)

/-- The codepage with a given name. -/
def ofName (name : String) : Except ErrorChain Codepage :=
  match ofName? name with
  | some codepage => .ok codepage
  | none => .error (.single (.argument .unsupportedValue) ("unsupported codepage: " ++ name))

end PrefetchInfo.Codepage
