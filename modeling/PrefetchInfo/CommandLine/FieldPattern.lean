import PrefetchInfo.Pattern.Flaw

/-!
# Values that a field may be asked to have

A directive of a filter may ask for the value of a field: for a number, for a truth value, or for any
text that a pattern describes. This module tells which values can be asked for. Commas, equals signs
and closing braces separate the parts of a directive and never stand in a value.
-/

namespace PrefetchInfo.CommandLine.FieldPattern

/-! ### Numbers -/

/-- Whether a text is one or more decimal digits. -/
def isDigits (text : List Char) : Bool :=
  text ≠ [] && text.all Char.isDigit

/-- Whether a text is a decimal number without a sign: digits with a point among them or not, and an
exponent or not. -/
def isUnsigned (text : List Char) : Bool :=
  let isExponentMark (c : Char) : Bool := c = 'e' || c = 'E'
  let mantissa := text.takeWhile fun c => !isExponentMark c
  let exponent := text.drop mantissa.length
  let whole := mantissa.takeWhile (· ≠ '.')
  let fraction := (mantissa.drop whole.length).drop 1
  isDigits (whole ++ fraction) &&
    match exponent with
    | [] => true
    | _ :: '+' :: digits | _ :: '-' :: digits => isDigits digits
    | _ :: digits => isDigits digits

/-- The words for the values of a number that have no digits. -/
def numberWords : List String :=
  ["inf", "infinity", "nan"]

/-- Whether a text is a number with a plus sign. -/
def isSigned : List Char → Bool
  | '+' :: text => isUnsigned text || String.ofList (text.map Char.toLower) ∈ numberWords
  | _ => false

/-! ### Values -/

/-- Why a field may not be asked to have a value, if it may not. Numbers without a plus sign and truth
values are patterns, too. -/
def flaw? (value : String) : Option Pattern.Flaw :=
  if isSigned value.toList then none else Pattern.flaw? value.toList

end PrefetchInfo.CommandLine.FieldPattern
