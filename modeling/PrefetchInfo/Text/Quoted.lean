import PrefetchInfo.Text.Utf8
import PrefetchInfo.Text.Unprintable
import PrefetchInfo.Text.Combining

/-!
# Quoted byte strings

A path is shown to developers between double quotes, with an escape for every character that would
not be seen for what it is and for every byte that is not part of a character.
-/

namespace PrefetchInfo.Text

/-- The hexadecimal digits of `n`, in lower case and without leading zeros. -/
def hexDigits (n : Nat) : List Char :=
  Nat.toDigits 16 n

/-- Digits filled up with zeros on the left to at least `width` places. -/
def zeroFilled (width : Nat) (digits : List Char) : List Char :=
  List.replicate (width - digits.length) '0' ++ digits

/-- A character as it stands in a quoted text: marks of the quotation itself and the usual white
space by a letter, other unprintable and combining characters by their code point. -/
def quotedChar (c : Char) : List Char :=
  match c with
  | '\x00' => ['\\', '0']
  | '\t' => ['\\', 't']
  | '\r' => ['\\', 'r']
  | '\n' => ['\\', 'n']
  | '\\' => ['\\', '\\']
  | '"' => ['\\', '"']
  | c =>
    if isCombining c || isUnprintable c then
      ['\\', 'u', '\x7b'] ++ hexDigits c.toNat ++ ['\x7d']
    else [c]

/-- A byte outside any character as it stands in a quoted text. -/
def quotedByte (byte : UInt8) : List Char :=
  ['\\', 'x'] ++ zeroFilled 2 ((hexDigits byte.toNat).map Char.toUpper)

/-- A byte string between double quotes, all of it visible. -/
def quoted (bytes : Bytes) : String :=
  String.ofList <| '"' :: ((Utf8.pieces bytes).flatMap fun
    | .char c => quotedChar c
    | .invalid bytes => bytes.flatMap quotedByte) ++ ['"']

end PrefetchInfo.Text
