import PrefetchInfo.Text.Bytes

/-!
# Reading bytes as UTF-8

Bytes from outside need not be UTF-8. `Utf8.pieces` cuts any bytes into characters and the longest
runs that begin a character without finishing one; `Utf8.lossy` shows each such run as one
replacement character, so that every byte string has a text to be shown as.
-/

namespace PrefetchInfo.Utf8

/-- A part of a byte string that is read as UTF-8: a character, or bytes that form none. -/
inductive Piece where
  /-- Bytes that encode the character `c`. -/
  | char (c : Char)
  /-- Bytes that encode no character. -/
  | invalid (bytes : Bytes)
  deriving DecidableEq, Repr

/-- The number of bytes of a character whose first byte is `lead`, 0 where no character starts
with it. -/
def width (lead : UInt8) : Nat :=
  if lead < 0x80 then 1
  else if lead < 0xc2 then 0
  else if lead < 0xe0 then 2
  else if lead < 0xf0 then 3
  else if lead < 0xf5 then 4
  else 0

/-- The bytes `10xxxxxx`, which continue a character. -/
def isContinuation (byte : UInt8) : Bool :=
  0x80 ≤ byte && byte ≤ 0xbf

/-- The bytes allowed second in a character that starts with `lead`: the continuation bytes less
those that would give an overlong form, a surrogate, or a value beyond the last character. -/
def allowsSecond (lead byte : UInt8) : Bool :=
  isContinuation byte &&
    (lead != 0xe0 || 0xa0 ≤ byte) && (lead != 0xed || byte ≤ 0x9f) &&
    (lead != 0xf0 || 0x90 ≤ byte) && (lead != 0xf4 || byte ≤ 0x8f)

/-- The bytes of `rest` that continue the character begun by `lead`, as far as they go. -/
def continuation (lead : UInt8) (rest : Bytes) : Bytes :=
  match rest with
  | [] => []
  | second :: more =>
    if 2 ≤ width lead && allowsSecond lead second then
      second :: (more.take (width lead - 2)).takeWhile isContinuation
    else []

/-- The scalar value of a complete encoding: the payload bits of the lead byte followed by six bits
of each continuation byte. -/
def scalar (lead : UInt8) (following : Bytes) : Nat :=
  let payload :=
    match following.length with
    | 0 => lead.toNat
    | 1 => lead.toNat % 0x20
    | 2 => lead.toNat % 0x10
    | _ => lead.toNat % 0x08
  following.foldl (fun value byte => value * 0x40 + byte.toNat % 0x40) payload

/-- The first piece that starts with `lead`, given the bytes that continue it. -/
def piece (lead : UInt8) (following : Bytes) : Piece :=
  if following.length + 1 = width lead then .char (Char.ofNat (scalar lead following))
  else .invalid (lead :: following)

/-- The pieces of a byte string, from left to right. -/
def pieces : Bytes → List Piece
  | [] => []
  | lead :: rest =>
    let following := continuation lead rest
    piece lead following :: pieces (rest.drop following.length)
termination_by bytes => bytes.length
decreasing_by simp only [List.length_drop, List.length_cons]; omega

/-- The text of a byte string, each run of bytes that form no character shown as U+FFFD. -/
def lossy (bytes : Bytes) : String :=
  String.ofList ((pieces bytes).map fun
    | .char c => c
    | .invalid _ => '\ufffd')

/-- Whether a byte string is the UTF-8 form of some text. -/
def isValid (bytes : Bytes) : Bool :=
  (pieces bytes).all fun
    | .char _ => true
    | .invalid _ => false

end PrefetchInfo.Utf8
