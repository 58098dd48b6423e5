import PrefetchInfo.Text.Utf8

/-!
# Control sequences of terminals

A text for a terminal may hold control sequences, which set it in color or in bold and do more than
that; each starts with an escape. Where no terminal reads the text, only what a terminal would print of
it is written: `Terminal.visible` leaves the control sequences out, together with all controls but
white space.

White space within a sequence is printed all the same, and with it the text that follows, until a
control comes: then the sequence goes on.
-/

namespace PrefetchInfo.Terminal

/-- The escape, which starts a control sequence. -/
def escape : UInt8 := 0x1b

/-- Where in a control sequence a terminal is. -/
inductive Place where
  /-- Outside of any, in plain text. -/
  | text
  /-- Behind the escape. -/
  | start
  /-- Behind the escape and a byte that selects a set of short sequences. -/
  | short
  /-- In a sequence of parameters and the letter of a command. -/
  | command
  /-- In a title or a link, up to a bell. -/
  | title
  /-- Before the parameters of a string for the device. -/
  | header
  /-- In the parameters of a string for the device. -/
  | parameters
  /-- Behind the parameters of a string for the device. -/
  | selector
  /-- In a string for the device or another program, up to a string terminator. -/
  | string
  deriving DecidableEq, Repr

namespace Place

/-- Where the byte behind an escape leads. -/
def afterEscape (byte : UInt8) : Place :=
  if byte = ascii '[' then command
  else if byte = ascii ']' then title
  else if byte = ascii 'P' then header
  else if byte = ascii 'X' ∨ byte = ascii '^' ∨ byte = ascii '_' then string
  else if 0x20 ≤ byte ∧ byte ≤ 0x2f then short
  else if 0x30 ≤ byte ∧ byte ≤ 0x7e then text
  else start

/-- Where a byte leads from each place: a sequence of parameters ends with a letter, a title with a
bell, a string with its terminator, and any of them where another one starts or where it is
cancelled. -/
def next (place : Place) (byte : UInt8) : Place :=
  if byte = escape then start
  else if byte = 0x18 ∨ byte = 0x1a then text
  else
    match place with
    | text => text
    | start => afterEscape byte
    | short => if 0x30 ≤ byte ∧ byte ≤ 0x7e then text else short
    | command => if 0x40 ≤ byte ∧ byte ≤ 0x7e then text else command
    | title => if byte = 0x07 then text else title
    | header =>
      if 0x40 ≤ byte ∧ byte ≤ 0x7e then string
      else if 0x30 ≤ byte ∧ byte ≤ 0x3f then parameters
      else if 0x20 ≤ byte ∧ byte ≤ 0x2f then selector
      else header
    | parameters =>
      if 0x3c ≤ byte ∧ byte ≤ 0x7e then string
      else if 0x20 ≤ byte ∧ byte ≤ 0x2f then selector
      else parameters
    | selector => if 0x30 ≤ byte ∧ byte ≤ 0x7e then string else selector
    | string => if byte = 0x9c then text else string

/-- Whether the controls that a terminal acts on are still heeded at a place; in titles and strings
they are not. -/
def heedsControls : Place → Bool
  | text | start | short | command => true
  | title | header | parameters | selector | string => false

end Place

/-- The white space among the controls. -/
def isSpacing (byte : UInt8) : Bool :=
  byte = 0x09 || byte = 0x0a || byte = 0x0c || byte = 0x0d

/-- Whether a character that starts with a byte is printed in plain text. -/
def isPrinted (lead : UInt8) : Bool :=
  isSpacing lead || (0x20 ≤ lead && lead ≠ 0x7f && Utf8.width lead ≠ 0)

/-- A terminal that reads a text. -/
structure Reader where
  /-- Where in a control sequence it is. -/
  place : Place
  /-- Whether it prints plain text although a sequence has not ended. -/
  printing : Bool

namespace Reader

/-- The terminal before it has read anything. -/
def fresh : Reader :=
  ⟨.text, false⟩

/-- Whether a terminal reads plain text. -/
def inText (reader : Reader) : Bool :=
  reader.printing || reader.place = .text

/-- What a byte does that is not printed. -/
def skip (reader : Reader) (byte : UInt8) : Reader :=
  ⟨reader.place.next byte, false⟩

/-- How many bytes of a text, of which `lead` is the first, a terminal prints at once, and the terminal
after it has read them: a character of plain text, or white space within a sequence. -/
def print? (reader : Reader) (lead : UInt8) : Option (Nat × Reader) :=
  if reader.inText ∧ isPrinted lead then
    some (Utf8.width lead, if lead < 0x80 then ⟨reader.place, true⟩ else ⟨.text, true⟩)
  else if reader.place.heedsControls ∧ isSpacing lead then some (1, ⟨reader.place, true⟩)
  else none

/-- The bytes of a text that a terminal prints. -/
def print (reader : Reader) : Bytes → Bytes
  | [] => []
  | lead :: rest =>
    match reader.print? lead with
    | some (count, reader) =>
      lead :: rest.take (count - 1) ++ print reader (rest.drop (count - 1))
    | none => print (reader.skip lead) rest
termination_by text => text.length
decreasing_by all_goals simp only [List.length_drop, List.length_cons]; omega

end Reader

/-- What a terminal would print of a text. -/
def visible (text : Bytes) : Bytes :=
  Reader.fresh.print text

/-- A text in bold, for a terminal. -/
def bold (text : String) : String :=
  "\x1b[1m" ++ text ++ "\x1b[0m"

/-- A text in a color that warns, for a terminal. -/
def marked (text : String) : String :=
  "\x1b[33m" ++ text ++ "\x1b[0m"

/-- The first line of a text, without its end. -/
def firstLine (text : Bytes) : Bytes :=
  let line := text.takeWhile (· ≠ newline)
  if line.length < text.length ∧ line.getLast? = some 0x0d then line.dropLast else line

end PrefetchInfo.Terminal
