import PrefetchInfo.Text.Quoted

/-!
# Hex dumps

A hex dump shows bytes sixteen to a line: the offset of the line, the bytes in hexadecimal in two
groups of eight, and the same bytes as characters. An empty line ends the dump.
-/

namespace PrefetchInfo.HexDump

/-- The number of bytes on a line. -/
def perLine : Nat := 16

/-- The number of bytes in a group. -/
def perGroup : Nat := 8

/-- A byte in hexadecimal and a blank. -/
def cell (byte : UInt8) : List Char :=
  Text.zeroFilled 2 (Text.hexDigits byte.toNat) ++ [' ']

/-- The cells of a group of bytes, filled up with blanks to a whole group. -/
def cells (group : Bytes) : List Char :=
  group.flatMap cell ++ List.replicate (3 * (perGroup - group.length)) ' '

/-- A byte as a character: itself if it is printable ASCII, else a point. -/
def shown (byte : UInt8) : Char :=
  if 0x20 ≤ byte ∧ byte ≤ 0x7e then Char.ofNat byte.toNat else '.'

/-- The line of a dump for the bytes `chunk` at `offset`. -/
def line (offset : Nat) (chunk : Bytes) : List Char :=
  let first := chunk.take perGroup
  let second := chunk.drop perGroup
  Text.zeroFilled 8 (Text.hexDigits offset) ++ [':', ' '] ++ cells first ++ [' '] ++ cells second ++
    [' '] ++ first.map shown ++ (if second = [] then [] else [' ']) ++ second.map shown ++ ['\n']

/-- The lines of a dump of bytes that begin at `offset`, and the empty line at its end. -/
def linesFrom (offset : Nat) (data : Bytes) : List Char :=
  if data = [] then ['\n']
  else line offset (data.take perLine) ++ linesFrom (offset + perLine) (data.drop perLine)
termination_by data.length
decreasing_by
  have : data.length ≠ 0 := by simpa using ‹¬data = []›
  simp only [List.length_drop, perLine]; omega

/-- The hex dump of some bytes. -/
def text (data : Bytes) : String :=
  String.ofList (linesFrom 0 data)

end PrefetchInfo.HexDump
