import PrefetchInfo.Allocation.Statistics
import PrefetchInfo.Text.Bytes

/-!
# The report of the allocation statistics

While an interruption is handled no memory may be allocated. The report of the statistics is therefore
put together in a line of fixed size, piece by piece; a piece that does not fit leaves the line as it
is, and a report that does not fit as a whole is not made.
-/

namespace PrefetchInfo.Allocation

/-- The number of bytes a line has room for. -/
def lineCapacity : Nat := 256

/-- A line of cells that are filled with text from the front. -/
structure Line where
  /-- The cells, one for each byte. -/
  cells : Bytes
  /-- How many of the cells hold text. -/
  used : Nat
  deriving Repr

namespace Line

/-- The line without any text. -/
def blank : Line :=
  ⟨List.replicate lineCapacity 0, 0⟩

/-- The bytes of the text so far. -/
def bytes (line : Line) : Bytes :=
  line.cells.take line.used

/-- Puts a piece of text into the cells behind the text so far, if there are enough of them, and tells
whether there were. -/
def add (piece : String) (line : Line) : Bool × Line :=
  let stop := line.used + (utf8 piece).length
  if stop > line.cells.length then (false, line)
  else (true, ⟨line.cells.take line.used ++ utf8 piece ++ line.cells.drop stop, stop⟩)

/-- Adds pieces of text one after the other, up to the first that does not fit, and tells whether all of
them did. -/
def addAll (pieces : List String) (line : Line) : Bool × Line :=
  match pieces with
  | [] => (true, line)
  | piece :: pieces =>
    match line.add piece with
    | (true, line) => line.addAll pieces
    | (false, line) => (false, line)

end Line

/-- The line that reports the statistics, if it fits. -/
def report? (statistics : Statistics) : Option Bytes :=
  match Line.blank.addAll ("memory-debug: " :: statistics.pieces ++ ["\n"]) with
  | (true, line) => some line.bytes
  | (false, _) => none

/-- What reporting the statistics writes to standard error. -/
def report (statistics : Statistics) : Bytes :=
  (report? statistics).getD []

end PrefetchInfo.Allocation
