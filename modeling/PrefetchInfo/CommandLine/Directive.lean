import PrefetchInfo.CommandLine.FieldPattern
import PrefetchInfo.Text.Blank
import PrefetchInfo.Text.Utf8

/-!
# Directives of a log filter

A directive is an area, a span with a field in brackets, and a level behind an equals sign; each part
may be missing, and a level may stand alone:

    level        area        area=level        area[span{field=value}]=level

White space at either end is skipped when the parts are told from each other, but not when they are
taken out: they are taken at the distances from the start that they have without it, so that a
directive with white space before it names other areas and levels than it seems to.
-/

namespace PrefetchInfo.CommandLine

/-- The amount of detail that shows everything. -/
def everything : Nat := 5

/-- The words for amounts of detail, each at its place. -/
def detailWords : List String :=
  ["off", "error", "warn", "info", "debug", "trace"]

/-- The value of a natural number in decimal digits, perhaps with a plus sign. -/
def natural? (text : Bytes) : Option Nat :=
  let digits := if text.head? = some (ascii '+') then text.tail else text
  if digits ≠ [] ∧ digits.all (fun byte => ascii '0' ≤ byte && byte ≤ ascii '9') then
    some (digits.foldl (fun value byte => value * 10 + (byte - ascii '0').toNat) 0)
  else none

/-- A byte with the letters of ASCII in lower case. -/
def lowerCase (byte : UInt8) : UInt8 :=
  if ascii 'A' ≤ byte ∧ byte ≤ ascii 'Z' then byte + 0x20 else byte

/-- The amount of detail that a text names, by its word in upper or lower case or by its number. -/
def detail? (text : Bytes) : Option Nat :=
  match natural? text with
  | some number => if number ≤ everything then some number else none
  | none => detailWords.findIdx? fun word => utf8 word = text.map lowerCase

/-- What a directive asks of a field: that an event has it, and perhaps that it has a value. -/
structure FieldDemand where
  /-- The name of the field. -/
  name : Bytes
  /-- The value it is to have. -/
  value : Option Bytes
  deriving DecidableEq, Repr

/-- A directive of a filter. -/
structure Directive where
  /-- What the areas concerned start with. -/
  area : Option Bytes
  /-- The span that events are to belong to. -/
  span : Option Bytes
  /-- The field that events are to have. -/
  field : Option FieldDemand
  /-- How much is shown of them, 0 for nothing and 5 for everything. -/
  detail : Nat
  deriving DecidableEq, Repr

namespace Directive

/-- Why a text is no directive. -/
inductive Fault where
  /-- Its parts are not where they should be. -/
  | misplaced
  /-- It names no level. -/
  | level
  /-- It asks for a value that cannot be asked for. -/
  | value (flaw : Pattern.Flaw)
  deriving DecidableEq, Repr

/-- What a fault says. -/
def Fault.message : Fault → String
  | misplaced => "invalid filter directive"
  | level =>
    "error parsing level filter: expected one of \"off\", \"error\", \"warn\", \"info\", " ++
      "\"debug\", \"trace\", or a number 0-5"
  | value flaw => "invalid field filter: " ++ flaw.message

/-- A text that is read as a directive: all of it, and what tells its parts from each other. -/
structure Script where
  /-- The whole text. -/
  whole : Bytes
  /-- The text without white space at its ends. -/
  marks : Bytes

namespace Script

/-- The text as it is read. -/
def ofText (text : String) : Script :=
  ⟨utf8 text, utf8 (String.ofList (Text.trim text.toList))⟩

/-- The part from one distance to another. -/
def part (script : Script) (start stop : Nat) : Bytes :=
  (script.whole.drop start).take (stop - start)

/-- The first of some marks that stands at a distance or behind it, and its distance. -/
def find? (script : Script) (start : Nat) (marks : List UInt8) : Option (UInt8 × Nat) :=
  ((script.marks.drop start).zipIdx start).find? fun (byte, _) => byte ∈ marks

end Script

/-- Reads what stands behind the equals sign at the distance `start - 1`: a level, or nothing. -/
def readLevel (script : Script) (directive : Directive) (start : Nat) : Except Fault Directive :=
  match script.whole.drop start with
  | [] => .ok directive
  | text =>
    match detail? text with
    | some detail => .ok { directive with detail }
    | none => .error .level

/-- Reads what stands behind the brackets: an equals sign and a level, or nothing. -/
def readTail (script : Script) (directive : Directive) (start : Nat) : Except Fault Directive :=
  match script.marks[start]? with
  | none => .ok directive
  | some byte => if byte = ascii '=' then readLevel script directive (start + 1) else .error .misplaced

/-- What is asked of a field: its name, and up to the next equals sign its value. -/
def demand (text : Bytes) : Except Fault FieldDemand :=
  let name := text.takeWhile (· ≠ ascii '=')
  match text.drop name.length with
  | [] => .ok ⟨name, none⟩
  | _ :: rest =>
    let value := rest.takeWhile (· ≠ ascii '=')
    match FieldPattern.flaw? (Utf8.lossy value) with
    | none => .ok ⟨name, some value⟩
    | some flaw => .error (.value flaw)

/-- Reads a field, which ends with a brace and the bracket. -/
def readField (script : Script) (directive : Directive) (start : Nat) : Except Fault Directive :=
  match script.find? start [0x7d] with
  | none => .error .misplaced
  | some (_, stop) =>
    if script.part start stop = [] then .error .misplaced
    else
      match demand (script.part start stop) with
      | .error fault => .error fault
      | .ok field =>
        if script.marks[stop + 1]? = some (ascii ']') then
          readTail script { directive with field := some field } (stop + 2)
        else .error .misplaced

/-- Reads what stands behind the opening bracket: the name of a span, and perhaps a field. -/
def readSpan (script : Script) (directive : Directive) (start : Nat) : Except Fault Directive :=
  match script.find? start [ascii ']', 0x7b] with
  | none => .error .misplaced
  | some (mark, stop) =>
    let name := script.part start stop
    if mark = ascii ']' then readTail script { directive with span := some name } (stop + 1)
    else
      readField script { directive with span := if name = [] then none else some name } (stop + 1)

/-- Whether a directive may start with a character without being one for all areas. -/
def startsArea (c : Char) : Bool :=
  c ∈ ['-', ':', '_'] || Text.isAlphanumeric c

/-- The directive that is a text, which is a level or an area if nothing tells parts from each
other. -/
def ofText (text : String) : Except Fault Directive :=
  let script := Script.ofText text
  let blank : Directive := ⟨none, none, none, everything⟩
  match Text.trim text.toList with
  | [] => .error .misplaced
  | first :: _ =>
    if first = '[' then readSpan script blank 1
    else if ¬ startsArea first then .error .misplaced
    else
      match script.find? 1 [ascii '=', ascii '['] with
      | none =>
        match detail? script.whole with
        | some detail => .ok { blank with detail }
        | none => .ok { blank with area := some script.whole }
      | some (mark, stop) =>
        let directive := { blank with area := some (script.part 0 stop) }
        if mark = ascii '=' then readLevel script directive (stop + 1)
        else readSpan script directive (stop + 1)

/-- Whether a directive can concern events, which belong to no span and whose fields have no value
while a filter looks at them. -/
def concernsEvents (directive : Directive) : Bool :=
  directive.span.isNone && directive.field.all fun field => field.value.isNone

end Directive

end PrefetchInfo.CommandLine
