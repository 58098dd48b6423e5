import PrefetchInfo.Text.Alphanumeric
import PrefetchInfo.Text.Blank
import PrefetchInfo.Text.Scan

/-!
# Tokens of a pattern

A pattern is a regular expression over characters. Its tokens are single characters, marks for
characters and for places in a text, flags, and what starts, ends and joins groups and classes of
characters; inside a class other tokens are read than outside. While the flag `spaced` is set, white
space and comments between tokens count for nothing.

Patterns hold no closing brace, so a repetition that counts, which ends with one, never ends. Classes
that are named by a property of characters are not known.
-/

namespace PrefetchInfo.Pattern

open PrefetchInfo.Text

/-! ### Flags -/

/-- A switch that changes what a pattern means. -/
inductive Flag where
  /-- Letters stand for their upper and their lower case. -/
  | ignoreCase
  /-- The ends of a line count as ends of the text. -/
  | manyLines
  /-- The mark for any character includes the end of a line. -/
  | anyIncludesLineEnd
  /-- Repetitions take as little as they can. -/
  | sparing
  /-- The pattern is about characters, not about bytes. -/
  | unicode
  /-- Lines end with a carriage return and a line feed. -/
  | carriageReturns
  /-- White space and comments in the pattern count for nothing. -/
  | spaced
  deriving DecidableEq, Repr

/-- The flag that a letter stands for. -/
def Flag.ofChar? : Char → Option Flag
  | 'i' => some ignoreCase
  | 'm' => some manyLines
  | 's' => some anyIncludesLineEnd
  | 'U' => some sparing
  | 'u' => some unicode
  | 'R' => some carriageReturns
  | 'x' => some spaced
  | _ => none

/-- A change of flags. -/
structure Flags where
  /-- The flags that are set. -/
  set : List Flag
  /-- The flags that are taken away. -/
  cleared : List Flag
  deriving DecidableEq, Repr

namespace Flags

/-- The change that leaves all flags as they are. -/
def unchanged : Flags :=
  ⟨[], []⟩

/-- Whether a flag is set after a change. -/
def update (flags : Flags) (flag : Flag) (before : Bool) : Bool :=
  flag ∈ flags.set || (before && flag ∉ flags.cleared)

/-- The change that letters stand for: those before a dash set flags and those behind it take flags
away. No flag may be named twice, and a dash needs a letter behind it. -/
def ofLetters? (letters : List Char) : Option Flags := do
  let set := letters.takeWhile (· ≠ '-')
  let cleared := letters.drop set.length
  let flags : Flags := ⟨← set.mapM Flag.ofChar?, ← cleared.tail.mapM Flag.ofChar?⟩
  if cleared ≠ ['-'] ∧ (flags.set ++ flags.cleared).Nodup then some flags else none

end Flags

/-! ### Tokens -/

/-- A character that stands for itself, or for what it is in the other case. -/
structure Literal where
  /-- The character. -/
  char : Char
  /-- Whether it is given as a code of two digits, which may also be the code of a byte. -/
  isByte : Bool
  deriving DecidableEq, Repr

/-- The literal that is written as the character itself. -/
def Literal.plain (c : Char) : Literal :=
  ⟨c, false⟩

/-- A token of a pattern. -/
inductive Token where
  /-- A character. -/
  | literal (literal : Literal)
  /-- The mark for any character. -/
  | any
  /-- The mark for an end of the text. -/
  | edge
  /-- The mark for a place where a word starts or ends, or for one where none does. -/
  | wordEdge
  /-- The mark for all digits, all white space or all characters of words, or for all others. -/
  | shorthand (negated : Bool)
  /-- The mark that repeats what stands before it. -/
  | repetition
  /-- The bar between two choices. -/
  | bar
  /-- A change of flags up to the end of the group. -/
  | settings (flags : Flags)
  /-- The start of a group with flags and perhaps a name. -/
  | groupStarts (flags : Flags) (name : Option (List Char))
  /-- The end of a group. -/
  | groupEnds
  /-- The start of a class. -/
  | classStarts (negated : Bool)
  /-- The end of a class. -/
  | classEnds
  /-- A dash at the start of a class. -/
  | dash
  /-- The characters of a class from one to another. -/
  | range (first last : Literal)
  /-- The characters of a class that have a name, or all others. -/
  | named (negated : Bool)
  /-- The mark that joins what is before it in a class with what is behind it. -/
  | operator
  deriving DecidableEq, Repr

/-- Where a token stands. -/
inductive Place where
  /-- Outside any class. -/
  | outside
  /-- At the start of a class. -/
  | classStart
  /-- Behind dashes at the start of a class. -/
  | dashes
  /-- Anywhere else in a class. -/
  | inside
  deriving DecidableEq, Repr

/-! ### White space and comments -/

/-- What is left of a text behind the white space and the comments at its start, or behind the comment
that it starts in the middle of. -/
def behindSpace (inComment : Bool) : List Char → List Char
  | [] => []
  | c :: rest =>
    if inComment then behindSpace (c ≠ '\n') rest
    else if isBlank c then behindSpace false rest
    else if c = '#' then behindSpace true rest
    else c :: rest

theorem behindSpace_suffix (inComment : Bool) (text : List Char) :
    behindSpace inComment text <:+ text := by
  induction text generalizing inComment with
  | nil => exact List.suffix_rfl
  | cons c rest ih =>
    have shorter (inComment : Bool) : behindSpace inComment rest <:+ c :: rest :=
      (ih inComment).trans (List.suffix_cons c rest)
    unfold behindSpace
    split
    · exact shorter _
    · split
      · exact shorter _
      · split
        · exact shorter _
        · exact List.suffix_rfl

/-- What is left of a text behind what counts for nothing at its start. -/
def behindNothing (spaced : Bool) (text : List Char) : List Char :=
  if spaced then behindSpace false text else text

theorem behindNothing_suffix (spaced : Bool) (text : List Char) :
    behindNothing spaced text <:+ text := by
  unfold behindNothing
  split
  · exact behindSpace_suffix false text
  · exact List.suffix_rfl

/-- Takes what counts for nothing. -/
def skip (spaced : Bool) : Scan Unit :=
  .leave (behindNothing spaced) (behindNothing_suffix spaced)

/-! ### Characters -/

/-- The value of a hexadecimal digit. -/
def hexDigit? (c : Char) : Option Nat :=
  if c.isDigit then some (c.toNat - '0'.toNat)
  else if 'a' ≤ c.toLower ∧ c.toLower ≤ 'f' then some (c.toLower.toNat - 'a'.toNat + 10)
  else none

/-- Takes the digits of a code of which `missing` more are to come. -/
def digits (spaced : Bool) : (missing value : Nat) → Scan Nat
  | 0, value => pure value
  | missing + 1, value => do
    skip spaced
    let digit ← .ofOption (hexDigit? (← .next))
    digits spaced missing (value * 16 + digit)

/-- Takes the code of a character. -/
def code (spaced : Bool) (length : Nat) : Scan Token := do
  let value ← digits spaced length 0
  if value.isValidChar then pure (.literal ⟨.ofNat value, length = 2⟩) else .fail

/-- Takes what stands behind a backslash: the letter of a mark, the letter and the digits of a code, or
a character that is neither a letter nor a digit and stands for itself. -/
def escape (spaced : Bool) : Scan Token := do
  match ← .next with
  | 'x' => code spaced 2
  | 'u' => code spaced 4
  | 'U' => code spaced 8
  | 'd' | 's' | 'w' => pure (.shorthand false)
  | 'D' | 'S' | 'W' => pure (.shorthand true)
  | 'A' | 'z' => pure .edge
  | 'b' | 'B' | '<' | '>' => pure .wordEdge
  | 'a' => pure (.literal (.plain '\x07'))
  | 'f' => pure (.literal (.plain '\x0c'))
  | 't' => pure (.literal (.plain '\t'))
  | 'n' => pure (.literal (.plain '\n'))
  | 'r' => pure (.literal (.plain '\r'))
  | 'v' => pure (.literal (.plain '\x0b'))
  | c => if c.toNat < 0x80 ∧ ¬ c.isAlphanum then pure (.literal (.plain c)) else .fail

/-! ### Groups -/

/-- Whether a text may be the name of a group. -/
def isName : List Char → Bool
  | [] => false
  | first :: rest =>
    (first = '_' || isAlphabetic first) &&
      rest.all fun c => c ∈ ['_', '.', '[', ']'] || isAlphanumeric c

/-- Takes the name of a group and the bracket behind it. -/
def groupName : Scan Token := do
  let name ← .takeWhile (· ≠ '>')
  if isName name ∧ (← .accept ['>']) then pure (.groupStarts .unchanged (some name)) else .fail

/-- Takes flags and what they are for: a group behind a colon, or all that follows. -/
def flagged : Scan Token := do
  let letters ← .takeWhile fun c => c ≠ ':' && c ≠ ')'
  let flags ← .ofOption (Flags.ofLetters? letters)
  if ← .accept [':'] then pure (.groupStarts flags none)
  else if letters ≠ [] ∧ (← .accept [')']) then pure (.settings flags)
  else .fail

/-- Takes what stands behind the parenthesis at the start of a group. -/
def group (spaced : Bool) : Scan Token := do
  skip spaced
  if ← .accept ['?', 'P', '<'] then groupName
  else if ← .accept ['?', '<'] then groupName
  else if ← .accept ['?'] then flagged
  else pure (.groupStarts .unchanged none)

/-! ### Classes -/

/-- The names of classes. -/
def classNames : List String :=
  ["alnum", "alpha", "ascii", "blank", "cntrl", "digit", "graph", "lower", "print", "punct", "space",
   "upper", "word", "xdigit"]

/-- Takes what stands behind the bracket at the start of a class with a name. -/
def namedClass : Scan Token := do
  if ← .accept [':'] then
    let negated ← .accept ['^']
    let name ← .takeWhile (· ≠ ':')
    if String.ofList name ∈ classNames ∧ (← .accept [':', ']']) then pure (.named negated) else .fail
  else .fail

/-- Takes the mark that negates a class, if there is one, behind the bracket at its start. -/
def classStart (spaced : Bool) : Scan Token := do
  skip spaced
  return .classStarts (← .accept ['^'])

/-- The character that tells what a dash before it is for: the first that is neither white space nor
the first mark of a comment, if there is one. -/
def telling? (spaced : Bool) (text : List Char) : Option Char :=
  if spaced then
    match text.dropWhile isBlank with
    | '#' :: comment => (comment.dropWhile isBlank).head? <|> text.head?
    | shown => shown.head? <|> text.head?
  else text.head?

/-- Whether a text goes on with a dash that stands between the ends of a range. -/
def startsWithRangeDash (spaced : Bool) : List Char → Bool
  | '-' :: rest => telling? spaced rest ∉ [some ']', some '-']
  | _ => false

/-- Takes the rest of a character or a mark in a class. -/
def classAtom (spaced : Bool) (c : Char) : Scan Token :=
  if c = '\\' then escape spaced else pure (.literal (.plain c))

/-- Takes the rest of what is in a class, a range if a dash follows; a range must not go backwards. -/
def classItem (spaced : Bool) (c : Char) : Scan Token := do
  let first ← classAtom spaced c
  skip spaced
  if startsWithRangeDash spaced (← .ahead) then
    let _ ← .next
    skip spaced
    match first, ← classAtom spaced (← .next) with
    | .literal first, .literal last =>
      if first.char ≤ last.char then pure (.range first last) else .fail
    | _, _ => .fail
  else
    match first with
    | .literal _ | .shorthand _ => pure first
    | _ => .fail

/-- The characters that join the parts of a class where they are doubled. -/
def operatorMarks : List Char :=
  ['&', '-', '~']

/-- Takes the rest of a token in a class. -/
def classToken (spaced : Bool) (c : Char) : Scan Token := do
  match c with
  | '[' =>
    match ← .optional namedClass with
    | some named => pure named
    | none => classStart spaced
  | ']' => pure .classEnds
  | c =>
    let isOperator ← if c ∈ operatorMarks then .accept [c] else pure false
    if isOperator then pure .operator else classItem spaced c

/-- Takes the rest of a token outside any class. -/
def outerToken (spaced : Bool) (c : Char) : Scan Token := do
  match c with
  | '(' => group spaced
  | ')' => pure .groupEnds
  | '|' => pure .bar
  | '[' => classStart spaced
  | '*' | '+' | '?' =>
    let _ ← .accept ['?']
    pure .repetition
  | '\\' => escape spaced
  | '.' => pure .any
  | '^' | '$' => pure .edge
  | '\x7b' => .fail
  | c => pure (.literal (.plain c))

/-- Takes the rest of the token that starts with a character. -/
def token (spaced : Bool) (place : Place) (c : Char) : Scan Token :=
  match place, c with
  | .outside, c => outerToken spaced c
  | .classStart, '-' | .dashes, '-' => pure .dash
  | .classStart, ']' => pure (.literal (.plain c))
  | _, c => classToken spaced c

end PrefetchInfo.Pattern
