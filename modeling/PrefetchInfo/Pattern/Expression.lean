import PrefetchInfo.Pattern.Token

/-!
# Patterns as trees

What the tokens of a pattern add up to: characters and marks, one after the other or as choices, in
groups and with repetitions, and classes of characters. The depth of a tree counts what lies inside
what: groups, repetitions, classes and their operations, and what has several parts.
-/

namespace PrefetchInfo.Pattern

/-! ### Classes -/

/-- What stands in a class of characters. -/
inductive CharacterSet where
  /-- Nothing. -/
  | empty
  /-- A character. -/
  | literal (literal : Literal)
  /-- The characters from one to another. -/
  | range (first last : Literal)
  /-- Digits, white space or characters of words, or all others. -/
  | shorthand (negated : Bool)
  /-- The characters that have a name, or all others. -/
  | named (negated : Bool)
  /-- A class, or all characters that are not in it. -/
  | brackets (negated : Bool) (content : CharacterSet)
  /-- Several things. -/
  | union (parts : List CharacterSet)
  /-- What is before a mark joined with what is behind it. -/
  | operation (left right : CharacterSet)

namespace CharacterSet

/-- All the parts of a class together. -/
def ofParts : List CharacterSet → CharacterSet
  | [] => empty
  | [part] => part
  | parts => union parts

mutual

/-- How many classes, operations and unions lie inside each other. -/
def depth : CharacterSet → Nat
  | empty | literal _ | range _ _ | shorthand _ | named _ => 0
  | brackets _ content => content.depth + 1
  | union parts => greatestDepth 0 parts + 1
  | operation left right => max left.depth right.depth + 1

/-- The greatest of a number and the depths of some parts. -/
def greatestDepth (least : Nat) : List CharacterSet → Nat
  | [] => least
  | part :: parts => greatestDepth (max least part.depth) parts

end

end CharacterSet

/-! ### Patterns -/

/-- A pattern. -/
inductive Expression where
  /-- Nothing. -/
  | empty
  /-- A character. -/
  | literal (literal : Literal)
  /-- Any character. -/
  | any
  /-- An end of the text. -/
  | edge
  /-- A place where a word starts or ends, or one where none does. -/
  | wordEdge
  /-- A digit, white space or a character of words, or any other character. -/
  | shorthand (negated : Bool)
  /-- A character of a class. -/
  | charFrom (set : CharacterSet)
  /-- A change of flags for what follows. -/
  | settings (flags : Flags)
  /-- A pattern several times. -/
  | repeated (pattern : Expression)
  /-- A pattern with flags of its own. -/
  | group (flags : Flags) (pattern : Expression)
  /-- Several patterns one after the other. -/
  | sequence (patterns : List Expression)
  /-- One of several patterns. -/
  | choice (patterns : List Expression)

namespace Expression

/-- Patterns one after the other. -/
def ofSequence : List Expression → Expression
  | [] => empty
  | [pattern] => pattern
  | patterns => sequence patterns

/-- One of some patterns. -/
def ofChoices : List Expression → Expression
  | [] => empty
  | [pattern] => pattern
  | patterns => choice patterns

mutual

/-- How many parts of a pattern lie inside each other. -/
def depth : Expression → Nat
  | empty | literal _ | any | edge | wordEdge | shorthand _ | settings _ => 0
  | charFrom set => set.depth
  | repeated pattern | group _ pattern => pattern.depth + 1
  | sequence patterns | choice patterns => greatestDepth 0 patterns + 1

/-- The greatest of a number and the depths of some patterns. -/
def greatestDepth (least : Nat) : List Expression → Nat
  | [] => least
  | pattern :: patterns => greatestDepth (max least pattern.depth) patterns

end

/-- Whether a pattern can be repeated, which a change of flags cannot. -/
def isRepeatable : Expression → Bool
  | settings _ => false
  | _ => true

end Expression

end PrefetchInfo.Pattern
