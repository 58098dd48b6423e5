import PrefetchInfo.Pattern.Expression

/-!
# Reading patterns

A draft is a pattern as far as it has been read, with the groups and classes that are still open. Each
token is added to the innermost of them, and tokens are read until the text is at its end. What does
not go on as a pattern can is refused, and so is a pattern whose parts lie too deep inside each other.
-/

namespace PrefetchInfo.Pattern

/-- How many parts of a pattern may lie inside each other. -/
def maxDepth : Nat := 250

/-- The choices between bars, as far as they have been read. -/
structure Choices where
  /-- The choices before the last bar, the last one first. -/
  before : List Expression
  /-- The patterns behind it, the last one first. -/
  current : List Expression

namespace Choices

/-- The choices of which nothing has been read. -/
def start : Choices :=
  ⟨[], []⟩

/-- The choices with a bar behind them. -/
def addBar (choices : Choices) : Choices :=
  ⟨.ofSequence choices.current.reverse :: choices.before, []⟩

/-- The pattern that the choices make up. -/
def toExpression (choices : Choices) : Expression :=
  .ofChoices choices.addBar.before.reverse

end Choices

/-- A group that is open, and what surrounds it. -/
structure OpenGroup where
  /-- The flags of the group. -/
  flags : Flags
  /-- Whether white space and comments count for nothing around the group. -/
  spaced : Bool
  /-- What has been read around the group. -/
  around : Choices

/-- A class that is open. -/
structure OpenClass where
  /-- Whether the class is negated. -/
  negated : Bool
  /-- What stands before the last mark of an operation, if there is one. -/
  left : Option CharacterSet
  /-- What stands behind it, the last part first. -/
  parts : List CharacterSet
  /-- Where the next token stands. -/
  place : Place

namespace OpenClass

/-- A class of which nothing but the start has been read. -/
def start (negated : Bool) : OpenClass :=
  ⟨negated, none, [], .classStart⟩

/-- The class with one more part. -/
def add (current : OpenClass) (part : CharacterSet) (place : Place) : OpenClass :=
  { current with parts := part :: current.parts, place }

/-- What stands in the class. -/
def content (current : OpenClass) : CharacterSet :=
  let right := .ofParts current.parts.reverse
  current.left.elim right fun left => .operation left right

/-- The class as a part of another class or of a pattern. -/
def close (current : OpenClass) : CharacterSet :=
  .brackets current.negated current.content

end OpenClass

/-- A pattern as far as it has been read. -/
structure Draft where
  /-- Whether white space and comments count for nothing. -/
  spaced : Bool
  /-- What has been read in the innermost group. -/
  choices : Choices
  /-- The groups that are open, the innermost one first. -/
  groups : List OpenGroup
  /-- The classes that are open, the innermost one first. -/
  classes : List OpenClass
  /-- The names of groups. -/
  names : List (List Char)

namespace Draft

/-- A pattern of which nothing has been read. -/
def start : Draft :=
  ⟨false, .start, [], [], []⟩

/-- Where the next token stands. -/
def place (draft : Draft) : Place :=
  (draft.classes.head?.map OpenClass.place).getD .outside

/-- The draft with one more pattern in its innermost group. -/
def append (draft : Draft) (pattern : Expression) : Draft :=
  { draft with choices := { draft.choices with current := pattern :: draft.choices.current } }

/-- The draft with one more pattern in its innermost group, unless the pattern is too deep. -/
def append? (draft : Draft) (pattern : Expression) : Option Draft :=
  if pattern.depth ≤ maxDepth then some (draft.append pattern) else none

/-- The draft with the last pattern of its innermost group repeated. -/
def repeat? (draft : Draft) : Option Draft :=
  match draft.choices.current with
  | [] => none
  | last :: before =>
    if last.isRepeatable then
      { draft with choices := { draft.choices with current := before } }.append? (.repeated last)
    else none

/-- The draft with a change of flags. -/
def set (draft : Draft) (flags : Flags) : Draft :=
  { draft with spaced := flags.update .spaced draft.spaced }.append (.settings flags)

/-- The draft with a group opened; two groups may not have one name. -/
def openGroup? (draft : Draft) (flags : Flags) (name : Option (List Char)) : Option Draft :=
  if name.any (· ∈ draft.names) then none
  else
    some { draft with
      spaced := flags.update .spaced draft.spaced
      choices := .start
      groups := ⟨flags, draft.spaced, draft.choices⟩ :: draft.groups
      names := name.toList ++ draft.names }

/-- The draft with its innermost group closed. -/
def closeGroup? (draft : Draft) : Option Draft :=
  match draft.groups with
  | [] => none
  | inner :: groups =>
    { draft with spaced := inner.spaced, choices := inner.around, groups }.append?
      (.group inner.flags draft.choices.toExpression)

/-- The draft with a token added outside any class. -/
def addOutside? (draft : Draft) : Token → Option Draft
  | .literal literal => some (draft.append (.literal literal))
  | .any => some (draft.append .any)
  | .edge => some (draft.append .edge)
  | .wordEdge => some (draft.append .wordEdge)
  | .shorthand negated => some (draft.append (.shorthand negated))
  | .repetition => draft.repeat?
  | .bar => some { draft with choices := draft.choices.addBar }
  | .settings flags => some (draft.set flags)
  | .groupStarts flags name => draft.openGroup? flags name
  | .groupEnds => draft.closeGroup?
  | .classStarts negated => some { draft with classes := [.start negated] }
  | _ => none

/-- The draft with a class closed that stands in others or in none. -/
def closeClass? (draft : Draft) (closed : CharacterSet) : List OpenClass → Option Draft
  | [] => { draft with classes := [] }.append? (.charFrom closed)
  | outer :: classes =>
    if closed.depth ≤ maxDepth then
      some { draft with classes := outer.add closed .inside :: classes }
    else none

/-- The draft with a token added to a class that stands in others or in none. -/
def addInside? (draft : Draft) (current : OpenClass) (outer : List OpenClass) :
    Token → Option Draft
  | .dash => add (current.add (.literal (.plain '-')) .dashes)
  | .literal literal => add (current.add (.literal literal) .inside)
  | .range first last => add (current.add (.range first last) .inside)
  | .shorthand negated => add (current.add (.shorthand negated) .inside)
  | .named negated => add (current.add (.named negated) .inside)
  | .operator =>
    if current.content.depth ≤ maxDepth then
      add { current with left := some current.content, parts := [], place := .inside }
    else none
  | .classStarts negated => some { draft with classes := .start negated :: current :: outer }
  | .classEnds => draft.closeClass? current.close outer
  | _ => none
where
  /-- The draft with another class in the place of the one added to. -/
  add (current : OpenClass) : Option Draft :=
    some { draft with classes := current :: outer }

/-- The draft with a token added. -/
def add? (draft : Draft) (token : Token) : Option Draft :=
  match draft.classes with
  | [] => draft.addOutside? token
  | current :: outer => draft.addInside? current outer token

/-- The pattern that a draft makes up at the end of the text. -/
def finish? (draft : Draft) : Option Expression :=
  let pattern := draft.choices.toExpression
  if draft.groups.isEmpty ∧ draft.classes.isEmpty ∧ pattern.depth ≤ maxDepth then some pattern
  else none

/-- Reads the rest of a pattern. -/
def read? (draft : Draft) (text : List Char) : Option Expression :=
  match h : behindNothing draft.spaced text with
  | [] => draft.finish?
  | c :: rest =>
    match token draft.spaced draft.place c rest with
    | none => none
    | some (token, left) =>
      match draft.add? token with
      | none => none
      | some draft =>
        have : left.val.length < text.length :=
          calc left.val.length
            _ ≤ rest.length := left.property.length_le
            _ < (c :: rest).length := Nat.lt_succ_self _
            _ ≤ text.length := h ▸ (behindNothing_suffix _ text).length_le
        draft.read? left.val
termination_by text.length

end Draft

/-- The pattern that a text is. -/
def Expression.ofText? (text : List Char) : Option Expression :=
  Draft.start.read? text

end PrefetchInfo.Pattern
