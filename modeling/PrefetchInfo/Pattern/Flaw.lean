import PrefetchInfo.Pattern.Draft

/-!
# What keeps patterns from being matched

A text is matched against a pattern with neither tables of the properties of characters nor a look at
more than one character around a place. So under the flag `unicode`, as patterns start, the case of a
character cannot be ignored, there are no marks for digits, white space and characters of words, and
the ends of words cannot be told. Without that flag all of these concern the characters of ASCII only;
but then a pattern is about bytes, and must not take bytes that are no characters.
-/

namespace PrefetchInfo.Pattern

/-- The flags that decide whether a part of a pattern can be matched. -/
structure Mode where
  /-- Whether case is ignored. -/
  ignoreCase : Bool
  /-- Whether the pattern is about characters, not about bytes. -/
  unicode : Bool
  deriving DecidableEq, Repr

namespace Mode

/-- The mode in which patterns start. -/
def start : Mode :=
  ⟨false, true⟩

/-- The mode after a change of flags. -/
def apply (mode : Mode) (flags : Flags) : Mode :=
  ⟨flags.update .ignoreCase mode.ignoreCase, flags.update .unicode mode.unicode⟩

end Mode

/-- The highest code that is the same as a character and as a byte. -/
def maxAscii : Nat := 0x7f

/-! ### Classes -/

/-- Whether a character can be matched as a member of a class. -/
def Literal.fitsClass (literal : Literal) (mode : Mode) : Bool :=
  if mode.unicode then !mode.ignoreCase else literal.char.toNat ≤ maxAscii

namespace CharacterSet

mutual

/-- Whether a class can be matched. -/
def fits (mode : Mode) : CharacterSet → Bool
  | empty => true
  | literal member => member.fitsClass mode
  | range first last => first.fitsClass mode && last.fitsClass mode
  | shorthand negated => !mode.unicode && !negated
  | named negated => if mode.unicode then !mode.ignoreCase else !negated
  | brackets negated content => content.fits mode && (mode.unicode || !negated)
  | union parts => allFit mode parts
  | operation left right => left.fits mode && right.fits mode

/-- Whether all of some parts of a class can be matched. -/
def allFit (mode : Mode) : List CharacterSet → Bool
  | [] => true
  | part :: parts => part.fits mode && allFit mode parts

end

end CharacterSet

/-! ### Patterns -/

/-- Whether a character can be matched. -/
def Literal.fits (literal : Literal) (mode : Mode) : Bool :=
  if mode.unicode then !mode.ignoreCase
  else !literal.isByte || literal.char.toNat ≤ maxAscii

/-- What has been found out about a pattern up to some place. -/
structure Survey where
  /-- The mode at that place. -/
  mode : Mode
  /-- Whether the ends of words have to be told. -/
  wordEdges : Bool
  deriving DecidableEq, Repr

/-- The survey, if what follows can be matched. -/
def Survey.keepIf (survey : Survey) (fits : Bool) : Option Survey :=
  if fits then some survey else none

namespace Expression

mutual

/-- The survey behind a pattern, if the pattern can be matched but perhaps for the ends of words. -/
def survey? (survey : Survey) : Expression → Option Survey
  | empty | edge => some survey
  | literal char => survey.keepIf (char.fits survey.mode)
  | any => survey.keepIf survey.mode.unicode
  | wordEdge => some { survey with wordEdges := survey.wordEdges || survey.mode.unicode }
  | shorthand negated => survey.keepIf (!survey.mode.unicode && !negated)
  | charFrom set => survey.keepIf (set.fits survey.mode)
  | settings flags => some { survey with mode := survey.mode.apply flags }
  | repeated pattern => pattern.survey? survey
  | group flags pattern =>
    (pattern.survey? { survey with mode := survey.mode.apply flags }).map
      ({ · with mode := survey.mode })
  | sequence patterns | choice patterns => surveyAll? survey patterns

/-- The survey behind several patterns. -/
def surveyAll? (survey : Survey) : List Expression → Option Survey
  | [] => some survey
  | pattern :: patterns =>
    match pattern.survey? survey with
    | none => none
    | some survey => surveyAll? survey patterns

end

end Expression

/-! ### Flaws -/

/-- Why a text is no pattern that can be matched. -/
inductive Flaw where
  /-- It is no pattern, or none that can be matched. -/
  | unusable
  /-- The ends of words would have to be told. -/
  | wordEdges
  deriving DecidableEq, Repr

/-- What a flaw says. -/
def Flaw.message : Flaw → String
  | unusable => "error building NFA"
  | wordEdges =>
    "unsupported regex feature for DFAs: cannot build DFAs for regexes with Unicode word " ++
      "boundaries; switch to ASCII word boundaries, or heuristically enable Unicode word " ++
      "boundaries or use a different regex engine"

/-- Why a text is no pattern that can be matched, if it is none. -/
def flaw? (text : List Char) : Option Flaw :=
  match (Expression.ofText? text).bind (Expression.survey? ⟨.start, false⟩) with
  | none => some .unusable
  | some survey => if survey.wordEdges then some .wordEdges else none

end PrefetchInfo.Pattern
