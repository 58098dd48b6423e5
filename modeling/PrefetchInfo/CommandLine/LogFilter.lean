import PrefetchInfo.CommandLine.Directive
import PrefetchInfo.Event

/-!
# Which events are shown

A filter shows an event up to a level, and other levels where one of its rules says so: for the areas
that start with a name, and for the events that have a field. Of several rules for an event the one
with the longest name decides, then one that asks for a field, then the one whose field comes last in
the alphabet; of two rules for the same area and field the later takes the place of the earlier.

The rules are given as directives, separated by commas. A text between commas that is no directive is
left out, and the filter says so. A level alone is a rule for everything, and so is the level of the
verbosity, which is later than all directives.
-/

namespace PrefetchInfo.CommandLine

/-- A rule about some events. -/
structure LogRule where
  /-- What the areas concerned start with; none stands for all areas. -/
  area : Option Bytes
  /-- The field that the events concerned have; none stands for all events. -/
  field : Option Bytes
  /-- How much of them is shown, 0 for nothing and 5 for everything. -/
  detail : Nat
  deriving DecidableEq, Repr

namespace LogRule

/-- The rule that a directive stands for, if it can concern events. -/
def ofDirective? (directive : Directive) : Option LogRule :=
  if directive.concernsEvents then
    some ⟨directive.area, directive.field.map FieldDemand.name, directive.detail⟩
  else none

/-- Whether a rule is about an event; every event has a message, which is one of its fields. -/
def concerns (rule : LogRule) (event : Event) : Bool :=
  (rule.area.all fun area => area.isPrefixOf (utf8 event.area)) &&
    rule.field.all fun field => field ∈ (("message" :: event.fields.map Prod.fst).map utf8)

/-- The order of rules about one event by what they ask: first by the length of the name of the area,
then by the field. -/
def precedence (rule other : LogRule) : Ordering :=
  let weight (rule : LogRule) : Nat := rule.area.elim 0 fun area => area.length + 1
  (compare (weight rule) (weight other)).then <|
    match rule.field, other.field with
    | none, none => .eq
    | none, some _ => .lt
    | some _, none => .gt
    | some field, some other => compare field other

/-- Of a rule and a later one about the same event, the one that decides. -/
def decisive (rule later : LogRule) : LogRule :=
  if rule.precedence later = .gt then rule else later

end LogRule

/-- A filter of events. -/
structure LogFilter where
  /-- The rules, the later behind the earlier. -/
  rules : List LogRule
  /-- What it says of texts that are no directives, a line each. -/
  complaints : List String
  deriving DecidableEq, Repr

namespace LogFilter

/-- The level shown at a verbosity. -/
def levelOf : Nat → Level
  | 0 => .warn
  | 1 => .info
  | 2 => .debug
  | _ => .trace

/-- The texts between the commas of a setting; bytes that are no text set nothing. -/
def texts (setting : Bytes) : List String :=
  if Utf8.isValid setting then ((Utf8.lossy setting).splitOn ",").filter (· ≠ "") else []

/-- What is said of a text that is no directive. -/
def complaint? (text : String) : Option String :=
  match Directive.ofText text with
  | .ok _ => none
  | .error fault => some ("ignoring \x60" ++ text ++ "\x60: " ++ fault.message)

/-- The rule that a text stands for, if it is a directive that can concern events. -/
def rule? (text : String) : Option LogRule :=
  (Directive.ofText text).toOption.bind LogRule.ofDirective?

/-- The filter for a verbosity and a setting. -/
def ofSettings (verbosity : Nat) (setting : Bytes) : LogFilter where
  rules := (texts setting).filterMap rule? ++ [⟨none, none, (levelOf verbosity).detail⟩]
  complaints := (texts setting).filterMap complaint?

/-- The rule that decides about an event. -/
def ruleFor? (filter : LogFilter) (event : Event) : Option LogRule :=
  match filter.rules.filter (·.concerns event) with
  | [] => none
  | rule :: later => some (later.foldl LogRule.decisive rule)

/-- Whether an event is shown. -/
def shows (filter : LogFilter) (event : Event) : Bool :=
  (filter.ruleFor? event).any fun rule => event.level.detail ≤ rule.detail

/-- A character of a message in the log: the controls that terminals act on are spelled out. -/
def spelledOut (c : Char) : List Char :=
  if c = '\x1b' then ['\\', 'x', '1', 'b']
  else if c = '\x07' then ['\\', 'x', '0', '7']
  else if c = '\x08' then ['\\', 'x', '0', '8']
  else if c = '\x0c' then ['\\', 'x', '0', 'c']
  else if c = '\x7f' then ['\\', 'x', '7', 'f']
  else if 0x80 ≤ c.toNat ∧ c.toNat ≤ 0x9f then
    ['\\', 'u', '\x7b'] ++ Nat.toDigits 16 c.toNat ++ ['\x7d']
  else [c]

/-- The line of the log for an event: its level, in five columns, and its text. -/
def line (event : Event) : String :=
  let level := event.level.name
  let fields := String.join (event.fields.map fun (name, value) => " " ++ name ++ "=" ++ value)
  String.ofList (List.replicate (5 - level.length) ' ') ++ level ++ " " ++
    String.ofList (event.message.toList.flatMap spelledOut) ++ fields ++ "\n"

/-- What a filter says of itself, before anything happens. -/
def preamble (filter : LogFilter) : Bytes :=
  filter.complaints.flatMap fun complaint => utf8 (complaint ++ "\n")

end LogFilter

end PrefetchInfo.CommandLine
