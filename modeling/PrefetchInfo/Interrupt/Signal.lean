/-!
# Interruptions

The kinds of interruptions a tool can trap, whatever the platform calls them, and their codes on the
platform.
-/

namespace PrefetchInfo

/-- The kinds of interruptions that are trapped. -/
inductive Signal where
  /-- A key of the keyboard asked to stop. -/
  | interrupt
  /-- The terminal was closed. -/
  | hangup
  /-- Somebody asked the process to end. -/
  | terminate
  deriving DecidableEq, Repr

namespace Signal

/-- All kinds of interruptions, in the order in which they are trapped. -/
def all : List Signal :=
  [interrupt, hangup, terminate]

/-- The code of an interruption on the platform. -/
def raw : Signal → Int32
  | interrupt => 2
  | hangup => 1
  | terminate => 15

/-- The interruption with a given code, if it is one that is trapped. -/
def ofRaw? (raw : Int32) : Option Signal :=
  all.find? fun signal => signal.raw = raw

/-- The name of an interruption. -/
def name : Signal → String
  | interrupt => "Interrupt"
  | hangup => "Hangup"
  | terminate => "Terminate"

end Signal

end PrefetchInfo
