import PrefetchInfo.Codepage.Name
import PrefetchInfo.Text.Terminal

/-!
# Command line arguments

The tool takes options, in a long form or as letters that may be put together behind one `-`, and a
file. The value of an option stands behind its letter, after a `=`, or in the next argument; it is
looked at when the next argument is, so an argument the tool does not know is reported before a value
it does not accept. Behind `--` everything is a file.

A usage error quotes what it complains of, and its report is composed for a terminal. Where none reads
it, the control sequences are left out, those of the report and those of what it quotes alike.
-/

namespace PrefetchInfo.CommandLine

/-- The options of the tool. -/
inductive Opt where
  | codepage | logFile | unbuffered | verbose | version | help
  deriving DecidableEq, Repr

namespace Opt

/-- All options. -/
def all : List Opt :=
  [codepage, logFile, unbuffered, verbose, version, help]

/-- The letter of an option. -/
def letter : Opt → Char
  | codepage => 'c'
  | logFile => 'l'
  | unbuffered => 'u'
  | verbose => 'v'
  | version => 'V'
  | help => 'h'

/-- The long form of an option, without the dashes. -/
def word : Opt → String
  | codepage => "codepage"
  | logFile => "log-file"
  | unbuffered => "unbuffered"
  | verbose => "verbose"
  | version => "version"
  | help => "help"

/-- Whether an option takes a value. -/
def takesValue : Opt → Bool
  | codepage | logFile => true
  | _ => false

/-- An option as it is shown to the user. -/
def shown (opt : Opt) : String :=
  "--" ++ opt.word ++
    match opt with
    | codepage => " <CODEPAGE>"
    | logFile => " <LOGFILE>"
    | verbose => "..."
    | _ => ""

/-- The option with a given letter, as a byte. -/
def ofLetter? (byte : UInt8) : Option Opt :=
  all.find? fun opt => ascii opt.letter = byte

/-- The option with a given long form. -/
def ofWord? (word : Bytes) : Option Opt :=
  all.find? fun opt => utf8 opt.word = word

end Opt

/-- The file argument as it is shown to the user. -/
def fileShown : String := "[FILE]"

/-- What is wrong with a command line. -/
inductive UsageError where
  /-- An argument the tool does not know. -/
  | unexpectedArgument (argument : String)
  /-- No file, though one is needed. -/
  | fileMissing
  /-- An option, or the file, without its value. -/
  | valueMissing (shown : String)
  /-- A codepage the tool does not know; `reason` says so. -/
  | invalidCodepage (value reason : String)
  /-- An option that is given again. -/
  | repeated (opt : Opt)
  /-- A value for an option that takes none. -/
  | unexpectedValue (value : String) (opt : Opt)
  /-- Bytes that are no text where text is needed. -/
  | notText
  deriving DecidableEq, Repr

namespace UsageError

open Terminal

/-- What a usage error says of the command line, for a terminal. -/
def complaint : UsageError → String
  | unexpectedArgument argument => "unexpected argument '" ++ marked argument ++ "' found"
  | fileMissing => "the following required arguments were not provided:"
  | valueMissing shown => "a value is required for '" ++ bold shown ++ "' but none was supplied"
  | invalidCodepage value reason =>
    "invalid value '" ++ marked value ++ "' for '" ++ bold Opt.codepage.shown ++ "': " ++ reason
  | repeated opt => "the argument '" ++ marked opt.shown ++ "' cannot be used multiple times"
  | unexpectedValue value opt =>
    "unexpected value '" ++ marked value ++ "' for '" ++ bold opt.shown ++
      "' found; no more were expected"
  | notText => "invalid UTF-8 was detected in one or more arguments"

/-- A usage error as it is reported to a terminal, with a hint at the option that helps. -/
def report (error : UsageError) : String :=
  bold "error:" ++ " " ++ error.complaint ++ "\n\nFor more information, try '" ++
    bold ("--" ++ Opt.help.word) ++ "'.\n"

/-- What is left of the report where no terminal reads it. -/
def plainReport (error : UsageError) : Bytes :=
  visible (utf8 error.report)

/-- The first line of the report where no terminal reads it. -/
def headline (error : UsageError) : Bytes :=
  firstLine error.plainReport

end UsageError

/-- Why a command line leads to no run. -/
inductive Refusal where
  /-- It is not understood. -/
  | usage (error : UsageError)
  /-- It asks for help. -/
  | helpWanted
  deriving DecidableEq, Repr

/-! ### Understanding the arguments -/

/-- What waits to be looked at. -/
inductive Pending where
  /-- Nothing. -/
  | nothing
  /-- An option whose value is the next argument. -/
  | opt (opt : Opt)
  /-- An option and its value. -/
  | value (opt : Opt) (value : Bytes)
  /-- The file. -/
  | file (path : Bytes)
  deriving DecidableEq, Repr

/-- What has been understood of a command line. -/
structure Draft where
  /-- The codepage, once it is accepted. -/
  codepage : Option Codepage := none
  /-- The log file, once it is accepted. -/
  logFile : Option Bytes := none
  /-- The file, once it is accepted. -/
  source : Option Bytes := none
  /-- Whether output is unbuffered. -/
  unbuffered : Bool := false
  /-- Whether the version is wanted. -/
  version : Bool := false
  /-- How often more diagnostics were asked for, at most 255. -/
  verbosity : Nat := 0
  /-- What waits to be looked at. -/
  pending : Pending := .nothing
  /-- Whether a file was given, be it accepted or still waiting. -/
  fileGiven : Bool := false
  /-- Whether only files follow. -/
  onlyFiles : Bool := false
  deriving Repr

namespace Draft

/-- Accepts the value of an option. -/
def assign (draft : Draft) (opt : Opt) (value : Bytes) : Except UsageError Draft :=
  match opt with
  | .codepage =>
    if draft.codepage.isSome then .error (.repeated opt)
    else if ¬ Utf8.isValid value then .error .notText
    else
      let name := Utf8.lossy value
      match Codepage.ofName name with
      | .ok codepage => .ok { draft with codepage := some codepage }
      | .error chain => .error (.invalidCodepage name chain.brief)
  | .logFile =>
    if draft.logFile.isSome then .error (.repeated opt)
    else if value = [] then .error (.valueMissing opt.shown)
    else .ok { draft with logFile := some value }
  | _ => .ok draft

/-- Looks at what waits. -/
def settle (draft : Draft) : Except UsageError Draft :=
  let settled := { draft with pending := .nothing }
  match draft.pending with
  | .nothing => .ok draft
  | .opt opt => .error (.valueMissing opt.shown)
  | .value opt value => settled.assign opt value
  | .file path =>
    if path = [] then .error (.valueMissing fileShown) else .ok { settled with source := some path }

/-- Takes an option that has no value. -/
def turnOn (draft : Draft) (opt : Opt) : Except Refusal Draft := do
  let draft ← draft.settle.mapError .usage
  match opt with
  | .unbuffered =>
    if draft.unbuffered then .error (.usage (.repeated opt))
    else .ok { draft with unbuffered := true }
  | .version =>
    if draft.version then .error (.usage (.repeated opt))
    else .ok { draft with version := true }
  | .verbose => .ok { draft with verbosity := min 255 (draft.verbosity + 1) }
  | .help => .error .helpWanted
  | _ => .ok draft

/-- Takes an option and the value that came with it. -/
def takeAttached (draft : Draft) (opt : Opt) (value : Bytes) : Except Refusal Draft := do
  let draft ← draft.settle.mapError .usage
  (draft.assign opt value).mapError .usage

/-- Takes an option whose value is the next argument. -/
def takeDetached (draft : Draft) (opt : Opt) : Except Refusal Draft := do
  let draft ← draft.settle.mapError .usage
  .ok { draft with pending := .opt opt }

/-- Takes an argument that is a file, of which there can be only one. -/
def takeFile (draft : Draft) (argument : Bytes) : Except Refusal Draft :=
  if draft.fileGiven then .error (.usage (.unexpectedArgument (Utf8.lossy argument)))
  else do
    let draft ← draft.settle.mapError .usage
    .ok { draft with pending := .file argument, fileGiven := true }

/-- Takes an option in its long form; `word` is what follows the dashes. -/
def takeWord (draft : Draft) (word : Bytes) : Except Refusal Draft :=
  let name := word.takeWhile (· ≠ ascii '=')
  let attached := (word.drop name.length).tail?
  match Opt.ofWord? name, attached with
  | none, _ => .error (.usage (.unexpectedArgument ("--" ++ Utf8.lossy name)))
  | some opt, some value =>
    if opt.takesValue then draft.takeAttached opt value
    else .error (.usage (.unexpectedValue (Utf8.lossy value) opt))
  | some opt, none => if opt.takesValue then draft.takeDetached opt else draft.turnOn opt

/-- The start of a text as it is shown if it is no letter of an option: a character, or all of it if it
starts with none. -/
def unknownLetter (letters : Bytes) : String :=
  match Utf8.pieces letters with
  | .char c :: _ => String.singleton c
  | _ => Utf8.lossy letters

/-- Takes options by their letters. -/
def takeLetters (draft : Draft) : Bytes → Except Refusal Draft
  | [] => .ok draft
  | letter :: rest =>
    match Opt.ofLetter? letter with
    | none => .error (.usage (.unexpectedArgument ("-" ++ unknownLetter (letter :: rest))))
    | some opt =>
      if opt.takesValue then
        if rest = [] then draft.takeDetached opt
        else draft.takeAttached opt (if rest.head? = some (ascii '=') then rest.tail else rest)
      else
        match draft.turnOn opt with
        | .ok draft => draft.takeLetters rest
        | .error refusal => .error refusal

/-- Takes an argument that is no option: the value an option waits for, or the file. -/
def takePlain (draft : Draft) (argument : Bytes) : Except Refusal Draft :=
  match draft.pending with
  | .opt opt => .ok { draft with pending := .value opt argument }
  | _ => draft.takeFile argument

/-- Takes the next argument. -/
def take (draft : Draft) (argument : Bytes) : Except Refusal Draft :=
  if draft.onlyFiles then draft.takeFile argument
  else
    match argument with
    | [] => draft.takePlain []
    | first :: rest =>
      if first ≠ ascii '-' ∨ rest = [] then draft.takePlain argument
      else if rest = [ascii '-'] then .ok { draft with onlyFiles := true }
      else if rest.head? = some (ascii '-') then draft.takeWord rest.tail
      else draft.takeLetters rest

end Draft

/-! ### The command line as a whole -/

/-- What the user wants the tool to do. -/
structure Invocation where
  /-- The file to look at; there is one unless the version is wanted. -/
  source : Option Bytes
  /-- The codepage of narrow strings. -/
  codepage : Codepage
  /-- The file that diagnostics go to instead of standard error. -/
  logFile : Option Bytes
  /-- Whether output is unbuffered. -/
  unbuffered : Bool
  /-- How much is told, from 0 on. -/
  verbosity : Nat
  /-- Whether the version is wanted instead of a file. -/
  version : Bool
  deriving DecidableEq, Repr

/-- What the arguments ask for. -/
def Invocation.ofArguments (arguments : List Bytes) : Except Refusal Invocation := do
  let draft ← arguments.foldlM Draft.take {}
  let draft ← draft.settle.mapError .usage
  if draft.source.isNone ∧ ¬ draft.version then .error (.usage .fileMissing)
  else .ok {
    source := draft.source
    codepage := draft.codepage.getD default
    logFile := draft.logFile
    unbuffered := draft.unbuffered
    verbosity := draft.verbosity
    version := draft.version }

end PrefetchInfo.CommandLine
