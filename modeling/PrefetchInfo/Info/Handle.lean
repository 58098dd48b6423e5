import PrefetchInfo.Info.Description
import PrefetchInfo.Interrupt.AbortFlag
import PrefetchInfo.Notify.Stream
import PrefetchInfo.Signature.Check

/-!
# The handle of an input file

A handle holds at most one input file: the signature read when it was opened, which everything that
is printed later is taken from. Opening looks at the abort flag twice, before and after the header is
read. Opening and closing tell what became of the handle also if they fail.
-/

namespace PrefetchInfo.Info

/-- An input file that is open. -/
structure InputFile where
  /-- The path it was opened under. -/
  path : Bytes
  /-- The signature it had then. -/
  signature : Signature
  deriving DecidableEq, Repr

/-- The handle of an input file. -/
structure Handle where
  /-- The codepage of narrow strings. -/
  codepage : Codepage
  /-- The input file, if one is open. -/
  input : Option InputFile
  deriving DecidableEq, Repr

namespace Handle

/-- The handle with no file open. -/
def new (codepage : Codepage) : Handle :=
  ⟨codepage, none⟩

/-- The error of an operation that needs an open file. -/
def nothingOpen : ErrorChain :=
  .single (.runtime .valueMissing) "no input file open"

/-- Opens the file `path` whose signature was checked, if it has one: the result, the handle after that,
and what developers are told. -/
def accept (handle : Handle) (path : Bytes) (detected : Option Signature) :
    Except ErrorChain Unit × Handle × List Event :=
  match detected with
  | none => (.error (.single (.input .signatureMismatch) "unsupported file signature"), handle, [])
  | some signature =>
    (.ok (), { handle with input := some ⟨path, signature⟩ },
      [.inputOpened path signature.fileType])

/-- Opens the file `path`, given how opening it for reading ends and the abort flag as it is before
and after its header is read: the result, the handle after that, and what developers are told. -/
def openInput (handle : Handle) (path : Bytes) (opened : Except Failure Source)
    (before after : AbortFlag) : Except ErrorChain Unit × Handle × List Event :=
  if handle.input.isSome then
    (.error (.single (.runtime .valueAlreadySet) "input file already open"), handle, [])
  else
    match before.check with
    | .error chain => (.error chain, handle, [])
    | .ok () =>
      match Signature.ofFile path opened with
      | (.error chain, events) => (.error chain, handle, events)
      | (.ok detected, events) =>
        match after.check with
        | .error chain => (.error chain, handle, events)
        | .ok () =>
          let (result, handle, more) := handle.accept path detected
          (result, handle, events ++ more)

/-- Closes the input file, which is taken from the handle: the result, the handle after that, and what
developers are told. -/
def closeInput (handle : Handle) : Except ErrorChain Unit × Handle × List Event :=
  let emptied := { handle with input := none }
  match handle.input with
  | some input => (.ok (), emptied, [.inputClosed input.path])
  | none => (.error nothingOpen, emptied, [])

/-- The heading of the header dump. -/
def dumpHeading : String := "File header data:\n"

variable {τ σ φ ω : Type}

/-- Writes the header dump to a notify stream. -/
def printHeader (signature : Signature) (outlets : Notify.Outlets σ φ ω)
    (stream : NotifyStream φ ω) (s : σ) : Except ErrorChain Unit × NotifyStream φ ω × σ :=
  match stream.emit outlets dumpHeading s with
  | (.error chain, stream, s) => (.error chain, stream, s)
  | (.ok _, stream, s) =>
    let (result, stream, s) := stream.printData outlets signature.header s
    (result.map fun _ => (), stream, s)

/-- Writes the description of the input file to a device, and then the header dump to a notify
stream. -/
def print (handle : Handle) (out : Device τ) (outlets : Notify.Outlets σ φ ω)
    (stream : NotifyStream φ ω) (t : τ) (s : σ) :
    Except ErrorChain Unit × τ × NotifyStream φ ω × σ :=
  match handle.input with
  | none => (.error nothingOpen, t, stream, s)
  | some input =>
    match out.writeAll (utf8 (description input.signature handle.codepage)) t with
    | (.error failure, t) =>
      (context (.error failure) (.inOut .writeFailed) "unable to write file information", t, stream, s)
    | (.ok (), t) =>
      let (result, stream, s) := printHeader input.signature outlets stream s
      (result, t, stream, s)

end Handle

end PrefetchInfo.Info
