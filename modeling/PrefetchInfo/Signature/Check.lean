import PrefetchInfo.Error.Chain
import PrefetchInfo.Event
import PrefetchInfo.Signature.Source

/-!
# Checking the signature of a source

The header is read from a source or from a file and looked at. Data that ends within the header is
data without a signature, not a failure.
-/

namespace PrefetchInfo.Signature

/-- The answer of a check that succeeded in reading, and what developers are told. -/
abbrev Checked := Except ErrorChain (Option Signature) × List Event

/-- The signature of a source of which the header was read. -/
def ofReading (reading : Reading) : Checked :=
  match reading.ending with
  | .complete => (.ok (detect reading.bytes), [])
  | .ended => (.ok none, [.shortHeader])
  | .failed failure =>
    if failure.kind = .unexpectedEof then (.ok none, [.shortHeader])
    else (.error (.ofFailure failure), [])

/-- The signature of a source. -/
def ofSource (source : Source) : Checked :=
  ofReading (source.take headerSize)

/-- The signature of the file `path`, given how opening it for reading ended. -/
def ofFile (path : Bytes) (opened : Except Failure Source) : Checked :=
  match context opened (.inOut .openFailed) ("unable to open file: " ++ Utf8.lossy path) with
  | .error chain => (.error chain, [])
  | .ok source =>
    let (checked, events) := ofSource source
    (context checked (.inOut .readFailed) ("unable to read file header: " ++ Utf8.lossy path), events)

end PrefetchInfo.Signature
