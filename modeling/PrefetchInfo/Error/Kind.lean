/-!
# Kinds of errors

An error record is of a kind: a domain (invalid arguments, input and output, input data, internal
state) and what went wrong in it. Kinds have a text for people and a letter and a number for
numeric reports.
-/

namespace PrefetchInfo

/-- What is wrong with an argument passed to an operation. -/
inductive ArgumentError where
  | generic | invalidValue | valueLessThanZero | valueZeroOrLess | valueExceedsMaximum
  | valueTooSmall | valueTooLarge | valueOutOfBounds | unsupportedValue | conflictingValue
  deriving DecidableEq, Repr

/-- All argument errors, in the order of their codes. -/
def ArgumentError.all : List ArgumentError :=
  [generic, invalidValue, valueLessThanZero, valueZeroOrLess, valueExceedsMaximum, valueTooSmall,
   valueTooLarge, valueOutOfBounds, unsupportedValue, conflictingValue]

/-- The text of an argument error. -/
def ArgumentError.text : ArgumentError → String
  | generic => "generic argument error"
  | invalidValue => "invalid value"
  | valueLessThanZero => "value less than zero"
  | valueZeroOrLess => "value zero or less"
  | valueExceedsMaximum => "value exceeds maximum"
  | valueTooSmall => "value too small"
  | valueTooLarge => "value too large"
  | valueOutOfBounds => "value out of bounds"
  | unsupportedValue => "unsupported value"
  | conflictingValue => "conflicting value"

/-- What failed in input or output. -/
inductive InOutError where
  | generic | openFailed | closeFailed | seekFailed | readFailed | writeFailed | accessDenied
  | invalidResource | ioctlFailed | unlinkFailed
  deriving DecidableEq, Repr

/-- All input and output errors, in the order of their codes. -/
def InOutError.all : List InOutError :=
  [generic, openFailed, closeFailed, seekFailed, readFailed, writeFailed, accessDenied,
   invalidResource, ioctlFailed, unlinkFailed]

/-- The text of an input or output error. -/
def InOutError.text : InOutError → String
  | generic => "generic input/output error"
  | openFailed => "open failed"
  | closeFailed => "close failed"
  | seekFailed => "seek failed"
  | readFailed => "read failed"
  | writeFailed => "write failed"
  | accessDenied => "access denied"
  | invalidResource => "invalid resource"
  | ioctlFailed => "ioctl failed"
  | unlinkFailed => "unlink failed"

/-- What is wrong with input data. -/
inductive InputError where
  | generic | invalidData | signatureMismatch | checksumMismatch | valueMismatch
  deriving DecidableEq, Repr

/-- All input errors, in the order of their codes. -/
def InputError.all : List InputError :=
  [generic, invalidData, signatureMismatch, checksumMismatch, valueMismatch]

/-- The text of an input error. -/
def InputError.text : InputError → String
  | generic => "generic input error"
  | invalidData => "invalid data"
  | signatureMismatch => "signature mismatch"
  | checksumMismatch => "checksum mismatch"
  | valueMismatch => "value mismatch"

/-- What was unexpected in the state of the program. -/
inductive RuntimeError where
  | generic | valueMissing | valueAlreadySet | initializeFailed | resizeFailed | finalizeFailed
  | getFailed | setFailed | appendFailed | copyFailed | removeFailed | printFailed
  | valueOutOfBounds | valueExceedsMaximum | unsupportedValue | abortRequested
  deriving DecidableEq, Repr

/-- All runtime errors, in the order of their codes. -/
def RuntimeError.all : List RuntimeError :=
  [generic, valueMissing, valueAlreadySet, initializeFailed, resizeFailed, finalizeFailed,
   getFailed, setFailed, appendFailed, copyFailed, removeFailed, printFailed, valueOutOfBounds,
   valueExceedsMaximum, unsupportedValue, abortRequested]

/-- The text of a runtime error. -/
def RuntimeError.text : RuntimeError → String
  | generic => "generic runtime error"
  | valueMissing => "value missing"
  | valueAlreadySet => "value already set"
  | initializeFailed => "initialize failed"
  | resizeFailed => "resize failed"
  | finalizeFailed => "finalize failed"
  | getFailed => "get failed"
  | setFailed => "set failed"
  | appendFailed => "append failed"
  | copyFailed => "copy failed"
  | removeFailed => "remove failed"
  | printFailed => "print failed"
  | valueOutOfBounds => "value out of bounds"
  | valueExceedsMaximum => "value exceeds maximum"
  | unsupportedValue => "unsupported value"
  | abortRequested => "abort requested"

/-- The kind of an error record: a domain and, within it, what went wrong. -/
inductive ErrorKind where
  /-- A missing or invalid argument. -/
  | argument (code : ArgumentError)
  /-- A failure to open, close, read, write or redirect. -/
  | inOut (code : InOutError)
  /-- Unexpected or unsupported input data. -/
  | input (code : InputError)
  /-- An unexpected internal state. -/
  | runtime (code : RuntimeError)
  /-- Anything that no other kind describes. -/
  | generic
  deriving DecidableEq, Repr

namespace ErrorKind

/-- All kinds, domain by domain and in the order of their codes. -/
def all : List ErrorKind :=
  ArgumentError.all.map argument ++ InOutError.all.map inOut ++ InputError.all.map input ++
    RuntimeError.all.map runtime ++ [generic]

/-- The letter of a kind's domain in numeric reports. -/
def domain : ErrorKind → Char
  | argument _ => 'a'
  | inOut _ => 'I'
  | input _ => 'i'
  | runtime _ => 'r'
  | generic => 'g'

/-- The number of a kind within its domain. -/
def code : ErrorKind → Nat
  | argument code => ArgumentError.all.idxOf code
  | inOut code => InOutError.all.idxOf code
  | input code => InputError.all.idxOf code
  | runtime code => RuntimeError.all.idxOf code
  | generic => 0

/-- The text of a kind. -/
def text : ErrorKind → String
  | argument code => "argument error: " ++ code.text
  | inOut code => "input/output error: " ++ code.text
  | input code => "input error: " ++ code.text
  | runtime code => "runtime error: " ++ code.text
  | generic => "generic error"

end ErrorKind

end PrefetchInfo
