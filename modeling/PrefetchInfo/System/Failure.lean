import PrefetchInfo.System.Errno

/-!
# Failures of input and output

What can go wrong when a file is opened or a device is used: the system refuses with an error
number, or a reader or writer reports a failure of some kind. `Failure.kind` sorts failures,
`Failure.text` says them.
-/

namespace PrefetchInfo

/-- The kinds that failures of input and output are sorted into. -/
inductive FailureKind where
  | addrInUse | addrNotAvailable | alreadyExists | argumentListTooLong | brokenPipe
  | connectionAborted | connectionRefused | connectionReset | crossesDevices | deadlock
  | directoryNotEmpty | executableFileBusy | fileTooLarge | filesystemLoop | hostUnreachable
  | inProgress | inputOutputError | interrupted | invalidData | invalidFilename | invalidInput
  | isADirectory | networkDown | networkUnreachable | notADirectory | notConnected | notFound
  | notSeekable | other | outOfMemory | permissionDenied | quotaExceeded | readOnlyFilesystem
  | resourceBusy | staleNetworkFileHandle | storageFull | timedOut | tooManyLinks
  | tooManyOpenFiles | uncategorized | unexpectedEof | unsupported | wouldBlock | writeZero
  deriving DecidableEq, Repr

namespace FailureKind

/-- All kinds of failures. -/
def all : List FailureKind :=
  [addrInUse, addrNotAvailable, alreadyExists, argumentListTooLong, brokenPipe, connectionAborted,
   connectionRefused, connectionReset, crossesDevices, deadlock, directoryNotEmpty,
   executableFileBusy, fileTooLarge, filesystemLoop, hostUnreachable, inProgress, inputOutputError,
   interrupted, invalidData, invalidFilename, invalidInput, isADirectory, networkDown,
   networkUnreachable, notADirectory, notConnected, notFound, notSeekable, other, outOfMemory,
   permissionDenied, quotaExceeded, readOnlyFilesystem, resourceBusy, staleNetworkFileHandle,
   storageFull, timedOut, tooManyLinks, tooManyOpenFiles, uncategorized, unexpectedEof, unsupported,
   wouldBlock, writeZero]

/-- The text of a failure of which only the kind is known. -/
def text : FailureKind → String
  | addrInUse => "address in use"
  | addrNotAvailable => "address not available"
  | alreadyExists => "entity already exists"
  | argumentListTooLong => "argument list too long"
  | brokenPipe => "broken pipe"
  | connectionAborted => "connection aborted"
  | connectionRefused => "connection refused"
  | connectionReset => "connection reset"
  | crossesDevices => "cross-device link or rename"
  | deadlock => "deadlock"
  | directoryNotEmpty => "directory not empty"
  | executableFileBusy => "executable file busy"
  | fileTooLarge => "file too large"
  | filesystemLoop => "filesystem loop or indirection limit (e.g. symlink loop)"
  | hostUnreachable => "host unreachable"
  | inProgress => "in progress"
  | inputOutputError => "input/output error"
  | interrupted => "operation interrupted"
  | invalidData => "invalid data"
  | invalidFilename => "invalid filename"
  | invalidInput => "invalid input parameter"
  | isADirectory => "is a directory"
  | networkDown => "network down"
  | networkUnreachable => "network unreachable"
  | notADirectory => "not a directory"
  | notConnected => "not connected"
  | notFound => "entity not found"
  | notSeekable => "seek on unseekable file"
  | other => "other error"
  | outOfMemory => "out of memory"
  | permissionDenied => "permission denied"
  | quotaExceeded => "quota exceeded"
  | readOnlyFilesystem => "read-only filesystem or storage medium"
  | resourceBusy => "resource busy"
  | staleNetworkFileHandle => "stale network file handle"
  | storageFull => "no storage space"
  | timedOut => "timed out"
  | tooManyLinks => "too many links"
  | tooManyOpenFiles => "too many open files"
  | uncategorized => "uncategorized error"
  | unexpectedEof => "unexpected end of file"
  | unsupported => "unsupported"
  | wouldBlock => "operation would block"
  | writeZero => "write zero"

/-- The kind an error number belongs to. -/
def ofErrno : Int → FailureKind
  | 1 => permissionDenied
  | 2 => notFound
  | 4 => interrupted
  | 5 => inputOutputError
  | 7 => argumentListTooLong
  | 11 => wouldBlock
  | 12 => outOfMemory
  | 13 => permissionDenied
  | 16 => resourceBusy
  | 17 => alreadyExists
  | 18 => crossesDevices
  | 20 => notADirectory
  | 21 => isADirectory
  | 22 => invalidInput
  | 23 | 24 => tooManyOpenFiles
  | 26 => executableFileBusy
  | 27 => fileTooLarge
  | 28 => storageFull
  | 29 => notSeekable
  | 30 => readOnlyFilesystem
  | 31 => tooManyLinks
  | 32 => brokenPipe
  | 35 => deadlock
  | 36 => invalidFilename
  | 38 => unsupported
  | 39 => directoryNotEmpty
  | 40 => filesystemLoop
  | 95 => unsupported
  | 98 => addrInUse
  | 99 => addrNotAvailable
  | 100 => networkDown
  | 101 => networkUnreachable
  | 103 => connectionAborted
  | 104 => connectionReset
  | 107 => notConnected
  | 110 => timedOut
  | 111 => connectionRefused
  | 113 => hostUnreachable
  | 115 => inProgress
  | 116 => staleNetworkFileHandle
  | 122 => quotaExceeded
  | _ => uncategorized

end FailureKind

/-- A failure of input or output. -/
inductive Failure where
  /-- The system refused with the error number `code`. -/
  | errno (code : Int)
  /-- A failure of which only the kind is known. -/
  | ofKind (kind : FailureKind)
  /-- A failure with a text of its own. -/
  | described (kind : FailureKind) (text : String)
  deriving DecidableEq, Repr

namespace Failure

/-- The kind of a failure. -/
def kind : Failure → FailureKind
  | errno code => .ofErrno code
  | ofKind kind => kind
  | described kind _ => kind

/-- The text a failure is reported with. -/
def text : Failure → String
  | errno code => System.errnoText code ++ " (os error " ++ toString code ++ ")"
  | ofKind kind => kind.text
  | described _ text => text

/-- The missing file or folder. -/
def notFound : Failure := errno 2

/-- The path that goes on below something that is no folder. -/
def notADirectory : Failure := errno 20

/-- The folder where a file is wanted. -/
def isADirectory : Failure := errno 21

/-- The device that has no room left. -/
def noSpace : Failure := errno 28

/-- The name or path beyond the allowed length. -/
def nameTooLong : Failure := errno 36

/-- The path that holds a NUL byte, which no file name can. -/
def nulInPath : Failure := described .invalidInput "file name contained an unexpected NUL byte"

/-- The operation that was broken off by a signal. -/
def interruption : Failure := ofKind .interrupted

/-- Whether an operation did not fail for good but was interrupted and may be tried again. -/
def isInterruption (failure : Failure) : Bool :=
  failure.kind = .interrupted

end Failure

end PrefetchInfo
