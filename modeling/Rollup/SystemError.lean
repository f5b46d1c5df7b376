/-
Failures of the operating system.

A failure has a kind. One that a system call reported also has the text of the
system for its number; one that was made from the bare kind is described by the
kind.
-/
import Rollup.Text.Numeral

set_option autoImplicit false

namespace Rollup

/-- The kinds of failures. -/
inductive FailureKind where
  | notFound
  | permissionDenied
  | connectionRefused
  | connectionReset
  | hostUnreachable
  | networkUnreachable
  | connectionAborted
  | notConnected
  | addrInUse
  | addrNotAvailable
  | networkDown
  | brokenPipe
  | alreadyExists
  | wouldBlock
  | notADirectory
  | isADirectory
  | directoryNotEmpty
  | readOnlyFilesystem
  | filesystemLoop
  | staleNetworkFileHandle
  | invalidInput
  | invalidData
  | timedOut
  | writeZero
  | storageFull
  | notSeekable
  | quotaExceeded
  | fileTooLarge
  | resourceBusy
  | executableFileBusy
  | deadlock
  | crossesDevices
  | tooManyLinks
  | invalidFilename
  | argumentListTooLong
  | interrupted
  | unsupported
  | unexpectedEof
  | outOfMemory
  | inProgress
  | other
  | uncategorized
  deriving DecidableEq, Repr

/-- A kind in words. -/
def FailureKind.message : FailureKind → String
  | .notFound => "entity not found"
  | .permissionDenied => "permission denied"
  | .connectionRefused => "connection refused"
  | .connectionReset => "connection reset"
  | .hostUnreachable => "host unreachable"
  | .networkUnreachable => "network unreachable"
  | .connectionAborted => "connection aborted"
  | .notConnected => "not connected"
  | .addrInUse => "address in use"
  | .addrNotAvailable => "address not available"
  | .networkDown => "network down"
  | .brokenPipe => "broken pipe"
  | .alreadyExists => "entity already exists"
  | .wouldBlock => "operation would block"
  | .notADirectory => "not a directory"
  | .isADirectory => "is a directory"
  | .directoryNotEmpty => "directory not empty"
  | .readOnlyFilesystem => "read-only filesystem or storage medium"
  | .filesystemLoop => "filesystem loop or indirection limit (e.g. symlink loop)"
  | .staleNetworkFileHandle => "stale network file handle"
  | .invalidInput => "invalid input parameter"
  | .invalidData => "invalid data"
  | .timedOut => "timed out"
  | .writeZero => "write zero"
  | .storageFull => "no storage space"
  | .notSeekable => "seek on unseekable file"
  | .quotaExceeded => "quota exceeded"
  | .fileTooLarge => "file too large"
  | .resourceBusy => "resource busy"
  | .executableFileBusy => "executable file busy"
  | .deadlock => "deadlock"
  | .crossesDevices => "cross-device link or rename"
  | .tooManyLinks => "too many links"
  | .invalidFilename => "invalid filename"
  | .argumentListTooLong => "argument list too long"
  | .interrupted => "operation interrupted"
  | .unsupported => "unsupported"
  | .unexpectedEof => "unexpected end of file"
  | .outOfMemory => "out of memory"
  | .inProgress => "in progress"
  | .other => "other error"
  | .uncategorized => "uncategorized error"

/-- Whether the kind is one of a connection that was refused, dropped or stalled. -/
def FailureKind.isConnection : FailureKind → Bool
  | .connectionRefused | .connectionReset | .connectionAborted | .notConnected | .brokenPipe
  | .timedOut | .unexpectedEof => true
  | _ => false

/-- A failure of the operating system. -/
inductive SystemError where
  /-- A bare kind. -/
  | bare (kind : FailureKind)
  /-- What a system call reported: its text and its number. -/
  | call (text : String) (number : Nat)
  /-- A failure that was noticed before the system was asked. -/
  | refused (text : String)
  deriving DecidableEq, Repr

namespace SystemError

/-- A failure in words. -/
def message : SystemError → String
  | .bare kind => kind.message
  | .call text number => text ++ " (os error " ++ Text.decimal number ++ ")"
  | .refused text => text

/-- There is no such file. -/
def noSuchFile : SystemError := .call "No such file or directory" 2

/-- The arguments of a program do not fit. -/
def argumentsTooLong : SystemError := .call "Argument list too long" 7

/-- The file may not be used like this. -/
def noPermission : SystemError := .call "Permission denied" 13

/-- A part of the path is a file. -/
def notADirectory : SystemError := .call "Not a directory" 20

/-- The file is a directory. -/
def isADirectory : SystemError := .call "Is a directory" 21

/-- The path or a part of it has too many bytes. -/
def nameTooLong : SystemError := .call "File name too long" 36

/-- The file holds no text. -/
def notText : SystemError := .refused "stream did not contain valid UTF-8"

/-- The name of the file has a null character. -/
def nulInPath : SystemError := .refused "file name contained an unexpected NUL byte"

/-- An argument of the program has a null character. -/
def nulInArgument : SystemError := .refused "nul byte found in provided data"

end SystemError

end Rollup
