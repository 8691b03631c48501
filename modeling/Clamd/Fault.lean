/-!
# Faults of input and output

Why reading, writing or connecting can fail. A fault is a cause; its kind groups causes that a
caller treats alike, and its message is the text shown to the user.

* `Fault.isHangUp`: the faults after which the other side may have answered all the same.
-/

namespace Clamd

/-- Errors that the operating system reports. -/
inductive SystemError where
  | notFound
  | interrupted
  | wouldBlock
  | alreadyExists
  | notADirectory
  | isADirectory
  | invalidArgument
  | brokenPipe
  | nameTooLong
  | notEmpty
  | tooManyLinks
  | networkUnreachable
  | connectionAborted
  | connectionReset
  | connectionRefused
  deriving DecidableEq, Repr

namespace SystemError

/-- The number under which the system reports the error. -/
def number : SystemError → Nat
  | notFound => 2
  | interrupted => 4
  | wouldBlock => 11
  | alreadyExists => 17
  | notADirectory => 20
  | isADirectory => 21
  | invalidArgument => 22
  | brokenPipe => 32
  | nameTooLong => 36
  | notEmpty => 39
  | tooManyLinks => 40
  | networkUnreachable => 101
  | connectionAborted => 103
  | connectionReset => 104
  | connectionRefused => 111

/-- All of these errors, by increasing number. -/
def all : List SystemError :=
  [notFound, interrupted, wouldBlock, alreadyExists, notADirectory, isADirectory, invalidArgument,
    brokenPipe, nameTooLong, notEmpty, tooManyLinks, networkUnreachable, connectionAborted,
    connectionReset, connectionRefused]

/-- The error of a number. -/
def ofNumber? (n : Nat) : Option SystemError :=
  all.find? (·.number == n)

/-- The system's description of the error. -/
def description : SystemError → String
  | notFound => "No such file or directory"
  | interrupted => "Interrupted system call"
  | wouldBlock => "Resource temporarily unavailable"
  | alreadyExists => "File exists"
  | notADirectory => "Not a directory"
  | isADirectory => "Is a directory"
  | invalidArgument => "Invalid argument"
  | brokenPipe => "Broken pipe"
  | nameTooLong => "File name too long"
  | notEmpty => "Directory not empty"
  | tooManyLinks => "Too many levels of symbolic links"
  | networkUnreachable => "Network is unreachable"
  | connectionAborted => "Software caused connection abort"
  | connectionReset => "Connection reset by peer"
  | connectionRefused => "Connection refused"

/-- The description followed by the number. -/
def message (e : SystemError) : String :=
  e.description ++ " (os error " ++ toString e.number ++ ")"

end SystemError

/-- Groups of faults that a caller treats alike. -/
inductive FaultKind where
  | system (e : SystemError)
  | writeZero
  | unexpectedEof
  | invalidInput
  | invalidData
  | other
  deriving DecidableEq, Repr

/-- The cause of a failed read, write or connection. -/
inductive Fault where
  /-- An error of the operating system. -/
  | system (e : SystemError)
  /-- A sink took no byte of what was left to write. -/
  | writeZero
  /-- The bytes ended before all that were asked for had come. -/
  | unexpectedEof
  /-- A file that is to hold text is not UTF-8. -/
  | notText
  /-- The name of a host or file holds a NUL. -/
  | nulInName
  /-- An upload was asked for in chunks of no bytes. -/
  | emptyChunks
  /-- A chunk size that the four bytes of a chunk's length cannot hold, or zero. -/
  | chunkSize (size : Nat)
  /-- An upload holds more bytes than its reader allows. -/
  | streamLimit
  /-- A reply is longer than `limit` bytes. -/
  | replyLimit (limit : Nat)
  /-- Any other fault, with its own text. -/
  | reported (text : String)
  deriving DecidableEq, Repr

namespace Fault

/-- The kind of a fault. -/
def kind : Fault → FaultKind
  | system e => .system e
  | writeZero => .writeZero
  | unexpectedEof => .unexpectedEof
  | notText => .invalidData
  | nulInName => .invalidInput
  | emptyChunks => .invalidInput
  | chunkSize _ => .invalidInput
  | streamLimit => .invalidData
  | replyLimit _ => .invalidData
  | reported _ => .other

/-- The text of a fault. -/
def message : Fault → String
  | system e => e.message
  | writeZero => "failed to write whole buffer"
  | unexpectedEof => "failed to fill whole buffer"
  | notText => "stream did not contain valid UTF-8"
  | nulInName => "file name contained an unexpected NUL byte"
  | emptyChunks => "chunk size must be positive"
  | chunkSize n => "invalid INSTREAM chunk size " ++ toString n
  | streamLimit => "INSTREAM size limit exceeded"
  | replyLimit n => "response exceeds " ++ toString n ++ " bytes"
  | reported text => text

/-- Whether a read or write that failed so is simply tried again. -/
def isInterruption (f : Fault) : Bool :=
  f.kind == .system .interrupted

/-- Whether the fault means that the other side has closed the connection. The daemon does so when
an upload grows too long, and may have answered before. -/
def isHangUp (f : Fault) : Bool :=
  f.kind == .system .brokenPipe || f.kind == .system .connectionReset ||
    f.kind == .system .connectionAborted

end Fault

end Clamd
