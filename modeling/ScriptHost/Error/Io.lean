/-!
Failures of the operating system and of byte streams, by cause.
-/
namespace ScriptHost

/-- A numbered system error. -/
inductive Errno where
  | noEntry
  | badDescriptor
  | wouldBlock
  | busy
  | alreadyExists
  | notADirectory
  | isADirectory
  | invalidArgument
  | brokenPipe
  | nameTooLong
  | directoryNotEmpty
  | tooManyLinks
  | addressInUse
  | addressNotAvailable
  | networkUnreachable
  | connectionReset
  | notConnected
  | connectionRefused
  deriving DecidableEq, Repr

namespace Errno

def number : Errno → Nat
  | .noEntry => 2
  | .badDescriptor => 9
  | .wouldBlock => 11
  | .busy => 16
  | .alreadyExists => 17
  | .notADirectory => 20
  | .isADirectory => 21
  | .invalidArgument => 22
  | .brokenPipe => 32
  | .nameTooLong => 36
  | .directoryNotEmpty => 39
  | .tooManyLinks => 40
  | .addressInUse => 98
  | .addressNotAvailable => 99
  | .networkUnreachable => 101
  | .connectionReset => 104
  | .notConnected => 107
  | .connectionRefused => 111

def description : Errno → String
  | .noEntry => "No such file or directory"
  | .badDescriptor => "Bad file descriptor"
  | .wouldBlock => "Resource temporarily unavailable"
  | .busy => "Device or resource busy"
  | .alreadyExists => "File exists"
  | .notADirectory => "Not a directory"
  | .isADirectory => "Is a directory"
  | .invalidArgument => "Invalid argument"
  | .brokenPipe => "Broken pipe"
  | .nameTooLong => "File name too long"
  | .directoryNotEmpty => "Directory not empty"
  | .tooManyLinks => "Too many levels of symbolic links"
  | .addressInUse => "Address already in use"
  | .addressNotAvailable => "Cannot assign requested address"
  | .networkUnreachable => "Network is unreachable"
  | .connectionReset => "Connection reset by peer"
  | .notConnected => "Transport endpoint is not connected"
  | .connectionRefused => "Connection refused"

def message (errno : Errno) : String := s!"{errno.description} (os error {errno.number})"

end Errno

/-- Why an operation on a file or stream failed. -/
inductive IoCause where
  | os (errno : Errno)
  /-- A path holds a NUL character. -/
  | nulInPath
  /-- A stream ended before the bytes asked for. -/
  | endedEarly
  /-- Bytes that should be text are none. -/
  | notUtf8
  /-- A request took longer than it may. -/
  | notInTime
  /-- The listener behind a connection went away. -/
  | listenerClosed
  /-- A cause known only by its words. -/
  | reported (text : String)
  deriving DecidableEq, Repr

def IoCause.message : IoCause → String
  | .os errno => errno.message
  | .nulInPath => "file name contained an unexpected NUL byte"
  | .endedEarly => "failed to fill whole buffer"
  | .notUtf8 => "stream did not contain valid UTF-8"
  | .notInTime => "request not received in time"
  | .listenerClosed => "listener closed"
  | .reported text => text

/-- What was being done when an operation failed. -/
inductive Operation where
  | openFile
  | read
  | write
  | stat
  | remove
  | makeDirectory
  | connect
  | listen
  | accept
  | respond
  | readRequest
  | readBody
  | print
  | readLine
  | localAddress
  deriving DecidableEq, Repr

def Operation.text : Operation → String
  | .openFile => "open"
  | .read => "read"
  | .write => "write"
  | .stat => "stat"
  | .remove => "remove"
  | .makeDirectory => "mkdir"
  | .connect => "connect"
  | .listen => "listen"
  | .accept => "accept"
  | .respond => "respond"
  | .readRequest => "read request"
  | .readBody => "read body"
  | .print => "print"
  | .readLine => "read line"
  | .localAddress => "local_addr"

/-- Operations that the system fails for reasons of its own, each with the cause that it gives. -/
abbrev Faults := Operation → Option IoCause

/-- A system that has no such reasons. -/
def Faults.none : Faults := fun _ => Option.none

end ScriptHost
