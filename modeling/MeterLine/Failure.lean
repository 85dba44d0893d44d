/-!
# Failures

Everything that can go wrong between a caller and a meter is a `Failure`.  Its
cause decides what the layers above do with it: a damaged or foreign reply is
asked for again, an unusable port is reopened, anything else goes to the
caller.  `Failure.message` is the only place where failures are worded.

Two kinds of lower-level trouble are turned into failures here: a fault of the
byte stream and a fault reported by the serial backend.
-/

namespace MeterLine

/-- A cause of failure. -/
inductive Failure where
  | io (message : String)
  | connection (message : String)
  /-- An operation did not end within its limit, given in milliseconds. -/
  | timeout (operation : String) (limit : Nat)
  | protocol (message : String)
  | invalidData (message : String)
  | configuration (message : String)
  | invalidArgument (message : String)
  | checkMismatch
  | deviceMismatch (expected actual : UInt8)
  | notRunning (port : String) (command : UInt64)
  | portNotFound (port : String)
  | portInUse (port message : String)
  | hardware (port message : String)
  | retriesExhausted (attempts : UInt32) (cause : Failure)
  deriving Repr, DecidableEq, Inhabited

namespace Failure

def message : Failure → String
  | .io text => "I/O error: " ++ text
  | .connection text => "Connection error: " ++ text
  | .timeout operation limit =>
      s!"Timeout: {operation} did not complete in {limit} ms"
  | .protocol text => "Protocol error: " ++ text
  | .invalidData text => "Invalid data: " ++ text
  | .configuration text => "Configuration error: " ++ text
  | .invalidArgument text => "Invalid argument: " ++ text
  | .checkMismatch => "CRC check failed on incoming message"
  | .deviceMismatch expected actual =>
      s!"Device ID check failed: expected {expected}, got {actual}"
  | .notRunning port command =>
      s!"{port} - failed to schedule command {command} - port not initialized"
  | .portNotFound port => s!"serial port {port} not found"
  | .portInUse _ text => "serial port is in use - " ++ text
  | .hardware port text => s!"hardware error on {port}: {text}"
  | .retriesExhausted attempts cause =>
      s!"retries exhausted after {attempts} attempts: " ++ cause.message

/-- Whether asking again may help: the reply was damaged or foreign. -/
def retryable : Failure → Bool
  | .checkMismatch => true
  | .deviceMismatch _ _ => true
  | _ => false

def root : Failure → Failure
  | .retriesExhausted _ cause => cause.root
  | other => other

/-- The failure that this one reports on, if it reports on another. -/
def source : Failure → Option Failure
  | .retriesExhausted _ cause => some cause
  | _ => none

/-- Whether time ran out, possibly behind exhausted retries. -/
def isTimeout (failure : Failure) : Bool :=
  match failure.root with
  | .timeout _ _ => true
  | _ => false

/-- Whether the port is unusable until it is opened again. -/
def isTransport : Failure → Bool
  | .portNotFound _ => true
  | .portInUse _ _ => true
  | .hardware _ _ => true
  | .notRunning _ _ => true
  | .connection _ => true
  | _ => false

end Failure

inductive StreamFault.Kind where
  | addressInUse
  | addressNotAvailable
  | alreadyExists
  | argumentListTooLong
  | brokenPipe
  | connectionAborted
  | connectionRefused
  | connectionReset
  | crossesDevices
  | deadlock
  | directoryNotEmpty
  | executableFileBusy
  | fileTooLarge
  | hostUnreachable
  | inputOutput
  | interrupted
  | invalidData
  | invalidFilename
  | invalidInput
  | isADirectory
  | networkDown
  | networkUnreachable
  | notADirectory
  | notConnected
  | notFound
  | notSeekable
  | other
  | outOfMemory
  | permissionDenied
  | quotaExceeded
  | readOnlyFilesystem
  | resourceBusy
  | staleNetworkFileHandle
  | storageFull
  | timedOut
  | tooManyLinks
  | unexpectedEof
  | unsupported
  | wouldBlock
  | writeZero
  deriving Repr, DecidableEq, Inhabited

def StreamFault.Kind.text : StreamFault.Kind → String
  | .addressInUse => "address in use"
  | .addressNotAvailable => "address not available"
  | .alreadyExists => "entity already exists"
  | .argumentListTooLong => "argument list too long"
  | .brokenPipe => "broken pipe"
  | .connectionAborted => "connection aborted"
  | .connectionRefused => "connection refused"
  | .connectionReset => "connection reset"
  | .crossesDevices => "cross-device link or rename"
  | .deadlock => "deadlock"
  | .directoryNotEmpty => "directory not empty"
  | .executableFileBusy => "executable file busy"
  | .fileTooLarge => "file too large"
  | .hostUnreachable => "host unreachable"
  | .inputOutput => "input/output error"
  | .interrupted => "operation interrupted"
  | .invalidData => "invalid data"
  | .invalidFilename => "invalid filename"
  | .invalidInput => "invalid input parameter"
  | .isADirectory => "is a directory"
  | .networkDown => "network down"
  | .networkUnreachable => "network unreachable"
  | .notADirectory => "not a directory"
  | .notConnected => "not connected"
  | .notFound => "entity not found"
  | .notSeekable => "seek on unseekable file"
  | .other => "other error"
  | .outOfMemory => "out of memory"
  | .permissionDenied => "permission denied"
  | .quotaExceeded => "quota exceeded"
  | .readOnlyFilesystem => "read-only filesystem or storage medium"
  | .resourceBusy => "resource busy"
  | .staleNetworkFileHandle => "stale network file handle"
  | .storageFull => "no storage space"
  | .timedOut => "timed out"
  | .tooManyLinks => "too many links"
  | .unexpectedEof => "unexpected end of file"
  | .unsupported => "unsupported"
  | .wouldBlock => "operation would block"
  | .writeZero => "write zero"

structure StreamFault where
  kind : StreamFault.Kind
  text : String
  deriving Repr, DecidableEq, Inhabited

namespace StreamFault

def ofKind (kind : Kind) : StreamFault :=
  { kind := kind
    text := kind.text }

/-- A stream that runs out of time is a timeout without a limit of its own;
any other fault concerns the current command only. -/
def toFailure (fault : StreamFault) : Failure :=
  match fault.kind with
  | .timedOut => .timeout fault.text 0
  | _ => .io fault.text

/-- Whether the device went away, as opposed to one exchange going wrong. -/
def isHardware (fault : StreamFault) : Bool :=
  match fault.kind with
  | .wouldBlock => false
  | .interrupted => false
  | .timedOut => false
  | _ => true

end StreamFault

inductive SerialFault.Kind where
  | noDevice
  | invalidInput
  | unknown
  | stream (kind : StreamFault.Kind)
  deriving Repr, DecidableEq, Inhabited

structure SerialFault where
  kind : SerialFault.Kind
  text : String
  deriving Repr, DecidableEq, Inhabited

namespace SerialFault

/-- What a backend fault means on a port that is already open. -/
def toFailure (fault : SerialFault) : Failure :=
  match fault.kind with
  | .stream kind => StreamFault.toFailure ⟨kind, fault.text⟩
  | .invalidInput => .configuration fault.text
  | .noDevice => .connection fault.text
  | .unknown => .connection fault.text

/-- What a backend fault means while the port called `name` is opened. -/
def openFailure (name : String) (fault : SerialFault) : Failure :=
  match fault.kind with
  | .noDevice => .portNotFound name
  | .stream .notFound => .portNotFound name
  | .stream .permissionDenied => .portInUse name fault.text
  | .stream .resourceBusy => .portInUse name fault.text
  | _ => .connection s!"{name}: {fault.text}"

end SerialFault

end MeterLine
