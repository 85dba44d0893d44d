import MeterLine.Failure

/-!
# Names of kinds of failures

Diagnostics name the kind of a failure by one word that begins with a capital
letter.
-/

namespace MeterLine

def Failure.kindName : Failure → String
  | .io _ => "Io"
  | .connection _ => "Connection"
  | .timeout _ _ => "Timeout"
  | .protocol _ => "Protocol"
  | .invalidData _ => "InvalidData"
  | .configuration _ => "Configuration"
  | .invalidArgument _ => "InvalidArgument"
  | .checkMismatch => "CrcCheck"
  | .deviceMismatch _ _ => "DeviceIdMismatch"
  | .notRunning _ _ => "NotRunning"
  | .portNotFound _ => "PortNotFound"
  | .portInUse _ _ => "PortInUse"
  | .hardware _ _ => "HardwareError"
  | .retriesExhausted _ _ => "RetriesExhausted"

namespace StreamFault.Kind

def named : List (String × Kind) :=
  [("AddrInUse", .addressInUse),
    ("AddrNotAvailable", .addressNotAvailable),
    ("AlreadyExists", .alreadyExists),
    ("ArgumentListTooLong", .argumentListTooLong),
    ("BrokenPipe", .brokenPipe),
    ("ConnectionAborted", .connectionAborted),
    ("ConnectionRefused", .connectionRefused),
    ("ConnectionReset", .connectionReset),
    ("CrossesDevices", .crossesDevices),
    ("Deadlock", .deadlock),
    ("DirectoryNotEmpty", .directoryNotEmpty),
    ("ExecutableFileBusy", .executableFileBusy),
    ("FileTooLarge", .fileTooLarge),
    ("HostUnreachable", .hostUnreachable),
    ("InputOutputError", .inputOutput),
    ("Interrupted", .interrupted),
    ("InvalidData", .invalidData),
    ("InvalidFilename", .invalidFilename),
    ("InvalidInput", .invalidInput),
    ("IsADirectory", .isADirectory),
    ("NetworkDown", .networkDown),
    ("NetworkUnreachable", .networkUnreachable),
    ("NotADirectory", .notADirectory),
    ("NotConnected", .notConnected),
    ("NotFound", .notFound),
    ("NotSeekable", .notSeekable),
    ("Other", .other),
    ("OutOfMemory", .outOfMemory),
    ("PermissionDenied", .permissionDenied),
    ("QuotaExceeded", .quotaExceeded),
    ("ReadOnlyFilesystem", .readOnlyFilesystem),
    ("ResourceBusy", .resourceBusy),
    ("StaleNetworkFileHandle", .staleNetworkFileHandle),
    ("StorageFull", .storageFull),
    ("TimedOut", .timedOut),
    ("TooManyLinks", .tooManyLinks),
    ("UnexpectedEof", .unexpectedEof),
    ("Unsupported", .unsupported),
    ("WouldBlock", .wouldBlock),
    ("WriteZero", .writeZero)]

def ofName? (name : String) : Option Kind :=
  named.lookup name

def name (kind : Kind) : String :=
  match named.find? fun entry => entry.2 == kind with
  | some entry => entry.1
  | none => ""

theorem ofName?_name (kind : Kind) : ofName? kind.name = some kind := by
  cases kind <;> decide

end StreamFault.Kind

end MeterLine
