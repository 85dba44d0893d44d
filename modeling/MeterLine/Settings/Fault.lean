import MeterLine.Failure

/-!
# Faults of settings

Every reason to refuse settings before anything is opened.
-/

namespace MeterLine

/-- Why settings are refused. -/
inductive SettingsFault where
  | blankPortName
  | unsupportedBaudRate (port : String) (rate : Nat) (supported : List Nat)
  | dataBitsOutside (port : String) (bits least greatest : Nat)
  | noResponseWait (port : String)
  | zeroAddress (device : String)
  | blankDeviceName
  | blankDevicePort (device : String)
  | noMeasurement (device : String)
  | duplicatePort (port : String)
  | duplicateDevice (device : String)
  | unknownPort (device port : String)
  | duplicateAddress (device port : String) (address : Nat)
  deriving Repr, DecidableEq

namespace SettingsFault

def message : SettingsFault → String
  | .blankPortName => "serial port name must not be empty"
  | .unsupportedBaudRate port rate supported =>
      s!"{port}: unsupported baud rate {rate} (allowed [" ++
        ", ".intercalate (supported.map toString) ++ "])"
  | .dataBitsOutside port bits least greatest =>
      s!"{port}: data bits {bits} outside {least}..={greatest}"
  | .noResponseWait port => s!"{port}: response wait must be positive"
  | .zeroAddress device => s!"device {device}: id must be at least 1"
  | .blankDeviceName => "device name must not be empty"
  | .blankDevicePort device =>
      s!"device {device}: serial port must not be empty"
  | .noMeasurement device =>
      s!"device {device}: at least one function is required"
  | .duplicatePort port => s!"duplicate serial port {port}"
  | .duplicateDevice device => s!"duplicate device {device}"
  | .unknownPort device port =>
      s!"device {device} references unknown serial port {port}"
  | .duplicateAddress device port address =>
      s!"device {device}: id {address} already used on {port}"

def toFailure (fault : SettingsFault) : Failure :=
  .configuration fault.message

end SettingsFault

end MeterLine
