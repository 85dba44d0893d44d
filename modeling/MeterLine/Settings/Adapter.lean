import MeterLine.Settings.Device
import MeterLine.Settings.Port

/-!
# Settings of an adapter

An adapter has ports and devices.  Names of ports and of devices are unique,
every device is wired to a port that is there, and no two devices share an
address on one port.
-/

namespace MeterLine

/-- Settings of a whole adapter. -/
structure AdapterSettings where
  ports : List PortSettings
  devices : List DeviceSettings
  deriving Repr, DecidableEq, Inhabited

namespace AdapterSettings

def empty : AdapterSettings :=
  { ports := []
    devices := [] }

def withPort (settings : AdapterSettings) (port : PortSettings) :
    AdapterSettings :=
  { settings with ports := settings.ports ++ [port] }

def withDevice (settings : AdapterSettings) (device : DeviceSettings) :
    AdapterSettings :=
  { settings with devices := settings.devices ++ [device] }

def port? (settings : AdapterSettings) (name : String) :
    Option PortSettings :=
  settings.ports.find? fun port => port.name == name

/-- Check ports in order, given the names before them. -/
def validatePorts (seen : List String) :
    List PortSettings → Except SettingsFault Unit
  | [] => .ok ()
  | port :: ports => do
      port.validate
      if port.name ∈ seen then .error (.duplicatePort port.name)
      else validatePorts (port.name :: seen) ports

def validateDevices (ports : List String) (seen : List DeviceSettings) :
    List DeviceSettings → Except SettingsFault Unit
  | [] => .ok ()
  | device :: devices => do
      device.validate
      if seen.any fun earlier => earlier.name == device.name then
        .error (.duplicateDevice device.name)
      else if device.port ∉ ports then
        .error (.unknownPort device.name device.port)
      else if seen.any fun earlier =>
          earlier.port == device.port && earlier.address == device.address then
        .error
          (.duplicateAddress device.name device.port device.address.toNat)
      else validateDevices ports (device :: seen) devices

/-- The first fault of the settings: ports in order, then devices in order. -/
def validate (settings : AdapterSettings) : Except SettingsFault Unit := do
  validatePorts [] settings.ports
  validateDevices (settings.ports.map (·.name)) [] settings.devices

def toJson (settings : AdapterSettings) : Json :=
  .record
    [("ports", .list (settings.ports.map PortSettings.toJson)),
      ("devices", .list (settings.devices.map DeviceSettings.toJson))]

/-- Settings from a document.  Both parts may be left out. -/
def ofJson? (document : Json) : Option AdapterSettings := do
  let parts ← Json.parts? ["ports", "devices"] document
  match parts with
  | [ports, devices] =>
      let ports ← Json.optional? [] (Json.listOf? PortSettings.ofJson?) ports
      let devices ←
        Json.optional? [] (Json.listOf? DeviceSettings.ofJson?) devices
      some
        { ports := ports
          devices := devices }
  | _ => none

end AdapterSettings

end MeterLine
