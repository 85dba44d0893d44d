import MeterLine.Json.Decode
import MeterLine.Measurement
import MeterLine.Settings.Fault
import MeterLine.Text.Blank

/-!
# Settings of a device

A device is a meter: an address on the line of a port, and the measurements it
exposes.
-/

namespace MeterLine

def Measurement.ofJson? : Json → Option Measurement :=
  Json.choice? Measurement.ofName?

def Register.ofJson? : Json → Option Register :=
  Json.choice? fun key => Register.all.find? fun register =>
    register.key == key

namespace Sample

def toJson (sample : Sample) : Json :=
  .record
    [("device", .text sample.device),
      ("function", .text sample.measurement.name),
      ("value", sample.reading.toJson),
      ("unit", .text sample.unit)]

def ofJson? (document : Json) : Option Sample := do
  let parts ← Json.parts? ["device", "function", "value", "unit"] document
  match parts with
  | [device, measurement, reading, unit] =>
      let device ← Json.required? Json.text? device
      let measurement ← Json.required? Measurement.ofJson? measurement
      let reading ← Json.required? Reading.ofJson? reading
      let unit ← Json.required? Json.text? unit
      some
        { device := device
          measurement := measurement
          reading := reading
          unit := unit }
  | _ => none

end Sample

/-- Settings of one device. -/
structure DeviceSettings where
  address : UInt8
  name : String
  port : String
  measurements : List Measurement
  deriving Repr, DecidableEq, Inhabited

namespace DeviceSettings

def bare (address : UInt8) (name port : String) : DeviceSettings :=
  { address := address
    name := name
    port := port
    measurements := [] }

def withMeasurements (settings : DeviceSettings)
    (measurements : List Measurement) : DeviceSettings :=
  { settings with measurements := settings.measurements ++ measurements }

/-- The first fault of the settings of a device. -/
def validate (settings : DeviceSettings) : Except SettingsFault Unit :=
  if settings.address = 0 then .error (.zeroAddress settings.name)
  else if isBlank settings.name then .error .blankDeviceName
  else if isBlank settings.port then .error (.blankDevicePort settings.name)
  else if settings.measurements = [] then
    .error (.noMeasurement settings.name)
  else .ok ()

def toJson (settings : DeviceSettings) : Json :=
  .record
    [("id", .natural settings.address.toNat),
      ("name", .text settings.name),
      ("serialPort", .text settings.port),
      ("functions",
        .list (settings.measurements.map fun measurement =>
          .text measurement.name))]

def ofJson? (document : Json) : Option DeviceSettings := do
  let parts ← Json.parts? ["id", "name", "serialPort", "functions"] document
  match parts with
  | [address, name, port, measurements] =>
      let address ← Json.required? (Json.naturalUpTo? 255) address
      let name ← Json.required? Json.text? name
      let port ← Json.required? Json.text? port
      let measurements ←
        Json.required? (Json.listOf? Measurement.ofJson?) measurements
      some
        { address := UInt8.ofNat address
          name := name
          port := port
          measurements := measurements }
  | _ => none

end DeviceSettings

end MeterLine
