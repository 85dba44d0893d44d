import MeterLine.Executor
import MeterLine.Health
import MeterLine.Measurement
import MeterLine.Settings.Device
import MeterLine.Text.Quoted

/-!
# Devices

A device answers queries for the measurements it is configured to expose, and
counts the commands it has issued.  It is healthy when its port runs and the
meter answers with its own address.
-/

namespace MeterLine

/-- A configured meter. -/
structure Device where
  address : UInt8
  name : String
  measurements : List Measurement
  calls : UInt64
  deriving Repr, DecidableEq, Inhabited

namespace Device

def ofSettings (settings : DeviceSettings) : Device :=
  { address := settings.address
    name := settings.name
    measurements := settings.measurements
    calls := 0 }

def supports (device : Device) (measurement : Measurement) : Bool :=
  device.measurements.contains measurement

def count (device : Device) : Device :=
  { device with calls := device.calls + 1 }

/-- The request behind a query, or why there is none. -/
def query (device : Device) (measurement : Measurement) :
    Except Failure (MeterFunction × Register) :=
  if device.supports measurement then .ok measurement.target
  else
    .error (.invalidArgument
      s!"device {device.name} does not support function {measurement.name}")

def sample (device : Device) (measurement : Measurement)
    (reading : Reading) : Sample :=
  { device := device.name
    measurement := measurement
    reading := reading
    unit := measurement.unit }

def healthWithoutPort (port : String) : Health :=
  Health.down.withDetail "error"
    s!"underlying communication port {port} is not running"

def healthAfter (outcome : Except Failure Reading) : Health :=
  match outcome.bind Reading.expectOctet with
  | .ok _ => Health.up
  | .error failure => Health.down.withDetail "error" failure.message

def describe (device : Device) (port : String) : String :=
  s!"ModbusDevice \x7b id: {device.address.toNat}, name: " ++
    Quoted.quote device.name ++ ", port: " ++ Quoted.quote port ++
    ", functions: [" ++
    ", ".intercalate (device.measurements.map Measurement.title) ++ "] \x7d"

end Device

end MeterLine
