import MeterLine.Function

/-!
# Measurements

A measurement is what a device can be configured to expose.  Each one is backed
by a function and a register that the function admits.  A `Sample` is the
answer to asking a device for a measurement.
-/

namespace MeterLine

/-- A measurement that a device may expose. -/
inductive Measurement where
  | totalPower
  | producedPower
  | consumedPower
  | currentPower
  | deviceId
  | currentVoltagePhase1
  | currentVoltagePhase2
  | currentVoltagePhase3
  | currentAmperagePhase1
  | currentAmperagePhase2
  | currentAmperagePhase3
  deriving Repr, DecidableEq, Inhabited

namespace Measurement

def all : List Measurement :=
  [.totalPower, .producedPower, .consumedPower, .currentPower, .deviceId,
    .currentVoltagePhase1, .currentVoltagePhase2, .currentVoltagePhase3,
    .currentAmperagePhase1, .currentAmperagePhase2, .currentAmperagePhase3]

theorem mem_all (measurement : Measurement) : measurement ∈ all := by
  cases measurement <;> decide

def name : Measurement → String
  | .totalPower => "totalPower"
  | .producedPower => "producedPower"
  | .consumedPower => "consumedPower"
  | .currentPower => "currentPower"
  | .deviceId => "deviceId"
  | .currentVoltagePhase1 => "currentVoltagePhase1"
  | .currentVoltagePhase2 => "currentVoltagePhase2"
  | .currentVoltagePhase3 => "currentVoltagePhase3"
  | .currentAmperagePhase1 => "currentAmperagePhase1"
  | .currentAmperagePhase2 => "currentAmperagePhase2"
  | .currentAmperagePhase3 => "currentAmperagePhase3"

/-- The name used in diagnostics: it begins with a capital letter. -/
def title (measurement : Measurement) : String :=
  measurement.name.capitalize

/-- The function and the register behind a measurement. -/
def target : Measurement → MeterFunction × Register
  | .totalPower => (.readTotalPower, .totalPower)
  | .producedPower => (.readTotalPower, .exportPower)
  | .consumedPower => (.readTotalPower, .importPower)
  | .currentPower => (.readCurrentPower, .currentPower)
  | .deviceId => (.checkState, .deviceId)
  | .currentVoltagePhase1 => (.readCurrentVoltage, .voltagePhase1)
  | .currentVoltagePhase2 => (.readCurrentVoltage, .voltagePhase2)
  | .currentVoltagePhase3 => (.readCurrentVoltage, .voltagePhase3)
  | .currentAmperagePhase1 => (.readCurrentAmperage, .amperagePhase1)
  | .currentAmperagePhase2 => (.readCurrentAmperage, .amperagePhase2)
  | .currentAmperagePhase3 => (.readCurrentAmperage, .amperagePhase3)

theorem target_admitted (measurement : Measurement) :
    measurement.target.1.admits measurement.target.2 = true := by
  cases measurement <;> rfl

def unit (measurement : Measurement) : String :=
  match measurement.target.1 with
  | .readTotalPower => "kWh"
  | .readCurrentPower => "W"
  | .readCurrentVoltage => "V"
  | .readCurrentAmperage => "A"
  | .checkState => "N/A"

def ofName? (text : String) : Option Measurement :=
  all.find? fun measurement => measurement.name == text

theorem ofName?_name (measurement : Measurement) :
    ofName? measurement.name = some measurement := by
  cases measurement <;> rfl

def ofQuery (text : String) : Except Failure Measurement :=
  match ofName? text with
  | some measurement => .ok measurement
  | none => .error (.invalidArgument ("unknown device function " ++ text))

end Measurement

structure Sample where
  device : String
  measurement : Measurement
  reading : Reading
  unit : String
  deriving Repr, DecidableEq

end MeterLine
