import MeterLine.Bytes

/-!
# Registers of a meter

A register is addressed by one octet.  Its family says which function may read
it: energy counters, phase voltages, phase currents, or neither.
-/

namespace MeterLine

/-- A register that meters know. -/
inductive Register where
  | totalPower
  | exportPower
  | importPower
  | currentPower
  | deviceId
  | voltagePhase1
  | voltagePhase2
  | voltagePhase3
  | amperagePhase1
  | amperagePhase2
  | amperagePhase3
  deriving Repr, DecidableEq, Inhabited

namespace Register

def all : List Register :=
  [.totalPower, .exportPower, .importPower, .currentPower, .deviceId,
    .voltagePhase1, .voltagePhase2, .voltagePhase3,
    .amperagePhase1, .amperagePhase2, .amperagePhase3]

theorem mem_all (register : Register) : register ∈ all := by
  cases register <;> decide

def address : Register → UInt8
  | .totalPower => 0x00
  | .exportPower => 0x08
  | .importPower => 0x0A
  | .currentPower => 0x86
  | .deviceId => 0x15
  | .voltagePhase1 => 0x80
  | .voltagePhase2 => 0x81
  | .voltagePhase3 => 0x82
  | .amperagePhase1 => 0x83
  | .amperagePhase2 => 0x84
  | .amperagePhase3 => 0x85

def ofAddress? (value : UInt8) : Option Register :=
  all.find? fun register => register.address == value

theorem ofAddress?_address (register : Register) :
    ofAddress? register.address = some register := by
  cases register <;> decide

def isEnergyCounter : Register → Bool
  | .totalPower => true
  | .exportPower => true
  | .importPower => true
  | _ => false

def isVoltage : Register → Bool
  | .voltagePhase1 => true
  | .voltagePhase2 => true
  | .voltagePhase3 => true
  | _ => false

def isAmperage : Register → Bool
  | .amperagePhase1 => true
  | .amperagePhase2 => true
  | .amperagePhase3 => true
  | _ => false

def name : Register → String
  | .totalPower => "TotalPower"
  | .exportPower => "ExportPower"
  | .importPower => "ImportPower"
  | .currentPower => "CurrentPower"
  | .deviceId => "DeviceId"
  | .voltagePhase1 => "VoltagePhase1"
  | .voltagePhase2 => "VoltagePhase2"
  | .voltagePhase3 => "VoltagePhase3"
  | .amperagePhase1 => "AmperagePhase1"
  | .amperagePhase2 => "AmperagePhase2"
  | .amperagePhase3 => "AmperagePhase3"

def key : Register → String
  | .totalPower => "TOTAL_POWER"
  | .exportPower => "EXPORT_POWER"
  | .importPower => "IMPORT_POWER"
  | .currentPower => "CURRENT_POWER"
  | .deviceId => "DEVICE_ID"
  | .voltagePhase1 => "VOLTAGE_PHASE1"
  | .voltagePhase2 => "VOLTAGE_PHASE2"
  | .voltagePhase3 => "VOLTAGE_PHASE3"
  | .amperagePhase1 => "AMPERAGE_PHASE1"
  | .amperagePhase2 => "AMPERAGE_PHASE2"
  | .amperagePhase3 => "AMPERAGE_PHASE3"

/-- The name followed by the address, as messages show a register. -/
def label (register : Register) : String :=
  register.name ++ "(0x" ++ String.ofList (hexPair register.address) ++ ")"

end Register

end MeterLine
