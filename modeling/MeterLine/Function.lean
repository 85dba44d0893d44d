import MeterLine.Frame.Field
import MeterLine.Reading
import MeterLine.Register

/-!
# Meter functions

A function reads registers of one family and says how the data of a reply
become a reading: a signed number of four or two octets divided by a scale, or
the address octet of the reply itself.
-/

namespace MeterLine

/-- What a meter can be asked for. -/
inductive MeterFunction where
  | readTotalPower
  | readCurrentPower
  | readCurrentVoltage
  | readCurrentAmperage
  | checkState
  deriving Repr, DecidableEq, Inhabited

namespace MeterFunction

def all : List MeterFunction :=
  [.readTotalPower, .readCurrentPower, .readCurrentVoltage,
    .readCurrentAmperage, .checkState]

theorem mem_all (function : MeterFunction) : function ∈ all := by
  cases function <;> decide

def name : MeterFunction → String
  | .readTotalPower => "ReadTotalPower"
  | .readCurrentPower => "ReadCurrentPower"
  | .readCurrentVoltage => "ReadCurrentVoltage"
  | .readCurrentAmperage => "ReadCurrentAmperage"
  | .checkState => "ReadModbusDeviceId"

/-- Octets of a reply that are kept; what follows them is not looked at. -/
def replySize (_ : MeterFunction) : Nat := 9

/-- How the data of a reply become a reading. -/
inductive Decoding where
  | signed32 (scale : Nat)
  | signed16 (scale : Nat)
  | address
  deriving Repr, DecidableEq

def decoding : MeterFunction → Decoding
  | .readTotalPower => .signed32 100
  | .readCurrentPower => .signed32 1
  | .readCurrentVoltage => .signed16 10
  | .readCurrentAmperage => .signed16 10
  | .checkState => .address

/-- A whole number as a measurement: rounded to single precision, then divided
by its scale. -/
def scaled (scale : Nat) (value : Int) : Reading :=
  .measured ((Single.ofInt value).divide scale)

def decode (function : MeterFunction) (reply : Bytes) :
    Except Failure Reading :=
  match function.decoding with
  | .signed32 scale =>
      (Frame.signed32 reply ⟨.ofNat dataOffset, by decide⟩).map (scaled scale)
  | .signed16 scale =>
      (Frame.signed16 reply ⟨.ofNat dataOffset, by decide⟩).map (scaled scale)
  | .address => (Frame.octet reply ⟨0, by decide⟩).map .octet

def admits : MeterFunction → Register → Bool
  | .readTotalPower, register => register.isEnergyCounter
  | .readCurrentPower, register => register == .currentPower
  | .readCurrentVoltage, register => register.isVoltage
  | .readCurrentAmperage, register => register.isAmperage
  | .checkState, register => register == .deviceId

def refusal (function : MeterFunction) (register : Register) : Failure :=
  match function with
  | .readTotalPower =>
      .invalidArgument
        s!"register {register.label} does not belong to total power"
  | .readCurrentVoltage =>
      .invalidArgument s!"register {register.label} is not a voltage phase"
  | .readCurrentAmperage =>
      .invalidArgument s!"register {register.label} is not an amperage phase"
  | other =>
      .invalidArgument s!"{other.name} cannot read register {register.label}"

end MeterFunction

end MeterLine
