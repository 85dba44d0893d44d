import MeterLine.Device
import MeterLine.Port
import MeterLine.Settings.Adapter

/-!
# Registries

A registry holds one port for each port of an adapter's settings and one
device for each of its devices, in the order of the settings.  Every device is
bound to the port that its settings name.
-/

namespace MeterLine

/-- A device and the position of the port that it is bound to. -/
structure BoundDevice where
  device : Device
  port : Nat
  deriving Repr, DecidableEq, Inhabited

/-- The ports and devices of an adapter. -/
structure Registry (σ : Type) where
  ports : List (Port σ)
  devices : List BoundDevice

inductive HostWarning where
  | unlisted (failure : Failure)
  | absent (port : String)

/-- What comes of starting an adapter: what was warned of, the ports that were
set up, and the registry, unless there is a fault. -/
structure Startup (σ : Type) where
  warnings : List HostWarning
  ports : List (Port σ)
  outcome : Except SettingsFault (Registry σ)

def Port.position? (ports : List (Port σ)) (name : String) : Option Nat :=
  ports.findIdx? fun port => port.settings.name == name

namespace Registry

def bind (ports : List (Port σ)) (settings : DeviceSettings) :
    Except SettingsFault BoundDevice :=
  match Port.position? ports settings.port with
  | some position =>
      .ok
        { device := Device.ofSettings settings
          port := position }
  | none => .error (.unknownPort settings.name settings.port)

/-- Set up a port behind the others.  It takes the place of one that has its
name. -/
def setUp (reopenDelay : Nat) (line : String → σ) (ports : List (Port σ))
    (settings : PortSettings) : List (Port σ) :=
  ports.filter (fun port => port.settings.name != settings.name) ++
    [Port.fresh settings reopenDelay (line settings.name)]

/-- What is warned of, given the ports of the host, if somebody lists them. -/
def hostWarnings (ports : List PortSettings) :
    Option (Except Failure (List String)) → List HostWarning
  | none => []
  | some (.error failure) => [.unlisted failure]
  | some (.ok present) =>
      (ports.filter fun port => port.name ∉ present).map fun port =>
        .absent port.name

/-- Start an adapter.  Settings are checked before any port is set up, and the
ports of the host are at most warned about; `line` gives the line behind the
name of a port. -/
def startUp (settings : AdapterSettings)
    (host : Option (Except Failure (List String))) (reopenDelay : Nat)
    (line : String → σ) : Startup σ :=
  match settings.validate with
  | .error fault =>
      { warnings := []
        ports := []
        outcome := .error fault }
  | .ok () =>
      let ports := settings.ports.foldl (setUp reopenDelay line) []
      { warnings := hostWarnings settings.ports host
        ports := ports
        outcome := (settings.devices.mapM (bind ports)).map fun devices =>
          { ports := ports
            devices := devices } }

def start (settings : AdapterSettings) (reopenDelay : Nat)
    (line : String → σ) : Except SettingsFault (Registry σ) :=
  (startUp settings none reopenDelay line).outcome

def port? (registry : Registry σ) (name : String) : Option (Port σ) :=
  registry.ports.find? fun port => port.settings.name == name

def position? (registry : Registry σ) (name : String) : Option Nat :=
  registry.devices.findIdx? fun bound => bound.device.name == name

def device? (registry : Registry σ) (name : String) : Option BoundDevice :=
  registry.devices.find? fun bound => bound.device.name == name

def unknownDevice (name : String) : Failure :=
  .invalidArgument ("unknown device " ++ name)

def health (registry : Registry σ) : Health :=
  Health.aggregate
    (registry.ports.map fun port => (port.settings.name, port.health))

def portName (registry : Registry σ) (bound : BoundDevice) : String :=
  match registry.ports[bound.port]? with
  | some port => port.settings.name
  | none => ""

end Registry

end MeterLine
