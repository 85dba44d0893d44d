/-!
# Events of a port

An open port may tell its listener that data became available or that the
hardware is at fault.
-/

namespace MeterLine

inductive PortEvent where
  /-- Data are now available, or no longer; `before` is what held so far. -/
  | dataAvailable (now before : Bool)
  | hardwareFault (message : String)
  deriving Repr, DecidableEq, Inhabited

def PortEvent.message : PortEvent → String
  | .dataAvailable now before => s!"data available {before} -> {now}"
  | .hardwareFault message => "hardware error: " ++ message

/-- The data-ready flag after an event; a fault leaves it as it is. -/
def PortEvent.flag (event : PortEvent) (ready : Bool) : Bool :=
  match event with
  | .dataAvailable now _ => now
  | .hardwareFault _ => ready

end MeterLine
