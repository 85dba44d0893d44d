import MeterLine.Port.Line
import MeterLine.Settings.Port
import MeterLine.Traffic

/-!
# Wires

A wire is a line together with what its port knows about it: the data-ready
flag, whether a listener is installed, hardware faults that were heard but not
yet looked at, the traffic counters, and a record of everything done.
-/

namespace MeterLine

/-- Something done to or reported by a port. -/
inductive Act where
  | opened
  | configured
  | streamed
  | listened
  | unlistened
  | closed
  | cleaned
  | running (value : Bool)
  | written (count : Nat)
  | read (count : Nat)
  deriving Repr, DecidableEq, Inhabited

namespace Act

def describe (settings : PortSettings) : Act → String
  | .opened => "open"
  | .configured =>
      s!"configure {settings.baudRate.toNat} {settings.dataBits.toNat}"
  | .streamed => "io"
  | .listened => "listen"
  | .unlistened => "unlisten"
  | .closed => "close"
  | .cleaned => "clean " ++ settings.name
  | .running value => s!"running {value}"
  | .written count => s!"written {count}"
  | .read count => s!"read {count}"

/-- Whether an act is done to the line, as opposed to reported to whoever
watches the port. -/
def touchesLine : Act → Bool
  | .cleaned => false
  | .running _ => false
  | .written _ => false
  | .read _ => false
  | _ => true

end Act

/-- A line and what its port knows about it. -/
structure Wire (σ : Type) where
  line : σ
  ready : Bool
  listening : Bool
  /-- Hardware faults not yet looked at, oldest first. -/
  faults : List String
  traffic : Traffic
  acts : List Act

namespace Wire

def fresh (line : σ) : Wire σ :=
  { line := line
    ready := false
    listening := false
    faults := []
    traffic := Traffic.zero
    acts := [] }

def record (wire : Wire σ) (act : Act) : Wire σ :=
  { wire with acts := act :: wire.acts }

/-- Hear an event, if a listener is installed. -/
def hear (wire : Wire σ) (event : PortEvent) : Wire σ :=
  if wire.listening then
    match event with
    | .dataAvailable now _ => { wire with ready := now }
    | .hardwareFault message =>
        { wire with faults := wire.faults ++ [message] }
  else wire

def take (wire : Wire σ) (answer : LineAnswer σ α) : Wire σ :=
  answer.events.foldl hear { wire with line := answer.line }

def sent (wire : Wire σ) (count : Nat) : Wire σ :=
  { wire.record (.written count) with traffic := wire.traffic.sent count }

def received (wire : Wire σ) (count : Nat) : Wire σ :=
  { wire.record (.read count) with traffic := wire.traffic.received count }

def expired (wire : Wire σ) : Wire σ :=
  { wire with traffic := wire.traffic.expired }

def failed (wire : Wire σ) : Wire σ :=
  { wire with traffic := wire.traffic.failed }

def clear (wire : Wire σ) : Wire σ :=
  { wire with ready := false }

def actsSince (wire : Wire σ) (known : Nat) : List Act :=
  (wire.acts.take (wire.acts.length - known)).reverse

end Wire

/-- What whoever watches from outside is told of an act. -/
def Ledger.note (ledger : Ledger) (port : String) : Act → Ledger
  | .running value => ledger.running port value
  | .written count => ledger.written port count
  | .read count => ledger.read port count
  | _ => ledger

def Wire.totals (wire : Wire σ) (port : String) : PortTotals :=
  (wire.acts.foldr (fun act ledger => ledger.note port act)
    Ledger.empty).port port

end MeterLine
