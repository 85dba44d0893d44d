import MeterLine.Port.Line

/-!
# Inboxes of simulated lines

A simulated line holds octets that are buffered and arrivals that are still to
come.  An arrival becomes visible when the line is looked at, in the order of
the instants, and raises its event at that moment.
-/

namespace MeterLine.Bench

structure Arrival where
  instant : Nat
  octets : Bytes
  event : Option PortEvent
  deriving Repr, DecidableEq, Inhabited

/-- Buffered octets, and arrivals in the order of their instants. -/
structure Inbox where
  buffer : Bytes
  arrivals : List Arrival
  deriving Repr, DecidableEq, Inhabited

namespace Inbox

def empty : Inbox :=
  { buffer := []
    arrivals := [] }

/-- Insert an arrival behind those of the same or an earlier instant. -/
def insertArrival (arrival : Arrival) : List Arrival → List Arrival
  | [] => [arrival]
  | next :: later =>
      if arrival.instant < next.instant then arrival :: next :: later
      else next :: insertArrival arrival later

def schedule (inbox : Inbox) (arrivals : List Arrival) : Inbox :=
  { inbox with
    arrivals := arrivals.foldl (fun known arrival =>
      insertArrival arrival known) inbox.arrivals }

/-- Make visible what has arrived by an instant; the events come with it. -/
def deliver (inbox : Inbox) (now : Nat) : Inbox × List PortEvent :=
  let due := inbox.arrivals.takeWhile fun arrival => arrival.instant ≤ now
  ({ buffer := inbox.buffer ++ due.flatMap Arrival.octets
     arrivals :=
      inbox.arrivals.dropWhile fun arrival => arrival.instant ≤ now },
    due.filterMap Arrival.event)

def takeOut (inbox : Inbox) (count : Nat) : Inbox × Bytes :=
  ({ inbox with buffer := inbox.buffer.drop count },
    inbox.buffer.take count)

end Inbox

end MeterLine.Bench
