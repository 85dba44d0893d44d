import MeterLine.Bench.World
import MeterLine.Crc

/-!
# Simulated meters on a bus

A bus connects meters that answer reads of the registers they hold.  A request
is heard when it is flushed; one that is not whole or not intact, or that asks
for a register nobody holds, is met with silence.  Interferences are applied to
answers one after the other.
-/

namespace MeterLine.Bench

/-- What may happen to an answer on its way. -/
inductive Interference where
  | none
  | corrupt
  | foreign
  | silent
  | short
  | long
  | noise
  deriving Repr, DecidableEq, Inhabited

/-- The interference of a name; other names stand for none. -/
def Interference.ofName : String → Interference
  | "corrupt" => .corrupt
  | "foreign" => .foreign
  | "silent" => .silent
  | "short" => .short
  | "long" => .long
  | "noise" => .noise
  | _ => .none

structure Holding where
  address : UInt8
  register : UInt8
  data : Bytes
  deriving Repr, DecidableEq, Inhabited

structure MeterBus where
  missing : Option String
  holdings : List Holding
  interferences : List Interference
  /-- Milliseconds from a request to its answer. -/
  latency : Nat
  announcing : Bool
  inbox : Inbox
  taken : Bytes
  /-- Requests, latest first. -/
  written : List Bytes
  openings : List OpenFault

namespace MeterBus

def empty : MeterBus :=
  { missing := none
    holdings := []
    interferences := []
    latency := 0
    announcing := true
    inbox := Inbox.empty
    taken := []
    written := []
    openings := [] }

def hold (bus : MeterBus) (holding : Holding) : MeterBus :=
  let others := bus.holdings.filter fun other =>
    !(other.address == holding.address && other.register == holding.register)
  { bus with holdings := holding :: others }

def detach (bus : MeterBus) (address : UInt8) : MeterBus :=
  { bus with
    holdings := bus.holdings.filter fun holding => holding.address != address }

def stamped (octets : Bytes) : Bytes :=
  Crc.stamp (octets ++ [0, 0])

def disturb (interference : Interference) (address code : UInt8)
    (data : Bytes) : Bytes :=
  let frame := fun address : UInt8 =>
    stamped (address :: code :: UInt8.ofNat data.length :: data)
  let answer := frame address
  match interference with
  | .none => answer
  | .corrupt =>
      answer.dropLast ++ (answer.getLast?.map (· ^^^ 0xFF)).toList
  | .foreign => frame (address + 1)
  | .silent => []
  | .short => answer.take 5
  | .long => answer ++ List.replicate 7 0xAA
  | .noise => List.replicate 300 0x55

/-- What a whole and intact request asks for. -/
def asked? (bus : MeterBus) (request : Bytes) : Option (UInt8 × Holding) :=
  match request with
  | [address, code, _, register, _, _, _, _] =>
      if Crc.intact request then
        (bus.holdings.find? fun holding =>
          holding.address == address && holding.register == register).map
            fun holding => (code, holding)
      else none
  | _ => none

def hear (bus : MeterBus) (now : Nat) (request : Bytes) : MeterBus :=
  match bus.asked? request with
  | some (code, holding) =>
      let interference := bus.interferences.headD .none
      let answer := disturb interference holding.address code holding.data
      let arrivals : List Arrival :=
        if interference = .silent then []
        else
          [{ instant := now + bus.latency
             octets := answer
             event :=
              if bus.announcing then some (.dataAvailable true false)
              else none }]
      { bus with
        interferences := bus.interferences.tail
        inbox := bus.inbox.schedule arrivals }
  | none => bus

def interface : Line MeterBus :=
  { available := fun now bus =>
      let (inbox, events) := bus.inbox.deliver now
      { value := .ok inbox.buffer.length
        line := { bus with inbox := inbox }
        events := events }
    read := fun _ size bus =>
      let (inbox, octets) := bus.inbox.takeOut size
      { value := .ready (.ok octets)
        line := { bus with inbox := inbox }
        events := [] }
    write := fun _ octets bus =>
      { value := .ready (.ok octets.length)
        line := { bus with taken := bus.taken ++ octets }
        events := [] }
    flush := fun now bus =>
      let heard :=
        { bus with
          taken := []
          written := bus.taken :: bus.written }.hear now bus.taken
      let (inbox, events) := heard.inbox.deliver now
      { value := .ready (.ok ())
        line := { heard with inbox := inbox }
        events := events } }

def openNext (bus : MeterBus) : MeterBus × OpenFault :=
  match bus.missing with
  | some name => (bus, some (.open, .portNotFound name))
  | none =>
      let fault := bus.openings.headD none
      let tried := { bus with openings := bus.openings.tail }
      match fault with
      | some (.open, _) => (tried, fault)
      | _ => ({ tried with inbox := Inbox.empty, taken := [] }, fault)

def plant : Plant MeterBus :=
  { line := interface
    openNext := openNext }

end MeterBus

end MeterLine.Bench
