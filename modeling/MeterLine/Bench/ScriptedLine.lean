import MeterLine.Bench.World

/-!
# Scripted lines

A scripted line plays one plan after the other.  A plan says how the request
is taken and flushed, what arrives after the flush, how much the line is said to
hold, and how reads go.  A plan becomes current with the first write or flush of
a request and stays current until the next request begins.
-/

namespace MeterLine.Bench

inductive Conduct where
  | smooth
  | stuck
  /-- The operation is ready but moves no octet. -/
  | nothing
  | faulty (fault : StreamFault) (after : Nat)
  deriving Repr, DecidableEq, Inhabited

/-- An arrival counted from the flush of a request. -/
structure PlannedArrival where
  delay : Nat
  octets : Bytes
  event : Option PortEvent
  deriving Repr, DecidableEq, Inhabited

structure Plan where
  write : Conduct
  /-- The most octets taken by one write, if there is a limit. -/
  chunk : Option Nat
  flush : Conduct
  arrivals : List PlannedArrival
  /-- Octets said to be buffered beyond those that are. -/
  extra : Nat
  /-- The look at the buffer that fails, counted from one, and its failure. -/
  lookFailure : Option (Nat × Failure)
  read : Conduct
  /-- The most octets given by one read, if there is a limit. -/
  readLimit : Option Nat
  deriving Repr, DecidableEq, Inhabited

def Plan.plain : Plan :=
  { write := .smooth
    chunk := none
    flush := .smooth
    arrivals := []
    extra := 0
    lookFailure := none
    read := .smooth
    readLimit := none }

/-- A line that plays plans. -/
structure ScriptedLine where
  current : Plan
  plans : List Plan
  /-- The plan of every request beyond the listed ones. -/
  fallback : Plan
  inbox : Inbox
  writing : Bool
  taken : Bytes
  looks : Nat
  readFailed : Bool
  written : List Bytes
  openings : List OpenFault

namespace ScriptedLine

def fresh (current : Plan) (plans : List Plan) (fallback : Plan)
    (buffer : Bytes) (openings : List OpenFault) : ScriptedLine :=
  { current := current
    plans := plans
    fallback := fallback
    inbox := { Inbox.empty with buffer := buffer }
    writing := false
    taken := []
    looks := 0
    readFailed := false
    written := []
    openings := openings }

def limited (limit : Option Nat) (count : Nat) : Nat :=
  match limit with
  | some most => min count most
  | none => count

def beginRequest (line : ScriptedLine) : ScriptedLine :=
  if line.writing then line
  else
    { line with
      current := line.plans.headD line.fallback
      plans := line.plans.tail
      writing := true
      taken := []
      looks := 0
      readFailed := false }

def endRequest (line : ScriptedLine) : ScriptedLine :=
  if line.writing then
    { line with
      writing := false
      written := line.taken :: line.written }
  else line

def available (now : Nat) (line : ScriptedLine) :
    LineAnswer ScriptedLine (Except Failure Nat) :=
  let (inbox, events) := line.inbox.deliver now
  let looked :=
    { line.endRequest with
      inbox := inbox
      looks := line.looks + 1 }
  let count := inbox.buffer.length + looked.current.extra
  { value :=
      match looked.current.lookFailure with
      | some (look, failure) =>
          if look = looked.looks then .error failure else .ok count
      | none => .ok count
    line := looked
    events := events }

def quiet (line : ScriptedLine) (value : α) : LineAnswer ScriptedLine α :=
  { value := value
    line := line
    events := [] }

def readSmoothly (size : Nat) (line : ScriptedLine) :
    LineAnswer ScriptedLine (Poll (Except StreamFault Bytes)) :=
  let (inbox, octets) :=
    line.inbox.takeOut (limited line.current.readLimit size)
  { line with inbox := inbox }.quiet (.ready (.ok octets))

def read (_ size : Nat) (line : ScriptedLine) :
    LineAnswer ScriptedLine (Poll (Except StreamFault Bytes)) :=
  match line.current.read with
  | .stuck => line.quiet (.pending none)
  | .nothing => line.quiet (.ready (.ok []))
  | .faulty fault _ =>
      if line.readFailed then line.readSmoothly size
      else
        { line with readFailed := true }.quiet (.ready (.error fault))
  | .smooth => line.readSmoothly size

def accept (octets : Bytes) (count : Nat) (line : ScriptedLine) :
    LineAnswer ScriptedLine (Poll (Except StreamFault Nat)) :=
  let accepted := octets.take (limited line.current.chunk count)
  { line with taken := line.taken ++ accepted }.quiet
    (.ready (.ok accepted.length))

def write (_ : Nat) (octets : Bytes) (line : ScriptedLine) :
    LineAnswer ScriptedLine (Poll (Except StreamFault Nat)) :=
  let line := line.beginRequest
  match line.current.write with
  | .stuck => line.quiet (.pending none)
  | .nothing => line.quiet (.ready (.ok 0))
  | .faulty fault after =>
      if after ≤ line.taken.length then
        line.endRequest.quiet (.ready (.error fault))
      else line.accept octets (min octets.length (after - line.taken.length))
  | .smooth => line.accept octets octets.length

/-- A flush that goes well schedules what the plan lets arrive. -/
def flushSmoothly (now : Nat) (line : ScriptedLine) :
    LineAnswer ScriptedLine (Poll (Except StreamFault Unit)) :=
  let scheduled := line.inbox.schedule
    (line.current.arrivals.map fun arrival =>
      { instant := now + arrival.delay
        octets := arrival.octets
        event := arrival.event })
  let (inbox, events) := scheduled.deliver now
  { value := .ready (.ok ())
    line := { line.endRequest with inbox := inbox }
    events := events }

def flush (now : Nat) (line : ScriptedLine) :
    LineAnswer ScriptedLine (Poll (Except StreamFault Unit)) :=
  let line := line.beginRequest
  match line.current.flush with
  | .stuck => line.quiet (.pending none)
  | .faulty fault _ => line.endRequest.quiet (.ready (.error fault))
  | .nothing => line.flushSmoothly now
  | .smooth => line.flushSmoothly now

def interface : Line ScriptedLine :=
  { available := available
    read := read
    write := write
    flush := flush }

/-- The next attempt to open the line.  An open line is empty, expects nothing,
and goes by the plain plan. -/
def openNext (line : ScriptedLine) : ScriptedLine × OpenFault :=
  let fault := line.openings.headD none
  let tried := { line with openings := line.openings.tail }
  match fault with
  | some (.open, _) => (tried, fault)
  | _ =>
      ({ tried with
          current := Plan.plain
          inbox := Inbox.empty
          looks := 0
          readFailed := false }, fault)

def plant : Plant ScriptedLine :=
  { line := interface
    openNext := openNext }

def missing (name : String) : Plant ScriptedLine :=
  { line := interface
    openNext := fun line => (line, some (.open, .portNotFound name)) }

end ScriptedLine

end MeterLine.Bench
