import MeterLine.Bench.Caller
import MeterLine.Bench.Inbox
import MeterLine.Bench.WorkerRig
import MeterLine.Registry

/-!
# Worlds

A world holds ports on simulated lines, the devices bound to them, one executor
and any number of callers, at one instant.  Supervisors, workers and callers
take turns in the order in which they became ready.  Whoever plays with the
world from outside is heard only when all turns are taken.  Then attempts to
open lines are answered, and at last the time moves: to the next instant at
which somebody has something to do.
-/

namespace MeterLine.Bench

/-- A simulated line, and what comes of attempts to open it. -/
structure Plant (σ : Type) where
  line : Line σ
  openNext : σ → σ × OpenFault

/-- A port, and from when on its worker has something to do. -/
structure Station (σ : Type) where
  port : Port σ
  wake : Option Nat

inductive Task where
  | caller (position : Nat)
  | worker (position : Nat)
  | supervisor (position : Nat)
  deriving Repr, DecidableEq, Inhabited

/-- Ports, devices and callers at an instant. -/
structure World (σ : Type) where
  now : Nat
  stations : List (Station σ)
  devices : List BoundDevice
  executor : Executor
  callers : List Caller
  /-- Those who are ready, in the order in which they became so. -/
  queue : List Task
  served : List Nat

namespace Station

def supervisorReady (now : Nat) (station : Station σ) : Bool :=
  let port := station.port
  match port.phase with
  | .starting => true
  | .opening => false
  | .opened _ => true
  | .serving => port.sessionEnd?.isSome
  | .closing _ deadline => port.worker.isStopped || deadline ≤ now
  | .aborting _ => port.worker.isStopped
  | .pausing deadline =>
      port.cancelSignal || port.disposeSignal || deadline ≤ now
  | .finished => false

def isAborting (station : Station σ) : Bool :=
  match station.port.phase with
  | .aborting _ => true
  | _ => false

def workerReady (now : Nat) (station : Station σ) : Bool :=
  let worker := station.port.worker
  match worker.stage with
  | .stopped => false
  | .idle =>
      station.isAborting || worker.stopping || worker.closed ||
        !worker.queue.isEmpty
  | .busy _ _ =>
      station.isAborting ||
        match station.wake with
        | some wake => decide (wake ≤ now)
        | none => true

def timers (station : Station σ) : List Nat :=
  let worker :=
    if station.port.worker.isStopped then [] else station.wake.toList
  match station.port.phase with
  | .closing _ deadline => deadline :: worker
  | .pausing deadline => deadline :: worker
  | _ => worker

def supervise (now : Nat) (station : Station σ) : Station σ :=
  { station with port := station.port.supervise now }

def work (line : Line σ) (now : Nat) : Nat → Station σ → Station σ
  | 0, station => station
  | fuel + 1, station =>
      let progress := station.port.workerProgress line now
      let worked : Station σ :=
        { port := station.port.advance progress
          wake := progress.wake }
      if progress.more then worked.work line now fuel else worked

def answerOpen (openNext : σ → σ × OpenFault) (station : Station σ) :
    Station σ :=
  let port := station.port
  if port.phase = .opening then
    let (line, fault) := openNext port.wire.line
    { station with
      port := { port with wire := { port.wire with line := line } }.answerOpen
        fault }
  else station

end Station

namespace World

def ofRegistry (registry : Registry σ) (executor : Executor) : World σ :=
  { now := 0
    stations := registry.ports.map fun port =>
      { port := port
        wake := none }
    devices := registry.devices
    executor := executor
    callers := []
    queue := []
    served := [] }

def registry (world : World σ) : Registry σ :=
  { ports := world.stations.map Station.port
    devices := world.devices }

def port? (world : World σ) (position : Nat) : Option (Port σ) :=
  (world.stations[position]?).map Station.port

/-- The callers that got what they wanted since so many did, with the instants
at which they got it, first one first. -/
def servedSince (world : World σ) (known : Nat) : List (Nat × Nat) :=
  let latest := world.served.take (world.served.length - known)
  latest.reverse.filterMap fun position => do
    let caller ← world.callers[position]?
    let instant ← caller.instant?
    some (position, instant)

def changeStation (world : World σ) (position : Nat)
    (change : Station σ → Station σ) : World σ :=
  { world with stations := world.stations.modify position change }

def changePort (world : World σ) (position : Nat)
    (change : Port σ → Port σ) : World σ :=
  world.changeStation position fun station =>
    { station with port := change station.port }

def callerReady (world : World σ) (caller : Caller) : Bool :=
  match world.port? caller.port with
  | some port => caller.isReady port world.now
  | none => false

def readyCallers (world : World σ) : List Nat :=
  let ready := world.callers.zipIdx.filter fun entry =>
    world.callerReady entry.1
  let ordered := ready.mergeSort fun left right =>
    (left.1.number?).getD 0 ≤ (right.1.number?).getD 0
  ordered.map (·.2)

def ready (world : World σ) : List Task :=
  world.readyCallers.map Task.caller ++
    world.stations.zipIdx.flatMap fun entry =>
      let worker :=
        if entry.1.workerReady world.now then [Task.worker entry.2] else []
      let supervisor :=
        if entry.1.supervisorReady world.now then [Task.supervisor entry.2]
        else []
      worker ++ supervisor

/-- Let those who have become ready queue behind those who were. -/
def enqueueReady (world : World σ) : World σ :=
  let fresh := world.ready.filter fun task => !world.queue.contains task
  { world with queue := world.queue ++ fresh }

def turnCaller (world : World σ) (caller : Caller) : World σ × Caller :=
  match world.port? caller.port with
  | some port =>
      let turned := caller.turn world.executor port world.now
      ({ world with executor := turned.executor }.changePort caller.port
          fun _ => turned.port,
        turned.caller)
  | none => (world, caller)

def perform (plant : Plant σ) (world : World σ) (task : Task) : World σ :=
  match task with
  | .caller position =>
      match world.callers[position]? with
      | some caller =>
          let (turned, caller) := world.turnCaller caller
          { turned with
            callers := turned.callers.set position caller
            served :=
              if caller.instant?.isSome then position :: turned.served
              else turned.served }
      | none => world
  | .worker position =>
      world.changeStation position (Station.work plant.line world.now patience)
  | .supervisor position =>
      world.changeStation position (Station.supervise world.now)

def isOpening (world : World σ) : Bool :=
  world.stations.any fun station => station.port.phase == .opening

def answerOpens (plant : Plant σ) (world : World σ) : World σ :=
  { world with
    stations := world.stations.map (Station.answerOpen plant.openNext) }

def nextInstant? (world : World σ) (limit : Option Nat) : Option Nat :=
  let timers := limit.toList ++
    world.stations.flatMap Station.timers ++
    world.callers.filterMap Caller.wake?
  (timers.filter fun timer => world.now < timer).min?

def isDue (world : World σ) (limit : Option Nat) : Bool :=
  match limit with
  | some instant => instant ≤ world.now
  | none => false

/-- Let turns be taken and time move until `met` holds, or until `limit`. -/
def advance (plant : Plant σ) (met : World σ → Bool) (limit : Option Nat) :
    Nat → World σ → World σ
  | 0, world => world
  | fuel + 1, world =>
      let world := world.enqueueReady
      match world.queue with
      | task :: queue =>
          advance plant met limit fuel
            ({ world with queue := queue }.perform plant task)
      | [] =>
          if met world || world.isDue limit then world
          else if world.isOpening then
            advance plant met limit fuel (world.answerOpens plant)
          else
            match world.nextInstant? limit with
            | none => world
            | some instant =>
                let moved := { world with now := instant }.enqueueReady
                if moved.isDue limit then moved
                else advance plant met limit fuel moved

/-- Wait until `met` holds, but not beyond `limit`.  Nobody takes a turn when
there is nothing to wait for. -/
def wait (plant : Plant σ) (met : World σ → Bool) (limit : Option Nat)
    (world : World σ) : World σ :=
  let world := world.enqueueReady
  if met world || world.isDue limit then world
  else world.advance plant met limit patience

def sleep (plant : Plant σ) (duration : Nat) (world : World σ) : World σ :=
  world.wait plant (fun _ => false) (some (world.now + duration))

def settle (plant : Plant σ) (world : World σ) : World σ :=
  world.advance plant (fun _ => false) (some world.now) patience

def isRunning (position : Nat) (world : World σ) : Bool :=
  match world.port? position with
  | some port => port.state == .running
  | none => false

def waitRunning (plant : Plant σ) (position duration : Nat)
    (world : World σ) : World σ :=
  world.wait plant (isRunning position) (some (world.now + duration))

def act (plant : Plant σ) (position : Nat) (action : Port.Action)
    (world : World σ) : World σ :=
  (world.changePort position
    (Port.perform plant.line world.now action)).enqueueReady

def cancel (plant : Plant σ) (world : World σ) : World σ :=
  (List.range world.stations.length).foldl
    (fun world position => world.act plant position .cancel) world

def spawn (callers : List Caller) (world : World σ) : World σ :=
  { world.enqueueReady with
    callers := world.callers ++ callers }.enqueueReady

def dismiss (position : Nat) (world : World σ) : World σ :=
  match world.callers[position]? with
  | some caller =>
      match world.port? caller.port with
      | some port =>
          let (caller, port) := caller.leave port
          { world.changePort caller.port (fun _ => port) with
            callers := world.callers.set position caller }
      | none => world
  | none => world

def join (plant : Plant σ) (positions : List Nat) (world : World σ) :
    World σ :=
  world.wait plant
    (fun world => positions.all fun position =>
      match world.callers[position]? with
      | some caller => caller.isOver
      | none => true) none

def attend (plant : Plant σ) : Nat → Caller → World σ → World σ × Caller
  | 0, caller, world => (world, caller)
  | fuel + 1, caller, world =>
      let (world, caller) := world.turnCaller caller
      if caller.isOver then (world.enqueueReady, caller)
      else
        let later := world.wait plant
          (fun world => world.callerReady caller) caller.wake?
        if later.callerReady caller then later.attend plant fuel caller
        else (later, caller)

def send (plant : Plant σ) (position : Nat) (request : Bytes)
    (world : World σ) : World σ × Caller :=
  world.attend plant patience (Caller.fresh position (.message request))

def isFinished (position : Nat) (world : World σ) : Bool :=
  match world.port? position with
  | some port => port.phase == .finished
  | none => true

/-- Shut down the port at a position, and wait for its supervisor to finish if
that is for this caller to do. -/
def shutDown (plant : Plant σ) (position : Nat) (world : World σ) :
    World σ :=
  match world.port? position with
  | some port =>
      let (port, waits) := port.shutDown
      let disposed :=
        (world.changePort position fun _ => port).enqueueReady
      if waits then disposed.wait plant (isFinished position) none
      else disposed
  | none => world

def shutDownAll (plant : Plant σ) (world : World σ) : World σ :=
  (List.range world.stations.length).foldl
    (fun world position => world.shutDown plant position) world

end World

end MeterLine.Bench
