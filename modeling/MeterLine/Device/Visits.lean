import MeterLine.Device
import MeterLine.Executor.Turns

/-!
# Visits to a device

A sequence of queries and health checks of one device, on a port given by its
turns.
-/

namespace MeterLine

/-- A device, the executor and the port it uses, and the current time. -/
structure Visited where
  device : Device
  executor : Executor
  port : TurnPort
  now : Nat

namespace Visited

def execute (visited : Visited) (function : MeterFunction)
    (register : Register) : Visited × Except Failure Reading :=
  let executed := visited.executor.run visited.port visited.now function
    visited.device.address register
  ({ device := visited.device.count
     executor := executed.executor
     port := executed.port
     now := executed.now }, executed.outcome)

def query (visited : Visited) (measurement : Measurement) :
    Visited × Except Failure Sample :=
  match visited.device.query measurement with
  | .error failure => (visited, .error failure)
  | .ok (function, register) =>
      let (after, outcome) := visited.execute function register
      (after, outcome.map (visited.device.sample measurement))

def queryByName (visited : Visited) (name : String) :
    Visited × Except Failure Sample :=
  match Measurement.ofQuery name with
  | .error failure => (visited, .error failure)
  | .ok measurement => visited.query measurement

def queryEach (visited : Visited) :
    List Measurement →
      Visited × List (Measurement × Except Failure Sample)
  | [] => (visited, [])
  | measurement :: measurements =>
      let (between, result) := visited.query measurement
      let (after, results) := between.queryEach measurements
      (after, (measurement, result) :: results)

def queryAll (visited : Visited) :
    Visited × List (Measurement × Except Failure Sample) :=
  visited.queryEach visited.device.measurements

def health (visited : Visited) : Visited × Health :=
  if visited.port.running then
    let (after, outcome) := visited.execute .checkState .deviceId
    (after, Device.healthAfter outcome)
  else (visited, Device.healthWithoutPort visited.port.name)

end Visited

end MeterLine
