import MeterLine.Bench.World

/-!
# Metering in a world

Queries and health checks of the devices of a world: the same ones that
`Visited` makes on a port given by its turns, made on simulated lines among
whatever else goes on there.
-/

namespace MeterLine.Bench

structure Inquiry where
  device : Device
  measurement : Measurement
  caller : Caller

namespace Inquiry

def sample (inquiry : Inquiry) (caller : Caller) : Except Failure Sample :=
  match caller.reading? with
  | some outcome =>
      outcome.map (inquiry.device.sample inquiry.measurement)
  | none => .error (.connection "no reading")

end Inquiry

namespace World

def countDevice (world : World σ) (position : Nat) : World σ :=
  { world with
    devices := world.devices.modify position fun bound =>
      { bound with device := bound.device.count } }

/-- Inquire about a measurement of the device of a name.  The device counts the
command, unless there is nothing to ask. -/
def inquire (name : String) (measurement : Measurement) (world : World σ) :
    World σ × Except Failure Inquiry :=
  match world.registry.position? name, world.registry.device? name with
  | some position, some bound =>
      match bound.device.query measurement with
      | .error failure => (world, .error failure)
      | .ok (function, register) =>
          (world.countDevice position,
            (Request.ofFunction function bound.device.address register).map
              fun request =>
                { device := bound.device
                  measurement := measurement
                  caller :=
                    Caller.fresh bound.port (.function function request) })
  | _, _ => (world, .error (Registry.unknownDevice name))

def inquireByName (name measurement : String) (world : World σ) :
    World σ × Except Failure Inquiry :=
  match Measurement.ofQuery measurement with
  | .ok measurement => world.inquire name measurement
  | .error failure => (world, .error failure)

def conclude (plant : Plant σ) (world : World σ) :
    Except Failure Inquiry → World σ × Except Failure Sample
  | .ok inquiry =>
      let (after, caller) := world.attend plant patience inquiry.caller
      (after, inquiry.sample caller)
  | .error failure => (world, .error failure)

def query (plant : Plant σ) (name measurement : String) (world : World σ) :
    World σ × Except Failure Sample :=
  let (world, inquiry) := world.inquireByName name measurement
  world.conclude plant inquiry

def queryEach (plant : Plant σ) (name : String) :
    List Measurement → World σ →
      World σ × List (Measurement × Except Failure Sample)
  | [], world => (world, [])
  | measurement :: measurements, world =>
      let (asked, inquiry) := world.inquire name measurement
      let (between, result) := asked.conclude plant inquiry
      let (after, results) := between.queryEach plant name measurements
      (after, (measurement, result) :: results)

def inquireEach :
    List (String × String) → World σ →
      World σ × List (Except Failure Inquiry)
  | [], world => (world, [])
  | (name, measurement) :: others, world =>
      let (between, inquiry) := world.inquireByName name measurement
      let (after, inquiries) := between.inquireEach others
      (after, inquiry :: inquiries)

/-- Query measurements by their names, all at once.  Every result comes with
the milliseconds that it took. -/
def queryTogether (plant : Plant σ) (queries : List (String × String))
    (world : World σ) : World σ × List (Except Failure Sample × Nat) :=
  let (asked, inquiries) := world.inquireEach queries
  let callers := inquiries.map fun inquiry =>
    match inquiry with
    | .ok inquiry => inquiry.caller
    | .error _ =>
        { Caller.fresh 0 (.message []) with stage := .gone }
  let first := asked.callers.length
  let after := (asked.spawn callers).join plant
    (List.range' first callers.length)
  let results := (inquiries.zip (after.callers.drop first)).map fun entry =>
    match entry.1 with
    | .ok inquiry =>
        (inquiry.sample entry.2,
          (entry.2.instant?.getD world.now) - world.now)
    | .error failure => (.error failure, 0)
  (after, results)

/-- Check the health of the device of a name.  It comes with the count of the
device's commands so far. -/
def checkDevice (plant : Plant σ) (name : String) (world : World σ) :
    World σ × Option (Health × UInt64) :=
  match world.registry.position? name, world.registry.device? name with
  | some position, some bound =>
      match world.port? bound.port with
      | some port =>
          if port.running then
            let request := Request.read bound.device.address .deviceId
            let (after, caller) :=
              (world.countDevice position).attend plant patience
                (Caller.fresh bound.port (.function .checkState request))
            let outcome := caller.reading?.getD
              (.error (.connection "no reading"))
            (after, some (Device.healthAfter outcome,
              bound.device.calls + 1))
          else
            (world, some (Device.healthWithoutPort port.settings.name,
              bound.device.calls))
      | none => (world, none)
  | _, _ => (world, none)

end World

end MeterLine.Bench
