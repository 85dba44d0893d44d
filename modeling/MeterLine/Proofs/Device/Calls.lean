import MeterLine.Device.Visits

/-!
# Calls upon a device

A device is called upon again and again, while others use the same executor and
the same port in between.  Its counter tells how often it went to the port: once
for each query of a measurement that it exposes, and once for each health check
that found the port running.  A call that is refused before that leaves
everything as it is.
-/

namespace MeterLine

namespace Measurement

theorem ofName?_eq_none {text : String}
    (unknown : ∀ measurement : Measurement, measurement.name ≠ text) :
    ofName? text = none := by
  rw [ofName?, List.find?_eq_none]
  intro measurement _
  simpa using unknown measurement

end Measurement

namespace Device

def counted (device : Device) (commands : Nat) : Device :=
  { device with calls := device.calls + UInt64.ofNat commands }

@[simp] theorem counted_zero (device : Device) :
    device.counted 0 = device := by
  simp [counted]

@[simp] theorem counted_counted (device : Device) (first second : Nat) :
    (device.counted first).counted second =
      device.counted (first + second) := by
  simp only [counted, UInt64.ofNat_add, UInt64.add_assoc]

end Device

namespace Visited

inductive Call where
  | query (measurement : Measurement)
  | queryByName (name : String)
  | queryAll
  | health
  /-- Others use the executor and the port, and time passes. -/
  | meanwhile (executor : Executor) (port : TurnPort) (now : Nat)

inductive Answer where
  | sample (outcome : Except Failure Sample)
  | samples (outcomes : List (Measurement × Except Failure Sample))
  | report (health : Health)
  | nothing

def perform (visited : Visited) : Call → Visited × Answer
  | .query measurement =>
      let (after, outcome) := visited.query measurement
      (after, .sample outcome)
  | .queryByName name =>
      let (after, outcome) := visited.queryByName name
      (after, .sample outcome)
  | .queryAll =>
      let (after, outcomes) := visited.queryAll
      (after, .samples outcomes)
  | .health =>
      let (after, health) := visited.health
      (after, .report health)
  | .meanwhile executor port now =>
      ({ visited with
          executor := executor
          port := port
          now := now }, .nothing)

/-- A call and the situation that it is made in. -/
structure Visit where
  before : Visited
  call : Call

namespace Visit

def after (visit : Visit) : Visited :=
  (visit.before.perform visit.call).1

def answer (visit : Visit) : Answer :=
  (visit.before.perform visit.call).2

/-- The call is a health check that found the port running. -/
def checks (visit : Visit) : Bool :=
  match visit.call with
  | .health => visit.before.port.running
  | _ => false

end Visit

def visits (visited : Visited) : List Call → List Visit
  | [] => []
  | call :: calls => ⟨visited, call⟩ :: (visited.perform call).1.visits calls

def afterCalls (visited : Visited) (calls : List Call) : Visited :=
  calls.foldl (fun visited call => (visited.perform call).1) visited

end Visited

def Device.asked (device : Device) : Visited.Call → List Measurement
  | .query measurement => [measurement]
  | .queryByName name => (Measurement.ofName? name).toList
  | .queryAll => device.measurements
  | .health | .meanwhile _ _ _ => []

/-- How many of the measurements that are asked for a device exposes. -/
def Device.exposed (device : Device) (asked : List Measurement) : Nat :=
  asked.countP (· ∈ device.measurements)

namespace Device

theorem exposed_append (device : Device) (first second : List Measurement) :
    device.exposed (first ++ second) =
      device.exposed first + device.exposed second :=
  List.countP_append

@[simp] theorem counted_exposed (device : Device) (commands : Nat) :
    (device.counted commands).exposed = device.exposed := rfl

@[simp] theorem counted_asked (device : Device) (commands : Nat) :
    (device.counted commands).asked = device.asked := by
  funext call
  cases call <;> rfl

end Device

namespace Visited

variable {visited : Visited} {measurement : Measurement}

theorem query_of_exposed (exposed : measurement ∈ visited.device.measurements) :
    visited.query measurement =
      let executed :=
        visited.execute measurement.target.1 measurement.target.2
      (executed.1, executed.2.map (visited.device.sample measurement)) := by
  have supported : visited.device.supports measurement = true :=
    List.contains_iff_mem.mpr exposed
  simp only [query, Device.query, supported, if_true]

theorem query_of_unexposed
    (unexposed : measurement ∉ visited.device.measurements) :
    visited.query measurement =
      (visited, .error (.invalidArgument
        s!"device {visited.device.name} does not support function {measurement.name}")) := by
  have unsupported : ¬visited.device.supports measurement = true :=
    fun supported => unexposed (List.contains_iff_mem.mp supported)
  simp only [query, Device.query, if_neg unsupported]

theorem query_device (visited : Visited) (measurement : Measurement) :
    (visited.query measurement).1.device =
      visited.device.counted (visited.device.exposed [measurement]) := by
  by_cases exposed : measurement ∈ visited.device.measurements
  · rw [query_of_exposed exposed]
    simp [execute, Device.count, Device.counted, Device.exposed, exposed]
  · rw [query_of_unexposed exposed]
    simp [Device.exposed, exposed]

theorem queryByName_of_some {name : String}
    (known : Measurement.ofName? name = some measurement) :
    visited.queryByName name = visited.query measurement := by
  rw [queryByName, Measurement.ofQuery, known]

theorem queryByName_of_none {name : String}
    (unknown : Measurement.ofName? name = none) :
    visited.queryByName name =
      (visited, .error (.invalidArgument
        ("unknown device function " ++ name))) := by
  rw [queryByName, Measurement.ofQuery, unknown]

theorem queryEach_device (measurements : List Measurement) :
    ∀ visited : Visited,
      (visited.queryEach measurements).1.device =
        visited.device.counted (visited.device.exposed measurements) := by
  induction measurements with
  | nil =>
      intro visited
      exact (Device.counted_zero _).symm
  | cons measurement measurements induction =>
      intro visited
      have step := visited.query_device measurement
      have rest := induction (visited.query measurement).1
      rw [step, Device.counted_counted, Device.counted_exposed,
        ← Device.exposed_append] at rest
      exact rest

theorem queryEach_after (measurements : List Measurement) :
    ∀ visited : Visited,
      (visited.queryEach measurements).1 =
        visited.afterCalls (measurements.map .query) := by
  induction measurements with
  | nil =>
      intro visited
      rfl
  | cons measurement measurements induction =>
      intro visited
      exact induction (visited.query measurement).1

/-- Each measurement gets the outcome of a query after those before it. -/
theorem getElem?_queryEach (measurements : List Measurement) :
    ∀ (visited : Visited) (index : Nat),
      (visited.queryEach measurements).2[index]? =
        measurements[index]?.map fun measurement =>
          (measurement, ((visited.afterCalls
            ((measurements.take index).map .query)).query measurement).2) := by
  induction measurements with
  | nil =>
      intro visited index
      rfl
  | cons measurement measurements induction =>
      intro visited index
      cases index with
      | zero => rfl
      | succ index => exact induction (visited.query measurement).1 index

theorem health_of_running (running : visited.port.running = true) :
    visited.health =
      let executed := visited.execute .checkState .deviceId
      (executed.1, Device.healthAfter executed.2) := by
  simp only [health, running, if_true]

theorem health_of_stopped (stopped : visited.port.running = false) :
    visited.health =
      (visited, Device.healthWithoutPort visited.port.name) := by
  simp only [health, stopped, Bool.false_eq_true, if_false]

theorem status_of_running (running : visited.port.running = true) :
    visited.health.2.status =
      if (visited.executor.checkState visited.port visited.now
        visited.device.address).octet.isOk then .up else .down := by
  rw [health_of_running running]
  have judged : ∀ outcome : Except Failure Reading,
      (Device.healthAfter outcome).status =
        if (outcome.bind Reading.expectOctet).isOk then .up else .down := by
    intro outcome
    rw [Device.healthAfter]
    cases outcome.bind Reading.expectOctet <;> rfl
  exact judged _

theorem perform_device (visited : Visited) (call : Call) :
    (visited.perform call).1.device =
      visited.device.counted
        (visited.device.exposed (visited.device.asked call) +
          if Visit.checks ⟨visited, call⟩ then 1 else 0) := by
  cases call with
  | query measurement => exact visited.query_device measurement
  | queryByName name =>
      cases known : Measurement.ofName? name with
      | none =>
          rw [perform, queryByName_of_none known, Device.asked, known]
          exact (Device.counted_zero _).symm
      | some measurement =>
          rw [perform, queryByName_of_some known, Device.asked, known]
          exact visited.query_device measurement
  | queryAll => exact queryEach_device visited.device.measurements visited
  | health =>
      cases running : visited.port.running with
      | true =>
          rw [perform, health_of_running running, Visit.checks, if_pos running]
          rfl
      | false =>
          have idle : ¬Visit.checks ⟨visited, .health⟩ = true := by
            simp [Visit.checks, running]
          rw [perform, health_of_stopped running, if_neg idle]
          exact (Device.counted_zero _).symm
  | meanwhile executor port now => exact (Device.counted_zero _).symm

theorem afterCalls_device (calls : List Call) :
    ∀ visited : Visited,
      (visited.afterCalls calls).device =
        visited.device.counted
          (visited.device.exposed (calls.flatMap visited.device.asked) +
            (visited.visits calls).countP Visit.checks) := by
  induction calls with
  | nil =>
      intro visited
      exact (Device.counted_zero _).symm
  | cons call calls induction =>
      intro visited
      have step := visited.perform_device call
      have rest := induction (visited.perform call).1
      rw [step, Device.counted_counted, Device.counted_exposed,
        Device.counted_asked] at rest
      rw [afterCalls, List.foldl_cons, ← afterCalls, rest, visits,
        List.flatMap_cons, Device.exposed_append, List.countP_cons]
      congr 1
      omega

/-- What becomes of a call. -/
structure Visit.Answered (visit : Visit) : Prop where
  /-- A query of a measurement that the device does not expose is refused, and
  leaves everything as it is: no request goes to the port. -/
  unexposed : ∀ measurement ∉ visit.before.device.measurements,
    visit.call = .query measurement ∨
        visit.call = .queryByName measurement.name →
      visit.after = visit.before ∧
        visit.answer = .sample (.error (.invalidArgument
          s!"device {visit.before.device.name} does not support function {measurement.name}"))
  named : ∀ measurement : Measurement,
    visit.call = .queryByName measurement.name →
      visit.after = (visit.before.query measurement).1 ∧
        visit.answer = .sample (visit.before.query measurement).2
  unnamed : ∀ name : String,
    (∀ measurement : Measurement, measurement.name ≠ name) →
    visit.call = .queryByName name →
      visit.after = visit.before ∧
        visit.answer = .sample (.error (.invalidArgument
          ("unknown device function " ++ name)))
  /-- A query of everything returns, for each configured measurement in its
  place, what a query returns after those of the measurements before it. -/
  all : visit.call = .queryAll →
    let measurements := visit.before.device.measurements
    visit.after = visit.before.afterCalls (measurements.map .query) ∧
      ∃ results, visit.answer = .samples results ∧
        ∀ index : Nat, results[index]? =
          measurements[index]?.map fun measurement =>
            (measurement, ((visit.before.afterCalls
              ((measurements.take index).map .query)).query measurement).2)
  stopped : visit.call = .health → visit.before.port.running = false →
    visit.after = visit.before
  /-- The device is up if the port runs and the state check gives an octet,
  and down otherwise. -/
  health : visit.call = .health →
    ∃ health, visit.answer = .report health ∧
      (health.status = .up ↔ visit.before.port.running = true ∧
        ∃ value, (visit.before.executor.checkState visit.before.port
          visit.before.now visit.before.device.address).octet = .ok value) ∧
      (health.status = .up ∨ health.status = .down)

theorem Visit.answered (visit : Visit) : visit.Answered where
  unexposed := by
    rintro measurement unexposed (called | called)
    · rw [Visit.after, Visit.answer, called, perform,
        query_of_unexposed unexposed]
      exact ⟨rfl, rfl⟩
    · rw [Visit.after, Visit.answer, called, perform,
        queryByName_of_some (Measurement.ofName?_name measurement),
        query_of_unexposed unexposed]
      exact ⟨rfl, rfl⟩
  named := by
    intro measurement called
    rw [Visit.after, Visit.answer, called, perform,
      queryByName_of_some (Measurement.ofName?_name measurement)]
    exact ⟨rfl, rfl⟩
  unnamed := by
    intro name unknown called
    rw [Visit.after, Visit.answer, called, perform,
      queryByName_of_none (Measurement.ofName?_eq_none unknown)]
    exact ⟨rfl, rfl⟩
  all := by
    intro called measurements
    rw [Visit.after, Visit.answer, called]
    exact ⟨queryEach_after measurements visit.before,
      (visit.before.queryEach measurements).2, rfl,
      getElem?_queryEach measurements visit.before⟩
  stopped := by
    intro called stopped
    rw [Visit.after, called, perform, health_of_stopped stopped]
  health := by
    intro called
    rw [Visit.answer, called]
    refine ⟨visit.before.health.2, rfl, ?_⟩
    cases running : visit.before.port.running with
    | false =>
        rw [health_of_stopped running]
        exact ⟨⟨(nomatch ·), fun sound => (nomatch sound.1)⟩, .inr rfl⟩
    | true =>
        rw [status_of_running running]
        cases (visit.before.executor.checkState visit.before.port
            visit.before.now visit.before.device.address).octet with
        | ok value =>
            exact ⟨⟨fun _ => ⟨rfl, value, rfl⟩, fun _ => rfl⟩, .inl rfl⟩
        | error failure =>
            exact ⟨⟨(nomatch ·), fun sound => (nomatch sound.2)⟩, .inr rfl⟩

/-- The counter of a device grows by the queries of measurements that it
exposes, each one that a query of everything makes among them, and by the
health checks that found the port running; and every call is answered. -/
theorem calls_accounted (visited : Visited) (calls : List Call) :
    (visited.afterCalls calls).device.calls =
        visited.device.calls + UInt64.ofNat
          (visited.device.exposed (calls.flatMap visited.device.asked) +
            (visited.visits calls).countP Visit.checks) ∧
      ∀ visit ∈ visited.visits calls, visit.Answered := by
  constructor
  · rw [afterCalls_device, Device.counted]
  · intro visit _
    exact visit.answered

end Visited

end MeterLine
