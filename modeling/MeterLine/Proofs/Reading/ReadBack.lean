import MeterLine.Device.Visits
import MeterLine.Proofs.Json.Measured
import MeterLine.Proofs.Reading.Scaled

/-!
# Samples that are read back

The document of a sample says which measurement was taken, but not whether its
value is a measurement or an octet, and every number of a document is read as a
measurement.  So a sample with a measurement is read back as it was, and the
address of a meter comes back as the measurement of the same size.
-/

namespace MeterLine

namespace Single.Scaled

/-- What is read for a measurement that replies are scaled to is rounded to that
measurement. -/
theorem exists_readsAs {value : Single} (scaled : value.Scaled) :
    ∃ read, (Json.Number.single value).ReadsAs read ∧
      Reading.singleOfNumber read = value := by
  cases scaled with
  | zero => exact ⟨_, Json.readsAs_zero false, rfl⟩
  | @moderate negative number digits places few moderate rounds =>
      obtain ⟨read, near, reads⟩ :=
        Json.exists_readsAs moderate few rounds negative
      refine ⟨_, reads, ?_⟩
      have size := moderate.value_bounds.1
      have some_ : 0 < number.significand :=
        lt_of_lt_of_le (by decide) moderate.normal
      have half := near.le_twice some_
      have positive : 0 < read.quotient.1 := by
        apply Nat.pos_of_ne_zero
        intro zero
        rw [← read.quotient_value, zero, Nat.cast_zero, zero_div] at half
        norm_num at size half
        linarith
      rw [← read.quotient_value] at near
      exact Single.ofQuotient_of_roundsTo positive read.quotient_pos near
        negative

end Single.Scaled

namespace Sample

def readBack (sample : Sample) : Option Sample :=
  (Json.parse sample.toJson.render).bind ofJson?

theorem readBack_of {sample : Sample} {written read : Json.Number}
    (value : sample.reading.toJson = .number written)
    (reads : written.ReadsAs read) :
    sample.readBack = some
      { sample with
        reading := .measured (Reading.singleOfNumber read) } := by
  have parsed : Json.parse sample.toJson.render =
      some (.record
        [("device", .text sample.device),
          ("function", .text sample.measurement.name),
          ("value", .number read),
          ("unit", .text sample.unit)]) := by
    apply Json.parse_render
    rw [toJson, value]
    refine .record (by simp) ?_
    exact .cons _ (.text _) (.cons _ (.text _)
      (.cons _ (.number reads) (.cons _ (.text _) .nil)))
  have named := Measurement.ofName?_name sample.measurement
  rw [readBack, parsed, Option.bind_some]
  simp [ofJson?, Json.parts?, Json.lookup, Json.required?, Json.text?,
    Measurement.ofJson?, Json.choice?, named, Reading.ofJson?]

/-- The measurement that an octet is taken for. -/
def taken (value : UInt8) : Single :=
  Single.ofQuotient false value.toNat 1

theorem readBack_measured {sample : Sample} {value : Single}
    (reading : sample.reading = .measured value) (scaled : value.Scaled) :
    sample.readBack = some sample := by
  obtain ⟨read, reads, same⟩ := scaled.exists_readsAs
  have known : sample.reading.toJson = .number (.single value) := by
    rw [reading]
    rfl
  rw [readBack_of known reads, same, ← reading]

theorem readBack_octet {sample : Sample} {value : UInt8}
    (reading : sample.reading = .octet value) :
    sample.readBack = some
      { sample with reading := .measured (taken value) } := by
  have small : value.toNat < 2 ^ 64 :=
    value.toNat_lt.trans (by decide)
  have known : sample.reading.toJson = .number (.natural value.toNat) := by
    rw [reading]
    rfl
  exact readBack_of known (Json.Number.readsAs_natural small)

end Sample

theorem Executor.run_decodes {executor : Executor} {port : TurnPort}
    {now : Nat} {function : MeterFunction} {device : UInt8}
    {register : Register} {reading : Reading}
    (success : (executor.run port now function device register).outcome =
      .ok reading) :
    ∃ reply, function.decode reply = .ok reading := by
  unfold run at success
  split at success
  · obtain ⟨index, read⟩ := execute_reads success
    obtain ⟨reply, _, _, _, decoded⟩ := Request.worth_eq_ok read
    exact ⟨_, decoded⟩
  · cases success

namespace Visited

variable {visited : Visited} {measurement : Measurement} {sample : Sample}

theorem query_ok (answered : (visited.query measurement).2 = .ok sample) :
    ∃ reading reply, sample = visited.device.sample measurement reading ∧
      measurement.target.1.decode reply = .ok reading ∧
      measurement.target.1.Gives visited.device.address reading := by
  unfold query Device.query at answered
  by_cases supported : visited.device.supports measurement = true
  · simp only [supported, if_true] at answered
    simp only [execute] at answered
    cases outcome : (visited.executor.run visited.port visited.now
        measurement.target.1 visited.device.address
        measurement.target.2).outcome with
    | error failure =>
        rw [outcome] at answered
        cases answered
    | ok reading =>
        rw [outcome] at answered
        obtain ⟨reply, decoded⟩ := Executor.run_decodes outcome
        exact ⟨reading, reply, (Except.ok.inj answered).symm, decoded,
          Executor.run_gives _ outcome⟩
  · simp only [supported] at answered
    cases answered

/-- A sample that a query gives is read back as it was, but for the address of
the meter, which is read back as a measurement. -/
theorem sample_read_back
    (answered : (visited.query measurement).2 = .ok sample) :
    (measurement ≠ .deviceId →
      (∃ value, sample.reading = .measured value) ∧
        sample.readBack = some sample) ∧
    (measurement = .deviceId →
      sample.reading = .octet visited.device.address ∧
        sample.readBack = some
          { sample with
            reading := .measured (Sample.taken visited.device.address) }) := by
  obtain ⟨reading, reply, rfl, decoded, gives⟩ := query_ok answered
  constructor
  · intro other
    have measured : ∃ value, reading = .measured value := by
      cases measurement <;> first | exact gives | exact (other rfl).elim
    obtain ⟨value, rfl⟩ := measured
    exact ⟨⟨value, rfl⟩, Sample.readBack_measured rfl
      (MeterFunction.decode_scaled decoded)⟩
  · rintro rfl
    obtain rfl : reading = .octet visited.device.address := gives
    exact ⟨rfl, Sample.readBack_octet rfl⟩

end Visited

namespace SteadyMeter

def device : Device :=
  { address := 1
    name := "cellar"
    measurements := [.totalPower, .deviceId]
    calls := 0 }

def visited : Visited :=
  { device := device
    executor := Executor.fresh .crc RetryPolicy.standard
    port :=
      { name := "line"
        running := true
        turns :=
          [{ delay := some 40
             outcome := .ok [1, 3, 4, 0, 1, 0, 255, 235, 179] }]
        requests := [] }
    now := 0 }

end SteadyMeter

open SteadyMeter

theorem Visited.total_power_read_back :
    ∃ sample, (visited.query .totalPower).2 = .ok sample ∧
      sample.reading.toText = "657.91" ∧ sample.readBack = some sample := by
  have text : (visited.query .totalPower).2.toOption.map
      (fun sample => sample.reading.toText) = some "657.91" := by
    decide +kernel
  cases answered : (visited.query .totalPower).2 with
  | error failure =>
      rw [answered] at text
      cases text
  | ok sample =>
      rw [answered] at text
      have whole := (sample_read_back answered).1 (by decide)
      exact ⟨sample, rfl, Option.some.inj text, whole.2⟩

/-- The address of the meter comes back as the measurement one. -/
theorem Visited.address_read_back_as_measurement :
    ∃ sample, (visited.query .deviceId).2 = .ok sample ∧
      sample.reading = .octet 1 ∧
      ∃ back, sample.readBack = some back ∧ back ≠ sample ∧
        back.reading = .measured ⟨0x3F800000⟩ := by
  have address : (visited.query .deviceId).2.toOption =
      some (SteadyMeter.device.sample .deviceId (.octet 1)) := by
    decide +kernel
  have one : Sample.taken 1 = ⟨0x3F800000⟩ := by decide +kernel
  cases answered : (visited.query .deviceId).2 with
  | error failure =>
      rw [answered] at address
      cases address
  | ok sample =>
      rw [answered] at address
      obtain rfl := Option.some.inj address
      refine ⟨_, rfl, rfl, _, Sample.readBack_octet rfl, ?_, ?_⟩
      · intro same
        cases congrArg Sample.reading same
      · rw [one]

end MeterLine
