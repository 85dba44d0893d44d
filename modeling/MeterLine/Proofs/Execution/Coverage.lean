import MeterLine.Proofs.Execution.Attempts

/-!
# Octets under the check

A function makes its reading of one field of the kept reply.  The field has to
lie inside the kept reply; nothing compares it with the two octets of the check
at the end.  A reply that is long enough is read from octets under its check,
and a shorter one may be read from the check itself.
-/

namespace MeterLine

namespace MeterFunction

namespace Decoding

def offset : Decoding → Nat
  | .signed32 _ => dataOffset
  | .signed16 _ => dataOffset
  | .address => 0

def width : Decoding → Nat
  | .signed32 _ => 4
  | .signed16 _ => 2
  | .address => 1

def interpret : Decoding → Bytes → Reading
  | .signed32 scale, octets => scaled scale (signedOfNat 4 octets.toNatBig)
  | .signed16 scale, octets => scaled scale (signedOfNat 2 octets.toNatBig)
  | .address, octets => .octet (octets.headD 0)

def stop (decoding : Decoding) : Nat :=
  decoding.offset + decoding.width

def octets (decoding : Decoding) (reply : Bytes) : Bytes :=
  (reply.drop decoding.offset).take decoding.width

theorem width_pos (decoding : Decoding) : 0 < decoding.width := by
  cases decoding <;> simp [width]

theorem stop_add_check_le (decoding : Decoding) :
    decoding.stop + Crc.width ≤ 9 := by
  cases decoding <;> simp [stop, offset, width, dataOffset, Crc.width]

theorem octets_take {decoding : Decoding} {count : Nat}
    (before : decoding.stop ≤ count) (reply : Bytes) :
    decoding.octets (reply.take count) = decoding.octets reply := by
  unfold stop at before
  have inside : decoding.width ≤ count - decoding.offset := by omega
  rw [octets, octets, List.drop_take, List.take_take,
    Nat.min_eq_left inside]

end Decoding

theorem Decoding.stop_fits (decoding : Decoding) :
    (UInt64.ofNat decoding.offset).toNat + decoding.width < UInt64.size := by
  have before := decoding.stop_add_check_le
  have size : UInt64.size = 2 ^ 64 := rfl
  unfold stop Crc.width at before
  rw [UInt64.toNat_ofNat_of_lt' (by omega)]
  omega

def Decoding.place (decoding : Decoding) : Frame.Place decoding.width :=
  { offset := .ofNat decoding.offset
    fits := decoding.stop_fits }

theorem Decoding.offset_place (decoding : Decoding) :
    decoding.place.offset.toNat = decoding.offset := by
  cases decoding <;> rfl

theorem decode_eq_field (function : MeterFunction) (reply : Bytes) :
    function.decode reply =
      (Frame.field reply function.decoding.place).map
        function.decoding.interpret := by
  have composed : ∀ {α : Type} (field : Except Failure Bytes)
      (read : Bytes → α) (make : α → Reading),
      (field.map read).map make =
        field.map fun octets => make (read octets) := by
    intro α field read make
    cases field with
    | error failure => rfl
    | ok octets => rfl
  unfold decode Frame.signed32 Frame.signed16 Frame.octet Frame.signedField
  cases function.decoding with
  | signed32 scale => exact composed _ _ _
  | signed16 scale => exact composed _ _ _
  | address => exact composed _ _ _

/-- Every octet that a function reads of a reply lies under its check. -/
def Covered (function : MeterFunction) (reply : Bytes) : Prop :=
  ∀ place, function.decoding.offset ≤ place → place < function.decoding.stop →
    place < (Crc.payload reply).length

theorem covered_iff {function : MeterFunction} {reply : Bytes} :
    function.Covered reply ↔
      function.decoding.stop + Crc.width ≤ reply.length := by
  have room := function.decoding.width_pos
  have under : (Crc.payload reply).length = reply.length - Crc.width := by
    rw [Crc.payload, List.length_take, Nat.min_eq_left (Nat.sub_le _ _)]
  unfold Covered
  rw [under]
  constructor
  · intro covered
    have last := covered (function.decoding.stop - 1)
      (by unfold Decoding.stop; omega) (by unfold Decoding.stop; omega)
    unfold Decoding.stop at last ⊢
    omega
  · intro long place _ before
    omega

theorem decode_eq_ok_iff {function : MeterFunction} {reply : Bytes}
    {reading : Reading} :
    function.decode reply = .ok reading ↔
      function.decoding.stop ≤ reply.length ∧
        function.decoding.interpret (function.decoding.octets reply) =
          reading := by
  rw [decode_eq_field, Frame.field, Decoding.offset_place, Decoding.stop]
  by_cases inside :
      function.decoding.offset + function.decoding.width ≤ reply.length
  · rw [if_pos inside]
    simp [Except.map, Decoding.octets, inside]
  · rw [if_neg inside]
    simp [Except.map, inside]

/-- What a function makes of a reply it makes of any beginning that still has
the field. -/
theorem decode_take {function : MeterFunction} {reply : Bytes}
    {reading : Reading} (success : function.decode reply = .ok reading)
    (count : Nat) :
    function.decode (reply.take count) = .ok reading ↔
      function.decoding.stop ≤ count := by
  obtain ⟨inside, made⟩ := decode_eq_ok_iff.mp success
  rw [decode_eq_ok_iff, List.length_take]
  constructor
  · rintro ⟨shorter, _⟩
    exact Nat.le_trans shorter (Nat.min_le_left _ _)
  · intro before
    rw [Decoding.octets_take before]
    exact ⟨Nat.le_min.mpr ⟨before, inside⟩, made⟩

end MeterFunction

/-- Every reading is decoded from a kept reply that is intact and comes from
the meter that was asked.  All its octets are covered by the check if the reply
has room for the field and the check behind it, and otherwise the octets under
the check do not give the reading. -/
theorem Executor.reading_covered_iff {executor : Executor} {port : TurnPort}
    {now : Nat} {function : MeterFunction} {request : Request}
    {reading : Reading} (crc : executor.check = .crc)
    (success : (executor.execute port now function request).outcome =
      .ok reading) :
    ∃ index reply, (port.turn index).outcome = .ok reply ∧
      Crc.intact (reply.take 9) = true ∧
      (reply.take 9)[0]? = some request.device ∧
      function.decode (reply.take 9) = .ok reading ∧
      (function.Covered (reply.take 9) ↔
        function.decoding.stop + Crc.width ≤ reply.length) ∧
      (function.Covered (reply.take 9) ↔
        function.decode (Crc.payload (reply.take 9)) = .ok reading) := by
  obtain ⟨index, worth⟩ := execute_reads success
  obtain ⟨reply, outcome, intact, answered, decoded⟩ :=
    Request.worth_eq_ok worth
  rw [crc] at intact
  have short := function.decoding.stop_add_check_le
  refine ⟨index, reply, outcome, intact, answered, decoded, ?_, ?_⟩
  · rw [MeterFunction.covered_iff, List.length_take]
    omega
  · rw [MeterFunction.covered_iff, Crc.payload,
      MeterFunction.decode_take decoded]
    have room := Crc.width_le_of_intact intact
    omega

namespace ShortReplies

def port (reply : Bytes) : TurnPort :=
  { name := "short"
    running := true
    turns :=
      [{ delay := some 40
         outcome := .ok reply }]
    requests := [] }

def executor : Executor :=
  Executor.fresh .crc RetryPolicy.standard

def whole : Bytes :=
  [1, 3, 4, 0, 1, 0, 255, 235, 179]

/-- A refusal of the request, with a correct check. -/
def refusal : Bytes :=
  [1, 131, 2, 192, 241]

end ShortReplies

open ShortReplies

theorem Executor.power_read_under_check :
    ∃ reading, (executor.execute (port whole) 0 .readCurrentPower
        (Request.read 1 .currentPower)).outcome = .ok reading ∧
      reading.toText = "65791" ∧
      MeterFunction.readCurrentPower.Covered whole := by
  have text : (executor.execute (port whole) 0 .readCurrentPower
      (Request.read 1 .currentPower)).outcome.toOption.map Reading.toText =
        some "65791" := by
    decide +kernel
  cases success : (executor.execute (port whole) 0 .readCurrentPower
      (Request.read 1 .currentPower)).outcome with
  | error failure =>
      rw [success] at text
      cases text
  | ok reading =>
      rw [success] at text
      obtain ⟨index, reply, outcome, _, _, _, long, _⟩ :=
        reading_covered_iff rfl success
      refine ⟨reading, rfl, Option.some.inj text, ?_⟩
      cases index with
      | zero =>
          cases outcome
          exact long.mpr (by decide)
      | succ index => cases outcome

/-- The voltage of a meter that refused to tell it: its two octets are the
check of the refusal. -/
theorem Executor.voltage_read_from_check :
    (executor.execute (port refusal) 0 .readCurrentVoltage
        (Request.read 1 .voltagePhase1)).outcome.toOption.map Reading.toText =
      some "-1614.3" ∧
    ¬MeterFunction.readCurrentVoltage.Covered refusal ∧
    refusal.drop dataOffset = Crc.trailer [1, 131, 2] := by
  refine ⟨by decide +kernel, ?_, by decide +kernel⟩
  rw [MeterFunction.covered_iff]
  decide

end MeterLine
