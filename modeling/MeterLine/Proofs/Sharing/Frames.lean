import MeterLine.Executor
import MeterLine.Proofs.Check.Stamp

/-!
# Frames on a shared line

A read goes out as a frame of eight octets, and a meter answers with a frame of
nine.  A reply that the meter sent as it should passes both tests of the
executor, so that it is worth what the function makes of it.
-/

namespace MeterLine

/-- The frame by which a register of a meter is read. -/
def Request.frame (device : UInt8) (register : Register) : Bytes :=
  let payload := [device, 3, 0, register.address, 0, 2]
  payload ++ Crc.trailer payload

theorem Request.message_read (device : UInt8) (register : Register) :
    (Request.read device register).message FrameCheck.crc.stamp =
      .ok (Request.frame device register) := by
  have formatted : (Request.read device register).formatted =
      [device, 3, 0, register.address, 0, 2] ++ [0, 0] := rfl
  have unset : Request.unset? (Request.read device register).formatted =
      none := rfl
  have size : (Request.read device register).size = Request.minimumSize := rfl
  have stamped : FrameCheck.crc.stamp
      ([device, 3, 0, register.address, 0, 2] ++ [0, 0]) =
        Request.frame device register :=
    Crc.stamp_padded [device, 3, 0, register.address, 0, 2]
  rw [Request.message_eq_map, Request.checked, size,
    if_neg (Nat.lt_irrefl _), unset, formatted, ← stamped]
  rfl

/-- The frame by which a meter answers a read. -/
def replyFrame (device : UInt8) (data : Bytes) : Bytes :=
  let payload := device :: 3 :: 4 :: data
  payload ++ Crc.trailer payload

theorem length_replyFrame (device : UInt8) {data : Bytes}
    (whole : data.length = 4) : (replyFrame device data).length = 9 := by
  simp [replyFrame, whole, Crc.width]

namespace MeterFunction

theorem decode_replyFrame (function : MeterFunction) (device : UInt8)
    {data : Bytes} (whole : data.length = 4) :
    ∃ reading, function.decode (replyFrame device data) = .ok reading := by
  have long := length_replyFrame device whole
  have field : ∀ {width} (place : Frame.Place width),
      place.offset.toNat + width ≤ 9 →
        ∃ octets, Frame.field (replyFrame device data) place =
          .ok octets := by
    intro width place inside
    unfold Frame.field
    rw [long, if_pos inside]
    exact ⟨_, rfl⟩
  obtain ⟨four, readsFour⟩ := field
    (⟨.ofNat dataOffset, by decide⟩ : Frame.Place 4) (by decide)
  obtain ⟨two, readsTwo⟩ := field
    (⟨.ofNat dataOffset, by decide⟩ : Frame.Place 2) (by decide)
  obtain ⟨one, readsOne⟩ := field
    (⟨0, by decide⟩ : Frame.Place 1) (by decide)
  cases function <;>
    simp [decode, decoding, Frame.signed32, Frame.signed16, Frame.octet,
      Frame.signedField, readsFour, readsTwo, readsOne, Except.map]

end MeterFunction

/-- A reply as it should be is worth what the function makes of it. -/
theorem Request.judge_replyFrame (function : MeterFunction) (device : UInt8)
    (register : Register) {data : Bytes} (whole : data.length = 4) :
    (Request.read device register).judge FrameCheck.crc function
        (replyFrame device data) =
      function.decode (replyFrame device data) := by
  have long := length_replyFrame device whole
  have kept : (replyFrame device data).take function.replySize =
      replyFrame device data := by
    apply List.take_of_length_le
    rw [long]
    exact Nat.le_refl 9
  have intact : FrameCheck.crc.intact (replyFrame device data) = true :=
    Crc.intact_frame (device :: 3 :: 4 :: data)
  have answered : (Request.read device register).isAnsweredBy
      (replyFrame device data) = true := by
    simp only [Request.isAnsweredBy, long]
    simp [replyFrame, Request.read]
  simp only [Request.judge, kept, intact, answered, Bool.true_eq_false,
    if_false]

end MeterLine
