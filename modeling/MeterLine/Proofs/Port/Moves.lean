import MeterLine.Proofs.Port.Supervisor

/-!
# Moves of an exchange

Everything that a step of an exchange may come to is listed once, phase by
phase, together with the answer of the line that it depends on.  What an
exchange keeps to is then shown by cases on its moves.
-/

namespace MeterLine

namespace Exchange

variable {settings : PortSettings} {line : Line σ} {now : Nat}
  {request : Bytes} {wire : Wire σ}

/-- Where a step goes on, unless the exchange is done. -/
def Step.goesOn? : Step σ → Option (Phase × Wire σ)
  | .next phase wire => some (phase, wire)
  | .wait phase wire _ => some (phase, wire)
  | .done _ _ => none

/-- A read that brings nothing: it is answered with no octets, or not by its
deadline. -/
def Fruitless (line : Line σ) (now size deadline : Nat) (wire : Wire σ) :
    Prop :=
  (line.read now size wire.line).value = .ready (.ok []) ∨
    (deadline ≤ now ∧
      ∃ wake, (line.read now size wire.line).value = .pending wake)

/-- What a step of an exchange may come to. -/
inductive Moves (settings : PortSettings) (line : Line σ) (now : Nat)
    (request : Bytes) (wire : Wire σ) : Phase → Step σ → Prop where
  | drainFails (failure : Failure) :
      (line.available now wire.line).value = .error failure →
      Moves settings line now request wire .draining
        (.done (.error failure) (wire.take (line.available now wire.line)))
  | drainEnds :
      (line.available now wire.line).value = .ok 0 →
      Moves settings line now request wire .draining
        (.next (.writing request (now + settings.wait))
          (wire.take (line.available now wire.line)).clear)
  | drainFinds (count : Nat) :
      (line.available now wire.line).value = .ok (count + 1) →
      Moves settings line now request wire .draining
        (.next (.discarding (min (count + 1) chunkSize)
          (now + settings.tick)) (wire.take (line.available now wire.line)))
  | discardFails (size deadline : Nat) (fault : StreamFault) :
      (line.read now size wire.line).value = .ready (.error fault) →
      Moves settings line now request wire (.discarding size deadline)
        (.done (.error fault.toFailure)
          (wire.take (line.read now size wire.line)))
  | discardGivesUp (size deadline : Nat) :
      Fruitless line now size deadline wire →
      Moves settings line now request wire (.discarding size deadline)
        (.next (.writing request (now + settings.wait))
          (wire.take (line.read now size wire.line)).clear)
  | discards (size deadline : Nat) (octets : Bytes) :
      octets ≠ [] →
      (line.read now size wire.line).value = .ready (.ok octets) →
      Moves settings line now request wire (.discarding size deadline)
        (.next .draining (wire.take (line.read now size wire.line)))
  | discardWaits (size deadline : Nat) (wake : Option Nat) :
      now < deadline →
      (line.read now size wire.line).value = .pending wake →
      Moves settings line now request wire (.discarding size deadline)
        (.wait (.discarding size deadline)
          (wire.take (line.read now size wire.line)) (wakeBy deadline wake))
  | written (deadline : Nat) :
      Moves settings line now request wire (.writing [] deadline)
        (.next (.flushing deadline) wire)
  | writeFails (rest : Bytes) (deadline : Nat) (fault : StreamFault) :
      rest ≠ [] →
      (line.write now rest wire.line).value = .ready (.error fault) →
      Moves settings line now request wire (.writing rest deadline)
        (.done (.error fault.toFailure)
          (wire.take (line.write now rest wire.line)))
  | writesNothing (rest : Bytes) (deadline : Nat) :
      rest ≠ [] →
      (line.write now rest wire.line).value = .ready (.ok 0) →
      Moves settings line now request wire (.writing rest deadline)
        (.done (.error (StreamFault.ofKind .writeZero).toFailure)
          (wire.take (line.write now rest wire.line)))
  | writes (rest : Bytes) (deadline count : Nat) :
      rest ≠ [] →
      (line.write now rest wire.line).value = .ready (.ok (count + 1)) →
      Moves settings line now request wire (.writing rest deadline)
        (.next (.writing (rest.drop (count + 1)) deadline)
          (wire.take (line.write now rest wire.line)))
  | writeExpires (rest : Bytes) (deadline : Nat) (wake : Option Nat) :
      rest ≠ [] → deadline ≤ now →
      (line.write now rest wire.line).value = .pending wake →
      Moves settings line now request wire (.writing rest deadline)
        (.done (.error (writeExpiry settings))
          (wire.take (line.write now rest wire.line)).expired)
  | writeWaits (rest : Bytes) (deadline : Nat) (wake : Option Nat) :
      rest ≠ [] → now < deadline →
      (line.write now rest wire.line).value = .pending wake →
      Moves settings line now request wire (.writing rest deadline)
        (.wait (.writing rest deadline)
          (wire.take (line.write now rest wire.line)) (wakeBy deadline wake))
  | flushFails (deadline : Nat) (fault : StreamFault) :
      (line.flush now wire.line).value = .ready (.error fault) →
      Moves settings line now request wire (.flushing deadline)
        (.done (.error fault.toFailure)
          (wire.take (line.flush now wire.line)))
  | flushes (deadline : Nat) :
      (line.flush now wire.line).value = .ready (.ok ()) →
      Moves settings line now request wire (.flushing deadline)
        (.next (.watching (watchTime settings))
          ((wire.take (line.flush now wire.line)).sent request.length))
  | flushExpires (deadline : Nat) (wake : Option Nat) :
      deadline ≤ now →
      (line.flush now wire.line).value = .pending wake →
      Moves settings line now request wire (.flushing deadline)
        (.done (.error (writeExpiry settings))
          (wire.take (line.flush now wire.line)).expired)
  | flushWaits (deadline : Nat) (wake : Option Nat) :
      now < deadline →
      (line.flush now wire.line).value = .pending wake →
      Moves settings line now request wire (.flushing deadline)
        (.wait (.flushing deadline) (wire.take (line.flush now wire.line))
          (wakeBy deadline wake))
  | hears (remaining : Int) :
      wire.ready = true →
      Moves settings line now request wire (.watching remaining)
        (.next (.polling [] idlePolls) wire)
  | watchExpires (remaining : Int) :
      wire.ready = false → remaining < 0 →
      Moves settings line now request wire (.watching remaining)
        (.done (.error (watchExpiry settings)) wire.expired)
  | watchFails (remaining : Int) (failure : Failure) :
      wire.ready = false → 0 ≤ remaining →
      (line.available now wire.line).value = .error failure →
      Moves settings line now request wire (.watching remaining)
        (.done (.error failure) (wire.take (line.available now wire.line)))
  | watches (remaining : Int) :
      wire.ready = false → 0 ≤ remaining →
      (line.available now wire.line).value = .ok 0 →
      Moves settings line now request wire (.watching remaining)
        (.next (.dozing remaining (now + settings.tick))
          (wire.take (line.available now wire.line)))
  | finds (remaining : Int) (count : Nat) :
      wire.ready = false → 0 ≤ remaining →
      (line.available now wire.line).value = .ok (count + 1) →
      Moves settings line now request wire (.watching remaining)
        (.next (.polling [] idlePolls)
          { wire.take (line.available now wire.line) with ready := true })
  | wakes (remaining : Int) (wake : Nat) :
      wake ≤ now →
      Moves settings line now request wire (.dozing remaining wake)
        (.next (.watching (remaining - (settings.tick : Int))) wire)
  | dozes (remaining : Int) (wake : Nat) :
      now < wake →
      Moves settings line now request wire (.dozing remaining wake)
        (.wait (.dozing remaining wake) wire wake)
  | finishes (reply : Bytes) (idle : Nat) :
      idle = 0 ∨ replyLimit ≤ reply.length →
      Moves settings line now request wire (.polling reply idle)
        (.done (.ok reply) (wire.received reply.length))
  | pollFails (reply : Bytes) (idle : Nat) (failure : Failure) :
      reply.length < replyLimit →
      (line.available now wire.line).value = .error failure →
      Moves settings line now request wire (.polling reply (idle + 1))
        (.done (.error failure) (wire.take (line.available now wire.line)))
  | pollsNothing (reply : Bytes) (idle : Nat) :
      reply.length < replyLimit →
      (line.available now wire.line).value = .ok 0 →
      Moves settings line now request wire (.polling reply (idle + 1))
        (.next (.resting reply idle (now + settings.tick))
          (wire.take (line.available now wire.line)))
  | polls (reply : Bytes) (idle count : Nat) :
      reply.length < replyLimit →
      (line.available now wire.line).value = .ok (count + 1) →
      Moves settings line now request wire (.polling reply (idle + 1))
        (.next
          (.reading reply (idle + 1)
            (min (min (count + 1) chunkSize) (replyLimit - reply.length))
            (now + settings.tick))
          (wire.take (line.available now wire.line)))
  | readFails (reply : Bytes) (idle size deadline : Nat)
      (fault : StreamFault) :
      (line.read now size wire.line).value = .ready (.error fault) →
      Moves settings line now request wire (.reading reply idle size deadline)
        (.done (.error fault.toFailure)
          (wire.take (line.read now size wire.line)))
  | readsNothing (reply : Bytes) (idle size deadline : Nat) :
      Fruitless line now size deadline wire →
      Moves settings line now request wire (.reading reply idle size deadline)
        (.next (.resting reply (idle - 1) (now + settings.tick))
          (wire.take (line.read now size wire.line)))
  | reads (reply : Bytes) (idle size deadline : Nat) (octets : Bytes) :
      octets ≠ [] →
      (line.read now size wire.line).value = .ready (.ok octets) →
      Moves settings line now request wire (.reading reply idle size deadline)
        (.next (.resting (reply ++ octets) idlePolls (now + settings.tick))
          (wire.take (line.read now size wire.line)))
  | readWaits (reply : Bytes) (idle size deadline : Nat)
      (wake : Option Nat) :
      now < deadline →
      (line.read now size wire.line).value = .pending wake →
      Moves settings line now request wire (.reading reply idle size deadline)
        (.wait (.reading reply idle size deadline)
          (wire.take (line.read now size wire.line)) (wakeBy deadline wake))
  | resumes (reply : Bytes) (idle wake : Nat) :
      wake ≤ now →
      Moves settings line now request wire (.resting reply idle wake)
        (.next (.polling reply idle) wire)
  | rests (reply : Bytes) (idle wake : Nat) :
      now < wake →
      Moves settings line now request wire (.resting reply idle wake)
        (.wait (.resting reply idle wake) wire wake)

private theorem drain_moves :
    Moves settings line now request wire .draining
      (drain settings line now request wire) := by
  unfold drain
  cases value : (line.available now wire.line).value with
  | error failure =>
      simp only [value]
      exact .drainFails failure value
  | ok count =>
      cases count with
      | zero =>
          simp only [value]
          exact .drainEnds value
      | succ count =>
          simp only [value]
          exact .drainFinds count value

private theorem discard_moves (size deadline : Nat) :
    Moves settings line now request wire (.discarding size deadline)
      (discard settings line now request size deadline wire) := by
  unfold discard
  cases value : (line.read now size wire.line).value with
  | ready result =>
      cases result with
      | error fault =>
          simp only [value]
          exact .discardFails size deadline fault value
      | ok octets =>
          cases octets with
          | nil =>
              simp only [value, List.isEmpty_nil, if_true]
              exact .discardGivesUp size deadline (Or.inl value)
          | cons first others =>
              simp only [value, List.isEmpty_cons, Bool.false_eq_true,
                if_false]
              exact .discards size deadline _ (List.cons_ne_nil _ _) value
  | pending wake =>
      simp only [value]
      split
      case isTrue late =>
          exact .discardGivesUp size deadline (Or.inr ⟨late, wake, value⟩)
      case isFalse early =>
          exact .discardWaits size deadline wake (by omega) value

private theorem write_moves (rest : Bytes) (deadline : Nat) :
    Moves settings line now request wire (.writing rest deadline)
      (write settings line now rest deadline wire) := by
  unfold write
  split
  case isTrue empty =>
      obtain rfl := List.isEmpty_iff.mp empty
      exact .written deadline
  case isFalse more =>
      have more : rest ≠ [] := by simpa using more
      cases value : (line.write now rest wire.line).value with
      | ready result =>
          cases result with
          | error fault =>
              simp only [value]
              exact .writeFails rest deadline fault more value
          | ok count =>
              cases count with
              | zero =>
                  simp only [value]
                  exact .writesNothing rest deadline more value
              | succ count =>
                  simp only [value]
                  exact .writes rest deadline count more value
      | pending wake =>
          simp only [value]
          split
          case isTrue late =>
              exact .writeExpires rest deadline wake more late value
          case isFalse early =>
              exact .writeWaits rest deadline wake more (by omega) value

private theorem flush_moves (deadline : Nat) :
    Moves settings line now request wire (.flushing deadline)
      (flush settings line now request deadline wire) := by
  unfold flush
  cases value : (line.flush now wire.line).value with
  | ready result =>
      cases result with
      | error fault =>
          simp only [value]
          exact .flushFails deadline fault value
      | ok =>
          simp only [value]
          exact .flushes deadline value
  | pending wake =>
      simp only [value]
      split
      case isTrue late => exact .flushExpires deadline wake late value
      case isFalse early =>
          exact .flushWaits deadline wake (by omega) value

private theorem watch_moves (remaining : Int) :
    Moves settings line now request wire (.watching remaining)
      (watch settings line now remaining wire) := by
  unfold watch
  split
  case isTrue ready => exact .hears remaining ready
  case isFalse silent =>
      have silent : wire.ready = false := by simpa using silent
      split
      case isTrue late => exact .watchExpires remaining silent late
      case isFalse still =>
          have still : 0 ≤ remaining := by omega
          cases value : (line.available now wire.line).value with
          | error failure =>
              simp only [value]
              exact .watchFails remaining failure silent still value
          | ok count =>
              cases count with
              | zero =>
                  simp only [value]
                  exact .watches remaining silent still value
              | succ count =>
                  simp only [value]
                  exact .finds remaining count silent still value

private theorem poll_moves (reply : Bytes) (idle : Nat) :
    Moves settings line now request wire (.polling reply idle)
      (poll settings line now reply idle wire) := by
  cases idle with
  | zero => exact .finishes reply 0 (Or.inl rfl)
  | succ idle =>
      unfold poll
      simp only []
      split
      case isTrue full =>
          exact .finishes reply (idle + 1) (Or.inr (by omega))
      case isFalse room =>
          have room : reply.length < replyLimit := by omega
          cases value : (line.available now wire.line).value with
          | error failure =>
              simp only
              exact .pollFails reply idle failure room value
          | ok count =>
              cases count with
              | zero =>
                  simp only
                  exact .pollsNothing reply idle room value
              | succ count =>
                  simp only
                  exact .polls reply idle count room value

private theorem read_moves (reply : Bytes) (idle size deadline : Nat) :
    Moves settings line now request wire (.reading reply idle size deadline)
      (read settings line now reply idle size deadline wire) := by
  unfold read
  cases value : (line.read now size wire.line).value with
  | ready result =>
      cases result with
      | error fault =>
          simp only [value]
          exact .readFails reply idle size deadline fault value
      | ok octets =>
          cases octets with
          | nil =>
              simp only [value, List.isEmpty_nil, if_true]
              exact .readsNothing reply idle size deadline (Or.inl value)
          | cons first others =>
              simp only [value, List.isEmpty_cons, Bool.false_eq_true,
                if_false]
              exact .reads reply idle size deadline _
                (List.cons_ne_nil _ _) value
  | pending wake =>
      simp only [value]
      split
      case isTrue late =>
          exact .readsNothing reply idle size deadline
            (Or.inr ⟨late, wake, value⟩)
      case isFalse early =>
          exact .readWaits reply idle size deadline wake (by omega) value

/-- A step of an exchange is one of its moves. -/
theorem step_moves (settings : PortSettings) (line : Line σ) (now : Nat)
    (request : Bytes) (phase : Phase) (wire : Wire σ) :
    Moves settings line now request wire phase
      (step settings line now request phase wire) := by
  cases phase with
  | draining => exact drain_moves
  | discarding size deadline => exact discard_moves size deadline
  | writing rest deadline => exact write_moves rest deadline
  | flushing deadline => exact flush_moves deadline
  | watching remaining => exact watch_moves remaining
  | dozing remaining wake =>
      unfold step
      simp only []
      split
      case isTrue due => exact .wakes remaining wake due
      case isFalse early => exact .dozes remaining wake (by omega)
  | polling reply idle => exact poll_moves reply idle
  | reading reply idle size deadline =>
      exact read_moves reply idle size deadline
  | resting reply idle wake =>
      unfold step
      simp only []
      split
      case isTrue due => exact .resumes reply idle wake due
      case isFalse early => exact .rests reply idle wake (by omega)

end Exchange

end MeterLine
