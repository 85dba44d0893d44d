import MeterLine.Port.Wire
import MeterLine.Settings.Port

/-!
# Exchanges

An exchange takes one request through four parts.  Octets left over from
earlier exchanges are read and dropped.  The request is written and flushed
within the response wait.  The data-ready flag and the buffer are sampled once
a tick until data are there or the response wait is over.  Then the buffer is
read once a tick, until it was found empty ten times in a row or the reply has
reached its greatest length.

An exchange is a machine: `step` does the next thing that can be done at once,
or says from when on there is something to do.
-/

namespace MeterLine

namespace Exchange

def chunkSize : Nat := 128

def replyLimit : Nat := 256

/-- Times that an empty buffer is looked at before a reply counts as
complete. -/
def idlePolls : Nat := 10

/-- Where an exchange stands. -/
inductive Phase where
  | draining
  /-- Reading left-over octets until `deadline`. -/
  | discarding (size deadline : Nat)
  | writing (rest : Bytes) (deadline : Nat)
  | flushing (deadline : Nat)
  /-- About to look whether data are there. -/
  | watching (remaining : Int)
  | dozing (remaining : Int) (wake : Nat)
  | polling (reply : Bytes) (idle : Nat)
  | reading (reply : Bytes) (idle size deadline : Nat)
  | resting (reply : Bytes) (idle wake : Nat)
  deriving Repr, DecidableEq, Inhabited

/-- What a step comes to. -/
inductive Step (σ : Type) where
  | next (phase : Phase) (wire : Wire σ)
  /-- There is nothing to do before the instant `wake`. -/
  | wait (phase : Phase) (wire : Wire σ) (wake : Nat)
  | done (outcome : Except Failure Bytes) (wire : Wire σ)

def start : Phase := .draining

/-- The response wait as the count of milliseconds that the watch begins with.
A wait of `2 ^ 63` milliseconds or more leaves no time at all. -/
def watchTime (settings : PortSettings) : Int :=
  if settings.wait < 0x8000000000000000 then (settings.wait : Int)
  else (settings.wait : Int) - 0x10000000000000000

/-- When to ask again for an operation that is limited by a deadline. -/
def wakeBy (deadline : Nat) : Option Nat → Nat
  | some wake => min wake deadline
  | none => deadline

def writeExpiry (settings : PortSettings) : Failure :=
  .timeout (settings.name ++ " - write request") settings.wait

def watchExpiry (settings : PortSettings) : Failure :=
  .timeout (settings.name ++ " - did not receive any data") settings.wait

def drained (settings : PortSettings) (now : Nat) (request : Bytes)
    (wire : Wire σ) : Step σ :=
  .next (.writing request (now + settings.wait)) wire.clear

def drain (settings : PortSettings) (line : Line σ) (now : Nat)
    (request : Bytes) (wire : Wire σ) : Step σ :=
  let answer := line.available now wire.line
  let wire := wire.take answer
  match answer.value with
  | .error failure => .done (.error failure) wire
  | .ok 0 => drained settings now request wire
  | .ok count =>
      .next (.discarding (min count chunkSize) (now + settings.tick)) wire

def discard (settings : PortSettings) (line : Line σ) (now : Nat)
    (request : Bytes) (size deadline : Nat) (wire : Wire σ) : Step σ :=
  let answer := line.read now size wire.line
  let wire := wire.take answer
  match answer.value with
  | .ready (.error fault) => .done (.error fault.toFailure) wire
  | .ready (.ok octets) =>
      if octets.isEmpty then drained settings now request wire
      else .next .draining wire
  | .pending wake =>
      if deadline ≤ now then drained settings now request wire
      else .wait (.discarding size deadline) wire (wakeBy deadline wake)

def expireWrite (settings : PortSettings) (wire : Wire σ) : Step σ :=
  .done (.error (writeExpiry settings)) wire.expired

def write (settings : PortSettings) (line : Line σ) (now : Nat)
    (rest : Bytes) (deadline : Nat) (wire : Wire σ) : Step σ :=
  if rest.isEmpty then .next (.flushing deadline) wire
  else
    let answer := line.write now rest wire.line
    let wire := wire.take answer
    match answer.value with
    | .ready (.error fault) => .done (.error fault.toFailure) wire
    | .ready (.ok 0) =>
        .done (.error (StreamFault.ofKind .writeZero).toFailure) wire
    | .ready (.ok count) => .next (.writing (rest.drop count) deadline) wire
    | .pending wake =>
        if deadline ≤ now then expireWrite settings wire
        else .wait (.writing rest deadline) wire (wakeBy deadline wake)

def flush (settings : PortSettings) (line : Line σ) (now : Nat)
    (request : Bytes) (deadline : Nat) (wire : Wire σ) : Step σ :=
  let answer := line.flush now wire.line
  let wire := wire.take answer
  match answer.value with
  | .ready (.error fault) => .done (.error fault.toFailure) wire
  | .ready (.ok ()) =>
      .next (.watching (watchTime settings)) (wire.sent request.length)
  | .pending wake =>
      if deadline ≤ now then expireWrite settings wire
      else .wait (.flushing deadline) wire (wakeBy deadline wake)

/-- Look whether data are there.  When no time remains the flag alone is
looked at. -/
def watch (settings : PortSettings) (line : Line σ) (now : Nat)
    (remaining : Int) (wire : Wire σ) : Step σ :=
  if wire.ready then .next (.polling [] idlePolls) wire
  else if remaining < 0 then
    .done (.error (watchExpiry settings)) wire.expired
  else
    let answer := line.available now wire.line
    let wire := wire.take answer
    match answer.value with
    | .error failure => .done (.error failure) wire
    | .ok 0 => .next (.dozing remaining (now + settings.tick)) wire
    | .ok _ => .next (.polling [] idlePolls) { wire with ready := true }

def finish (reply : Bytes) (wire : Wire σ) : Step σ :=
  .done (.ok reply) (wire.received reply.length)

def poll (settings : PortSettings) (line : Line σ) (now : Nat)
    (reply : Bytes) (idle : Nat) (wire : Wire σ) : Step σ :=
  match idle with
  | 0 => finish reply wire
  | idle + 1 =>
      let room := replyLimit - reply.length
      if room = 0 then finish reply wire
      else
        let answer := line.available now wire.line
        let wire := wire.take answer
        match answer.value with
        | .error failure => .done (.error failure) wire
        | .ok 0 => .next (.resting reply idle (now + settings.tick)) wire
        | .ok count =>
            .next
              (.reading reply (idle + 1) (min (min count chunkSize) room)
                (now + settings.tick)) wire

def read (settings : PortSettings) (line : Line σ) (now : Nat)
    (reply : Bytes) (idle size deadline : Nat) (wire : Wire σ) : Step σ :=
  let answer := line.read now size wire.line
  let wire := wire.take answer
  match answer.value with
  | .ready (.error fault) => .done (.error fault.toFailure) wire
  | .ready (.ok octets) =>
      if octets.isEmpty then
        .next (.resting reply (idle - 1) (now + settings.tick)) wire
      else
        .next
          (.resting (reply ++ octets) idlePolls (now + settings.tick)) wire
  | .pending wake =>
      if deadline ≤ now then
        .next (.resting reply (idle - 1) (now + settings.tick)) wire
      else .wait (.reading reply idle size deadline) wire (wakeBy deadline wake)

def step (settings : PortSettings) (line : Line σ) (now : Nat)
    (request : Bytes) (phase : Phase) (wire : Wire σ) : Step σ :=
  match phase with
  | .draining => drain settings line now request wire
  | .discarding size deadline =>
      discard settings line now request size deadline wire
  | .writing rest deadline => write settings line now rest deadline wire
  | .flushing deadline => flush settings line now request deadline wire
  | .watching remaining => watch settings line now remaining wire
  | .dozing remaining wake =>
      if wake ≤ now then
        .next (.watching (remaining - (settings.tick : Int))) wire
      else .wait (.dozing remaining wake) wire wake
  | .polling reply idle => poll settings line now reply idle wire
  | .reading reply idle size deadline =>
      read settings line now reply idle size deadline wire
  | .resting reply idle wake =>
      if wake ≤ now then .next (.polling reply idle) wire
      else .wait (.resting reply idle wake) wire wake

end Exchange

end MeterLine
