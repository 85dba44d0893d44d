import MeterLine.Proofs.Port.Waiters

/-!
# Bearings of disposed ports

Disposal and external cancellation both end a port for good, and the supervisor
looks at them in a different order at different places.  What a disposed port
still comes to is told by a small part of it, its bearing: in which state it
ends, and how often its line was cleaned up by then.  Only cancellation changes
that, and only as long as the supervisor has not looked.
-/

namespace MeterLine

namespace Wire

def cleanings (wire : Wire σ) : Nat :=
  wire.handleActs.count .cleaned

theorem cleanings_of_acts {wire other : Wire σ}
    (same : other.acts = wire.acts) : other.cleanings = wire.cleanings := by
  rw [cleanings, cleanings, handleActs_of_acts same]

theorem cleanings_append {wire other : Wire σ} {acts : List Act}
    (more : other.handleActs = wire.handleActs ++ acts) :
    other.cleanings = wire.cleanings + acts.count .cleaned := by
  rw [cleanings, more, List.count_append, cleanings]

end Wire

/-- The state of a port behind a session that ends for a cause. -/
def SessionEnd.endState (cancelled : Bool) : SessionEnd → PortState
  | .cancelled => .closed
  | .disposed => .disposed
  | .hardwareFault => if cancelled then .closed else .disposed

def SessionEnd.cleanings : SessionEnd → Nat
  | .disposed => 0
  | _ => 1

theorem count_cleaned_tearDownActs (cause : SessionEnd) :
    (Attempt.tearDownActs cause).count .cleaned = cause.cleanings := by
  cases cause <;> decide

theorem count_cleaned_openActs (fault : OpenFault) :
    (Attempt.openActs fault).count .cleaned = 0 := by
  rcases fault with _ | ⟨_ | _ | _ | _, _⟩ <;> simp [Attempt.openActs]

theorem count_cleaned_resumeActs (fault : OpenFault) :
    (Attempt.resumeActs fault).count .cleaned = 0 := by
  rcases fault with _ | ⟨_ | _ | _ | _, _⟩ <;> simp [Attempt.resumeActs]

namespace Port

/-- The line is open for a session that was not told to end yet. -/
def Phase.atHand : Phase → Bool
  | .opened none => true
  | .serving => true
  | _ => false

/-- The supervisor has yet to look whether the port was cancelled. -/
def Phase.heedsCancel : Phase → Bool
  | .opening => true
  | .opened _ => true
  | .serving => true
  | .closing .hardwareFault _ => true
  | .aborting .hardwareFault => true
  | .pausing _ => true
  | _ => false

def Phase.faulted : Phase → Bool
  | .closing .hardwareFault _ => true
  | .aborting .hardwareFault => true
  | _ => false

/-- How far a disposed port is from its end. -/
def Phase.rank : Phase → Nat
  | .opening => 4
  | .starting => 3
  | .opened _ => 3
  | .serving => 3
  | .pausing _ => 3
  | .closing _ _ => 2
  | .aborting _ => 1
  | .finished => 0

theorem Phase.rank_of_ends {phase : Phase} {cause : SessionEnd}
    (ends : phase.Ends cause) : 0 < phase.rank ∧ phase.rank ≤ 2 := by
  cases ends <;> simp [Phase.rank]

theorem Phase.rank_of_atHand {phase : Phase} (atHand : phase.atHand = true) :
    phase.rank = 3 := by
  cases phase <;> first | rfl | cases atHand

theorem Phase.rank_of_faulted {phase : Phase}
    (faulted : phase.faulted = true) : phase.rank ≤ 2 := by
  cases phase <;> first | cases faulted | simp [rank]

/-- What decides on the end of a disposed port. -/
structure Bearing where
  phase : Phase
  state : PortState
  cancelled : Bool
  cleanings : Nat

def bearing (port : Port σ) : Bearing :=
  { phase := port.phase
    state := port.state
    cancelled := port.cancelSignal
    cleanings := port.wire.cleanings }

namespace Bearing

def cause (bearing : Bearing) : SessionEnd :=
  if bearing.cancelled then .cancelled else .disposed

def finish (bearing : Bearing) (state : PortState) : Bearing :=
  { bearing with
    phase := .finished
    state := state }

def tearDown (bearing : Bearing) (cause : SessionEnd) : Bearing :=
  { bearing.finish (cause.endState bearing.cancelled) with
    cleanings := bearing.cleanings + cause.cleanings }

/-- The state in which a port ends that is not cancelled from now on. -/
def endState (bearing : Bearing) : PortState :=
  match bearing.phase with
  | .starting => .disposed
  | .closing cause _ => cause.endState bearing.cancelled
  | .aborting cause => cause.endState bearing.cancelled
  | .finished => bearing.state
  | _ => bearing.cause.endState bearing.cancelled

/-- A session is at hand that will be ended because of cancellation. -/
def overtaken (bearing : Bearing) : Bool :=
  bearing.phase.atHand && bearing.cancelled

/-- How often the line is cleaned up by the end of a port that is not cancelled
from now on. -/
def cleaningsAtEnd (bearing : Bearing) : Nat :=
  match bearing.phase with
  | .closing cause _ => bearing.cleanings + cause.cleanings
  | .aborting cause => bearing.cleanings + cause.cleanings
  | _ => bearing.cleanings + bearing.overtaken.toNat

inductive Supervised (now : Nat) (bearing : Bearing) : Bearing → Prop where
  | waits :
      bearing.phase = .opening ∨ bearing.phase = .finished ∨
        (∃ cause, bearing.phase = .aborting cause) →
      Supervised now bearing bearing
  | awaits (cause : SessionEnd) (deadline : Nat) :
      bearing.phase = .closing cause deadline → now < deadline →
      Supervised now bearing bearing
  | begins :
      bearing.phase = .starting →
      Supervised now bearing (bearing.finish .disposed)
  | givesUp :
      (∃ trouble, bearing.phase = .opened (some trouble)) ∨
        (∃ deadline, bearing.phase = .pausing deadline) →
      Supervised now bearing
        (bearing.finish (bearing.cause.endState bearing.cancelled))
  | cuts (state : PortState) (phase : Phase) :
      bearing.phase.atHand = true → phase.Ends bearing.cause →
      Supervised now bearing
        { bearing with
          phase := phase
          state := state }
  | aborts (cause : SessionEnd) (deadline : Nat) :
      bearing.phase = .closing cause deadline →
      Supervised now bearing { bearing with phase := .aborting cause }
  | tearsDown (cause : SessionEnd) :
      bearing.phase.Ends cause ∨
        (bearing.phase.atHand = true ∧ cause = bearing.cause) →
      Supervised now bearing (bearing.tearDown cause)

inductive Moves (bearing : Bearing) : Bearing → Prop where
  | stays : Moves bearing bearing
  | cancels : Moves bearing { bearing with cancelled := true }
  | opens (fault : OpenFault) :
      bearing.phase = .opening →
      Moves bearing { bearing with phase := .opened fault }
  | supervised (now : Nat) (next : Bearing) :
      bearing.Supervised now next → Moves bearing next

end Bearing

variable {port : Port σ} {now : Nat}

theorem begin_of_disposed (disposed : port.disposeSignal = true) :
    port.begin = port.finish .disposed := by
  simp [begin, disposed]

theorem bearing_pause (disposed : port.disposeSignal = true) (now : Nat) :
    (port.pause now).bearing =
      port.bearing.finish
        (port.bearing.cause.endState port.bearing.cancelled) := by
  cases cancelled : port.cancelSignal <;>
    simp [pause, finish, bearing, Bearing.finish, Bearing.cause,
      SessionEnd.endState, cancelled, disposed]

theorem bearing_tearDown (disposed : port.disposeSignal = true) (now : Nat)
    (cause : SessionEnd) :
    (port.tearDown now cause).bearing = port.bearing.tearDown cause := by
  have cleanings := Wire.cleanings_append (handleActs_tearDown port now cause)
  rw [count_cleaned_tearDownActs] at cleanings
  have shown : (port.tearDown now cause).phase = .finished ∧
      (port.tearDown now cause).state =
        cause.endState port.cancelSignal ∧
      (port.tearDown now cause).cancelSignal = port.cancelSignal := by
    cases cause with
    | cancelled => exact ⟨rfl, rfl, rfl⟩
    | disposed => exact ⟨rfl, rfl, rfl⟩
    | hardwareFault =>
        cases cancelled : port.cancelSignal <;>
          simp [tearDown, pause, finish, note, close, record,
            SessionEnd.endState, cancelled, disposed]
  simp [bearing, Bearing.tearDown, Bearing.finish, shown, cleanings]

theorem supervised_awaitWorker (disposed : port.disposeSignal = true)
    {cause : SessionEnd} {deadline : Nat}
    (closing : port.phase = .closing cause deadline) (now : Nat) :
    port.bearing.Supervised now
      (port.awaitWorker now cause deadline).bearing := by
  unfold awaitWorker
  split
  · rw [bearing_tearDown disposed]
    apply Bearing.Supervised.tearsDown
    left
    rw [show port.bearing.phase = _ from closing]
    exact .closing deadline
  · split
    · exact .aborts cause deadline closing
    case isFalse early =>
      have same : ({ port with phase := .closing cause deadline } :
          Port σ).bearing = port.bearing := by
        simp [bearing, closing]
      rw [same]
      exact .awaits cause deadline closing (Nat.lt_of_not_le early)

theorem supervised_endSession {begun : Port σ}
    (disposed : begun.disposeSignal = true)
    (atHand : begun.phase.atHand = true)
    (cleanings : port.wire.cleanings = begun.wire.cleanings)
    (cancelled : port.cancelSignal = begun.cancelSignal)
    (still : port.disposeSignal = begun.disposeSignal)
    (now : Nat) :
    begun.bearing.Supervised now
      (port.endSession now begun.bearing.cause).bearing := by
  rw [endSession_eq]
  have cut : port.cut.wire.cleanings = begun.wire.cleanings := by
    rw [← cleanings, Wire.cleanings, Wire.cleanings, handleActs_cut]
  rcases port.cut.awaitWorker_cases now begun.bearing.cause
      (now + grace port.settings) with ⟨_, same⟩ | ⟨phase, ends, same⟩
  · rw [same, bearing_tearDown (by exact still.trans disposed)]
    have torn : port.cut.bearing.tearDown begun.bearing.cause =
        begun.bearing.tearDown begun.bearing.cause := by
      have same : port.cut.cancelSignal = begun.cancelSignal := cancelled
      simp [Bearing.tearDown, Bearing.finish, bearing, cut, same]
    rw [torn]
    exact .tearsDown _ (Or.inr ⟨atHand, rfl⟩)
  · rw [same]
    have shown : ({ port.cut with phase := phase } : Port σ).bearing =
        { begun.bearing with
          phase := phase
          state := port.cut.state } := by
      have same : port.cut.cancelSignal = begun.cancelSignal := cancelled
      simp [bearing, cut, same]
    rw [shown]
    exact .cuts _ phase atHand ends

theorem sessionEnd?_of_disposed (disposed : port.disposeSignal = true) :
    port.sessionEnd? = some port.bearing.cause := by
  cases cancelled : port.cancelSignal <;>
    simp [sessionEnd?, bearing, Bearing.cause, cancelled, disposed]

theorem supervised_resume (disposed : port.disposeSignal = true)
    {fault : OpenFault} (opened : port.phase = .opened fault) (now : Nat) :
    port.bearing.Supervised now (port.resume now fault).bearing := by
  rcases fault with _ | ⟨stage, failure⟩
  · -- The session is installed first, and then cut off again at once.
    let ready := ((port.record .streamed).record .listened).installed
    have resumed : port.resume now none = ready.checkSession now := rfl
    have ends : ready.sessionEnd? = some port.bearing.cause := by
      apply sessionEnd?_of_disposed
      exact disposed
    rw [resumed, checkSession, ends]
    apply supervised_endSession disposed
    · rw [opened]
      rfl
    · rw [Wire.cleanings, Wire.cleanings, handleActs_installed]
      simp [record, Wire.handleActs_record, Act.concernsHandle,
        Act.touchesLine]
    · rfl
    · rfl
  · obtain ⟨other, same, known, still, acts⟩ : ∃ other : Port σ,
        port.resume now (some (stage, failure)) = other.pause now ∧
        other.cancelSignal = port.cancelSignal ∧
        other.disposeSignal = port.disposeSignal ∧
        other.wire.handleActs = port.wire.handleActs ++
          Attempt.resumeActs (some (stage, failure)) := by
      cases stage with
      | «open» => exact ⟨_, rfl, rfl, rfl, (List.append_nil _).symm⟩
      | configure => exact ⟨_, rfl, rfl, rfl, (List.append_nil _).symm⟩
      | stream =>
          refine ⟨_, rfl, rfl, rfl, ?_⟩
          simp [note, close, record, Wire.handleActs_record,
            Act.concernsHandle, Act.touchesLine, Attempt.resumeActs]
      | listen =>
          refine ⟨_, rfl, rfl, rfl, ?_⟩
          simp [note, close, record, Wire.handleActs_record,
            Act.concernsHandle, Act.touchesLine, Attempt.resumeActs]
    have cleanings := Wire.cleanings_append acts
    rw [count_cleaned_resumeActs, Nat.add_zero] at cleanings
    rw [same, bearing_pause (still.trans disposed)]
    have given : other.bearing.finish
        (other.bearing.cause.endState other.bearing.cancelled) =
          port.bearing.finish
            (port.bearing.cause.endState port.bearing.cancelled) := by
      cases cancelled : port.cancelSignal <;>
        simp [Bearing.finish, Bearing.cause, bearing, known, cancelled,
          cleanings]
    rw [given]
    exact .givesUp (Or.inl ⟨_, opened⟩)

theorem supervised_supervise (disposed : port.disposeSignal = true)
    (now : Nat) :
    port.bearing.Supervised now (port.supervise now).bearing := by
  cases phase : port.phase with
  | starting =>
      simp only [supervise, phase, begin_of_disposed disposed]
      exact .begins phase
  | opening =>
      simp only [supervise, phase]
      exact .waits (Or.inl phase)
  | opened fault =>
      simp only [supervise, phase]
      exact supervised_resume disposed phase now
  | serving =>
      simp only [supervise, phase, sessionEnd?_of_disposed disposed]
      apply supervised_endSession disposed _ rfl rfl rfl
      rw [phase]
      rfl
  | closing cause deadline =>
      simp only [supervise, phase]
      exact supervised_awaitWorker disposed phase now
  | aborting cause =>
      simp only [supervise, phase]
      split
      · rw [bearing_tearDown disposed]
        apply Bearing.Supervised.tearsDown
        left
        rw [show port.bearing.phase = _ from phase]
        exact .aborting
      · exact .waits (Or.inr (Or.inr ⟨cause, phase⟩))
  | pausing deadline =>
      have finishes : (port.supervise now).bearing = port.bearing.finish
          (port.bearing.cause.endState port.bearing.cancelled) := by
        cases cancelled : port.cancelSignal <;>
          simp [supervise, phase, finish, bearing, Bearing.finish,
            Bearing.cause, SessionEnd.endState, cancelled, disposed]
      rw [finishes]
      exact .givesUp (Or.inr ⟨deadline, phase⟩)
  | finished =>
      simp only [supervise, phase]
      exact .waits (Or.inr (Or.inl phase))

theorem bearing_work (line : Line σ) (now : Nat) (port : Port σ) :
    (port.work line now).bearing = port.bearing := by
  have acts := (carries_workerProgress line now port).handleActs
  simp [bearing, work, advance, deliver, Wire.cleanings, acts]

theorem bearing_dispose (port : Port σ) :
    port.dispose.bearing = port.bearing := by
  have cleanings : port.dispose.wire.cleanings = port.wire.cleanings := by
    rw [Wire.cleanings, Wire.cleanings, handleActs_dispose]
  unfold dispose at cleanings ⊢
  split
  · rfl
  case isFalse used =>
      rw [if_neg used] at cleanings
      simp only [bearing, cleanings]
      rfl

theorem bearing_submit (port : Port σ) (request : Bytes) :
    (port.submit request).1.bearing = port.bearing := by
  rcases port.submit_cases request with ⟨_, _, _, equality⟩ | equality <;>
    rw [equality] <;> rfl

theorem moves_answerOpen (port : Port σ) (fault : OpenFault) :
    port.bearing.Moves (port.answerOpen fault).bearing := by
  by_cases opening : port.phase = .opening
  · have cleanings :=
      Wire.cleanings_append (handleActs_answerOpen opening fault)
    rw [count_cleaned_openActs, Nat.add_zero] at cleanings
    have shown : (port.answerOpen fault).bearing =
        { port.bearing with phase := .opened fault } := by
      simp only [bearing, cleanings, phase_answerOpen opening]
      rw [answerOpen, if_pos opening]
      rcases fault with _ | ⟨_ | _ | _ | _, _⟩ <;> rfl
    rw [shown]
    exact .opens fault opening
  · rw [answerOpen, if_neg opening]
    exact .stays

theorem moves_perform (disposed : port.disposeSignal = true) (line : Line σ)
    (now : Nat) (action : Action) :
    port.bearing.Moves (port.perform line now action).bearing := by
  cases action with
  | submit request =>
      rw [perform, bearing_submit]
      exact .stays
  | abandon number => exact .stays
  | cancel => exact .cancels
  | dispose =>
      rw [perform, bearing_dispose]
      exact .stays
  | raise event =>
      have cleanings := Wire.cleanings_of_acts (port.wire.acts_hear event)
      simp only [perform, bearing, cleanings]
      exact .stays
  | loseListener => exact .stays
  | answerOpen fault => exact moves_answerOpen port fault
  | supervise => exact .supervised now _ (supervised_supervise disposed now)
  | work =>
      rw [perform, bearing_work]
      exact .stays

namespace Bearing

variable {bearing next : Bearing}

theorem Supervised.cancelled (supervised : bearing.Supervised now next) :
    next.cancelled = bearing.cancelled := by
  cases supervised <;> rfl

theorem endState_of_ends {cause : SessionEnd}
    (ends : bearing.phase.Ends cause) :
    bearing.endState = cause.endState bearing.cancelled := by
  obtain ⟨phase, state, cancelled, cleanings⟩ := bearing
  cases ends <;> rfl

theorem cleaningsAtEnd_of_ends {cause : SessionEnd}
    (ends : bearing.phase.Ends cause) :
    bearing.cleaningsAtEnd = bearing.cleanings + cause.cleanings := by
  obtain ⟨phase, state, cancelled, cleanings⟩ := bearing
  cases ends <;> rfl

theorem endState_of_atHand (atHand : bearing.phase.atHand = true) :
    bearing.endState = bearing.cause.endState bearing.cancelled := by
  obtain ⟨phase, state, cancelled, cleanings⟩ := bearing
  cases phase <;> first | rfl | cases atHand

theorem cleaningsAtEnd_of_atHand (atHand : bearing.phase.atHand = true) :
    bearing.cleaningsAtEnd = bearing.cleanings + bearing.cause.cleanings := by
  obtain ⟨phase, state, cancelled, cleanings⟩ := bearing
  cases phase <;> cases cancelled <;>
    simp_all [cleaningsAtEnd, overtaken, cause, SessionEnd.cleanings,
      Phase.atHand]

theorem Supervised.cleanings (supervised : bearing.Supervised now next) :
    bearing.cleanings ≤ next.cleanings := by
  cases supervised with
  | tearsDown => exact Nat.le_add_right _ _
  | _ => exact Nat.le_refl _

theorem Supervised.endState (supervised : bearing.Supervised now next) :
    next.endState = bearing.endState := by
  cases supervised with
  | waits => rfl
  | awaits => rfl
  | begins starting => simp [Bearing.endState, finish, starting]
  | givesUp idle =>
      rcases idle with ⟨_, opened⟩ | ⟨_, pausing⟩
      · simp [Bearing.endState, finish, opened]
      · simp [Bearing.endState, finish, pausing]
  | cuts state phase atHand ends =>
      rw [endState_of_atHand atHand]
      exact endState_of_ends ends
  | aborts cause deadline closing => simp [Bearing.endState, closing]
  | tearsDown cause ended =>
      rcases ended with ends | ⟨atHand, rfl⟩
      · rw [endState_of_ends ends]
        rfl
      · rw [endState_of_atHand atHand]
        rfl

theorem Supervised.cleaningsAtEnd (supervised : bearing.Supervised now next) :
    next.cleaningsAtEnd = bearing.cleaningsAtEnd := by
  cases supervised with
  | waits => rfl
  | awaits => rfl
  | begins starting =>
      simp [Bearing.cleaningsAtEnd, finish, overtaken, Phase.atHand, starting]
  | givesUp idle =>
      rcases idle with ⟨_, opened⟩ | ⟨_, pausing⟩
      · simp [Bearing.cleaningsAtEnd, finish, overtaken, Phase.atHand, opened]
      · simp [Bearing.cleaningsAtEnd, finish, overtaken, Phase.atHand, pausing]
  | cuts state phase atHand ends =>
      rw [cleaningsAtEnd_of_atHand atHand]
      exact cleaningsAtEnd_of_ends ends
  | aborts cause deadline closing => simp [Bearing.cleaningsAtEnd, closing]
  | tearsDown cause ended =>
      rcases ended with ends | ⟨atHand, rfl⟩
      · rw [cleaningsAtEnd_of_ends ends]
        rfl
      · rw [cleaningsAtEnd_of_atHand atHand]
        rfl

/-- The supervisor never goes back. -/
theorem Supervised.phase (supervised : bearing.Supervised now next) :
    next.phase = bearing.phase ∨ next.phase.rank < bearing.phase.rank := by
  cases supervised with
  | waits => exact Or.inl rfl
  | awaits => exact Or.inl rfl
  | begins starting => simp [finish, starting, Phase.rank]
  | givesUp idle =>
      rcases idle with ⟨_, opened⟩ | ⟨_, pausing⟩
      · simp [finish, opened, Phase.rank]
      · simp [finish, pausing, Phase.rank]
  | cuts state phase atHand ends =>
      right
      rw [Phase.rank_of_atHand atHand]
      have bounded := (Phase.rank_of_ends ends).2
      exact Nat.lt_succ_of_le bounded
  | aborts cause deadline closing => simp [closing, Phase.rank]
  | tearsDown cause ended =>
      right
      rcases ended with ends | ⟨atHand, _⟩
      · exact (Phase.rank_of_ends ends).1
      · rw [Phase.rank_of_atHand atHand]
        exact Nat.succ_pos 2

theorem Supervised.falls (supervised : bearing.Supervised now next)
    (looks : bearing.phase.rank = 3) : next.phase.rank < 3 := by
  cases supervised with
  | waits idle =>
      rcases idle with opening | finished | ⟨_, aborting⟩ <;>
        simp [Phase.rank, *] at looks
  | awaits cause deadline closing => simp [closing, Phase.rank] at looks
  | begins => exact Nat.succ_pos 2
  | givesUp => exact Nat.succ_pos 2
  | cuts state phase atHand ends =>
      exact Nat.lt_succ_of_le (Phase.rank_of_ends ends).2
  | aborts cause deadline closing => simp [closing, Phase.rank] at looks
  | tearsDown => exact Nat.succ_pos 2

theorem Supervised.late (supervised : bearing.Supervised now next)
    {cause : SessionEnd} {deadline : Nat}
    (closing : bearing.phase = .closing cause deadline)
    (late : deadline ≤ now) : next.phase.rank < 2 := by
  cases supervised with
  | waits idle =>
      rcases idle with opening | finished | ⟨_, aborting⟩ <;> simp_all
  | awaits _ other still early =>
      rw [closing] at still
      cases still
      omega
  | begins => exact Nat.succ_pos 1
  | givesUp => exact Nat.succ_pos 1
  | cuts _ _ atHand => simp [closing, Phase.atHand] at atHand
  | aborts => simp [Phase.rank]
  | tearsDown => exact Nat.succ_pos 1

/-- While a session is at hand, or the port waits for one, the supervisor does
not leave it so. -/
theorem Supervised.not_overtaken (supervised : bearing.Supervised now next) :
    next.overtaken = false := by
  cases supervised with
  | waits idle =>
      rcases idle with opening | finished | ⟨_, aborting⟩ <;>
        simp [overtaken, Phase.atHand, *]
  | awaits cause deadline closing =>
      simp [overtaken, Phase.atHand, closing]
  | begins => rfl
  | givesUp => rfl
  | cuts state phase atHand ends => cases ends <;> rfl
  | aborts => rfl
  | tearsDown => rfl

theorem not_overtaken_of_rank (near : bearing.phase.rank ≤ 2) :
    bearing.overtaken = false := by
  cases atHand : bearing.phase.atHand with
  | false => simp [overtaken, atHand]
  | true =>
      rw [Phase.rank_of_atHand atHand] at near
      omega

theorem cleanings_le_cleaningsAtEnd (bearing : Bearing) :
    bearing.cleanings ≤ bearing.cleaningsAtEnd := by
  unfold cleaningsAtEnd
  split <;> exact Nat.le_add_right _ _

theorem endState_of_finished (finished : bearing.phase = .finished) :
    bearing.endState = bearing.state := by
  simp [endState, finished]

theorem cleaningsAtEnd_of_finished (finished : bearing.phase = .finished) :
    bearing.cleaningsAtEnd = bearing.cleanings := by
  simp [cleaningsAtEnd, overtaken, Phase.atHand, finished]

theorem endState_of_cancelled (heeds : bearing.phase.heedsCancel = true)
    (cancelled : bearing.cancelled = true) : bearing.endState = .closed := by
  obtain ⟨phase, state, _, cleanings⟩ := bearing
  subst cancelled
  cases phase with
  | closing cause => cases cause <;> first | rfl | cases heeds
  | aborting cause => cases cause <;> first | rfl | cases heeds
  | _ => first | rfl | cases heeds

namespace Moves

theorem cancelled (moves : bearing.Moves next)
    (already : bearing.cancelled = true) : next.cancelled = true := by
  cases moves with
  | stays => exact already
  | cancels => rfl
  | opens => exact already
  | supervised now next supervised =>
      rw [supervised.cancelled]
      exact already

theorem cleanings (moves : bearing.Moves next) :
    bearing.cleanings ≤ next.cleanings := by
  cases moves with
  | supervised now next supervised => exact supervised.cleanings
  | _ => exact Nat.le_refl _

theorem phase (moves : bearing.Moves next) :
    next.phase = bearing.phase ∨ next.phase.rank < bearing.phase.rank := by
  cases moves with
  | stays => exact Or.inl rfl
  | cancels => exact Or.inl rfl
  | opens fault opening => simp [opening, Phase.rank]
  | supervised now next supervised => exact supervised.phase

/-- Only cancellation changes the state in which the port ends. -/
theorem endState (moves : bearing.Moves next) :
    next.endState = bearing.endState ∨
      next.phase.heedsCancel = true ∧ next.cancelled = true := by
  cases moves with
  | stays => exact Or.inl rfl
  | cancels =>
      cases heeds : bearing.phase.heedsCancel with
      | true => exact Or.inr ⟨rfl, rfl⟩
      | false =>
          left
          obtain ⟨phase, state, cancelled, cleanings⟩ := bearing
          cases phase with
          | closing cause => cases cause <;> first | rfl | cases heeds
          | aborting cause => cases cause <;> first | rfl | cases heeds
          | _ => first | rfl | cases heeds
  | opens fault opening =>
      left
      simp [Bearing.endState, opening, cause]
  | supervised now next supervised => exact Or.inl supervised.endState

/-- Only cancellation of a session at hand adds to the cleanings. -/
theorem cleaningsAtEnd (moves : bearing.Moves next) :
    next.cleaningsAtEnd = bearing.cleaningsAtEnd +
      (next.overtaken && !bearing.overtaken).toNat := by
  cases moves with
  | stays => simp
  | cancels =>
      obtain ⟨phase, state, cancelled, cleanings⟩ := bearing
      cases atHand : phase.atHand with
      | true =>
          cases cancelled <;> cases phase <;>
            simp_all [Bearing.cleaningsAtEnd, overtaken, Phase.atHand]
      | false =>
          cases phase <;>
            simp_all [Bearing.cleaningsAtEnd, overtaken, Phase.atHand]
  | opens fault opening =>
      simp [Bearing.cleaningsAtEnd, overtaken, opening, Phase.atHand]
  | supervised now next supervised =>
      simp [supervised.cleaningsAtEnd, supervised.not_overtaken]

end Moves

end Bearing

theorem Begins.signals {next : Port σ} (begins : port.Begins next) :
    next.cancelSignal = port.cancelSignal ∧
      next.disposeSignal = port.disposeSignal := by
  cases begins <;> exact ⟨rfl, rfl⟩

theorem signals_pause (port : Port σ) (now : Nat) :
    (port.pause now).cancelSignal = port.cancelSignal ∧
      (port.pause now).disposeSignal = port.disposeSignal := by
  have pauses := port.pause_pauses now
  generalize port.pause now = next at pauses
  cases pauses with
  | begins _ begins => exact begins.signals
  | waits => exact ⟨rfl, rfl⟩

theorem signals_tearDown (port : Port σ) (now : Nat) (cause : SessionEnd) :
    (port.tearDown now cause).cancelSignal = port.cancelSignal ∧
      (port.tearDown now cause).disposeSignal = port.disposeSignal := by
  cases cause with
  | cancelled => exact ⟨rfl, rfl⟩
  | disposed => exact ⟨rfl, rfl⟩
  | hardwareFault => exact signals_pause _ now

theorem signals_awaitWorker (port : Port σ) (now : Nat) (cause : SessionEnd)
    (deadline : Nat) :
    (port.awaitWorker now cause deadline).cancelSignal = port.cancelSignal ∧
      (port.awaitWorker now cause deadline).disposeSignal =
        port.disposeSignal := by
  rcases port.awaitWorker_cases now cause deadline with
    ⟨_, same⟩ | ⟨phase, _, same⟩
  · rw [same]
    exact signals_tearDown port now cause
  · rw [same]
    exact ⟨rfl, rfl⟩

theorem signals_checkSession (port : Port σ) (now : Nat) :
    (port.checkSession now).cancelSignal = port.cancelSignal ∧
      (port.checkSession now).disposeSignal = port.disposeSignal := by
  unfold checkSession
  split
  · exact signals_awaitWorker port.cut now _ _
  · exact ⟨rfl, rfl⟩

theorem signals_resume (port : Port σ) (now : Nat) (fault : OpenFault) :
    (port.resume now fault).cancelSignal = port.cancelSignal ∧
      (port.resume now fault).disposeSignal = port.disposeSignal := by
  rcases fault with _ | ⟨_ | _ | _ | _, failure⟩
  · exact signals_checkSession _ now
  all_goals exact signals_pause _ now

theorem signals_supervise (port : Port σ) (now : Nat) :
    (port.supervise now).cancelSignal = port.cancelSignal ∧
      (port.supervise now).disposeSignal = port.disposeSignal := by
  have supervises := port.supervise_supervises now
  generalize port.supervise now = next at supervises
  cases supervises with
  | waits => exact ⟨rfl, rfl⟩
  | begins _ _ begins => exact begins.signals
  | resumes fault => exact signals_resume port now fault
  | ends cause => exact signals_awaitWorker port.cut now cause _
  | awaits cause deadline => exact signals_awaitWorker port now cause deadline
  | tearsDown cause => exact signals_tearDown port now cause

theorem signals_perform (port : Port σ) (line : Line σ) (now : Nat)
    (action : Action) :
    let next := port.perform line now action
    (port.disposeSignal = true → next.disposeSignal = true) ∧
      (action ≠ .cancel → next.cancelSignal = port.cancelSignal) := by
  cases action with
  | submit request =>
      rcases port.submit_cases request with ⟨_, _, _, equality⟩ | equality <;>
        simp [perform, equality]
  | dispose =>
      simp only [perform, dispose]
      split
      · exact ⟨id, fun _ => rfl⟩
      · exact ⟨fun _ => rfl, fun _ => rfl⟩
  | answerOpen fault =>
      simp only [perform, answerOpen]
      split
      · rcases fault with _ | ⟨_ | _ | _ | _, _⟩ <;>
          exact ⟨id, fun _ => rfl⟩
      · exact ⟨id, fun _ => rfl⟩
  | supervise =>
      have same := signals_supervise port now
      exact ⟨same.2.trans, fun _ => same.1⟩
  | cancel => exact ⟨id, fun other => (other rfl).elim⟩
  | _ => exact ⟨id, fun _ => rfl⟩

theorem stopped_perform (stopped : port.worker.stage = .stopped)
    (line : Line σ) (now : Nat) {action : Action}
    (ongoing : port.beginsSession action = false) :
    (port.perform line now action).worker.stage = .stopped := by
  cases action using Action.byPart with
  | control action control =>
      obtain ⟨_, _, same, _⟩ :=
        worker_perform_of_control line now control ongoing
      rw [same]
      exact stopped
  | submit request =>
      rcases port.submit_cases request with
        ⟨_, _, accepted, _⟩ | equality
      · exact (Worker.accepts_not_stopped accepted stopped).elim
      · rw [perform, equality]
        exact stopped
  | abandon number => exact stopped
  | work =>
      simp only [perform, work, advance, deliver, workerProgress]
      split
      · rfl
      · simp [Worker.step, stopped]

theorem stopped_work_of_aborting {cause : SessionEnd}
    (aborting : port.phase = .aborting cause) (line : Line σ) (now : Nat) :
    (port.work line now).worker.stage = .stopped := by
  simp [work, advance, deliver, workerProgress, aborting, Worker.abort]

theorem rank_supervise_of_stopped (disposed : port.disposeSignal = true)
    {cause : SessionEnd} (aborting : port.phase = .aborting cause)
    (stopped : port.worker.stage = .stopped) (now : Nat) :
    (port.supervise now).phase.rank = 0 := by
  have torn : port.supervise now = port.tearDown now cause := by
    simp [supervise, aborting, Worker.isStopped, stopped]
  have bearing := bearing_tearDown disposed now cause
  rw [← torn] at bearing
  have finished := congrArg Bearing.phase bearing
  exact congrArg Phase.rank finished

/-- The port would end as one that was disposed of. -/
def Uncancelled (port : Port σ) : Prop :=
  port.cancelSignal = false ∧ port.bearing.endState = .disposed

theorem Uncancelled.of_phase (going : port.cancelSignal = false)
    (waits : port.bearing.endState =
      port.bearing.cause.endState port.bearing.cancelled) :
    port.Uncancelled := by
  refine ⟨going, ?_⟩
  rw [waits]
  simp [bearing, Bearing.cause, SessionEnd.endState, going]

theorem Begins.uncancelled {next : Port σ} (begins : port.Begins next)
    (going : port.cancelSignal = false) : next.Uncancelled := by
  cases begins with
  | finishes state signalled =>
      rcases signalled with ⟨rfl, _⟩ | ⟨_, cancelled⟩
      · exact ⟨going, rfl⟩
      · rw [going] at cancelled
        cases cancelled
  | opens => exact .of_phase going rfl

theorem uncancelled_pause (going : port.cancelSignal = false) (now : Nat) :
    (port.pause now).Uncancelled := by
  have pauses := port.pause_pauses now
  generalize port.pause now = next at pauses
  cases pauses with
  | begins _ begins => exact begins.uncancelled going
  | waits => exact .of_phase going rfl

theorem uncancelled_tearDown (going : port.cancelSignal = false)
    {cause : SessionEnd} (other : cause ≠ .cancelled) (now : Nat) :
    (port.tearDown now cause).Uncancelled := by
  cases cause with
  | cancelled => exact (other rfl).elim
  | disposed => exact ⟨going, rfl⟩
  | hardwareFault =>
      apply uncancelled_pause
      exact going

theorem uncancelled_awaitWorker (going : port.cancelSignal = false)
    {cause : SessionEnd} (other : cause ≠ .cancelled) (now deadline : Nat) :
    (port.awaitWorker now cause deadline).Uncancelled := by
  rcases port.awaitWorker_cases now cause deadline with
    ⟨_, same⟩ | ⟨phase, ends, same⟩
  · rw [same]
    exact uncancelled_tearDown going other now
  · rw [same]
    refine ⟨going, ?_⟩
    rw [Bearing.endState_of_ends ends]
    cases cause with
    | cancelled => exact (other rfl).elim
    | disposed => rfl
    | hardwareFault => simp [bearing, SessionEnd.endState, going]

theorem sessionEnd?_ne_cancelled (going : port.cancelSignal = false)
    {cause : SessionEnd} (ends : port.sessionEnd? = some cause) :
    cause ≠ .cancelled := by
  rintro rfl
  simp only [sessionEnd?, going, Bool.false_eq_true, if_false] at ends
  split at ends
  · cases ends
  · split at ends <;> cases ends

theorem uncancelled_endSession (going : port.cancelSignal = false)
    {cause : SessionEnd} (ends : port.sessionEnd? = some cause) (now : Nat) :
    (port.endSession now cause).Uncancelled := by
  rw [endSession_eq]
  apply uncancelled_awaitWorker
  · exact going
  · exact sessionEnd?_ne_cancelled going ends

theorem uncancelled_resume (going : port.cancelSignal = false) (now : Nat)
    (fault : OpenFault) : (port.resume now fault).Uncancelled := by
  rcases fault with _ | ⟨_ | _ | _ | _, failure⟩
  · let ready := ((port.record .streamed).record .listened).installed
    show (ready.checkSession now).Uncancelled
    unfold checkSession
    split
    case h_1 cause ends =>
        apply uncancelled_endSession _ ends
        exact going
    case h_2 => exact .of_phase going rfl
  all_goals
    apply uncancelled_pause
    exact going

theorem Uncancelled.other_cause (uncancelled : port.Uncancelled)
    {cause : SessionEnd} (ends : port.phase.Ends cause) :
    cause ≠ .cancelled := by
  rintro rfl
  have same := uncancelled.2
  rw [Bearing.endState_of_ends ends] at same
  cases same

/-- Until the port is cancelled, its line is cleaned up only behind a session
that is being ended because of the hardware. -/
theorem Uncancelled.cleaningsAtEnd (uncancelled : port.Uncancelled) :
    port.bearing.cleaningsAtEnd =
      port.wire.cleanings + port.phase.faulted.toNat := by
  have going := uncancelled.1
  cases phase : port.phase with
  | closing cause deadline =>
      have other : cause ≠ .cancelled := by
        apply uncancelled.other_cause
        rw [phase]
        exact .closing deadline
      cases cause <;>
        simp_all [bearing, Bearing.cleaningsAtEnd, SessionEnd.cleanings,
          Phase.faulted]
  | aborting cause =>
      have other : cause ≠ .cancelled := by
        apply uncancelled.other_cause
        rw [phase]
        exact .aborting
      cases cause <;>
        simp_all [bearing, Bearing.cleaningsAtEnd, SessionEnd.cleanings,
          Phase.faulted]
  | _ =>
      simp [bearing, Bearing.cleaningsAtEnd, Bearing.overtaken, phase, going,
        Phase.faulted]

theorem Uncancelled.supervise (uncancelled : port.Uncancelled) (now : Nat) :
    (port.supervise now).Uncancelled := by
  have going := uncancelled.1
  have supervises := port.supervise_supervises now
  generalize port.supervise now = next at supervises
  cases supervises with
  | waits => exact uncancelled
  | begins _ _ begins => exact begins.uncancelled going
  | resumes fault => exact uncancelled_resume going now fault
  | ends cause _ ends => exact uncancelled_endSession going ends now
  | awaits cause deadline closing =>
      apply uncancelled_awaitWorker going
      apply uncancelled.other_cause
      rw [closing]
      exact .closing deadline
  | tearsDown cause aborting =>
      apply uncancelled_tearDown going
      apply uncancelled.other_cause
      rw [aborting]
      exact .aborting

theorem Uncancelled.perform (uncancelled : port.Uncancelled) (line : Line σ)
    (now : Nat) {action : Action} (other : action ≠ .cancel) :
    (port.perform line now action).Uncancelled := by
  have same : ∀ {next : Port σ}, next.bearing = port.bearing →
      next.Uncancelled := by
    intro next same
    refine ⟨?_, same ▸ uncancelled.2⟩
    exact (congrArg Bearing.cancelled same).trans uncancelled.1
  cases action with
  | submit request => exact same (bearing_submit port request)
  | abandon number => exact same rfl
  | cancel => exact (other rfl).elim
  | dispose => exact same (bearing_dispose port)
  | raise event =>
      apply same
      have cleanings := Wire.cleanings_of_acts (port.wire.acts_hear event)
      simp only [Port.perform, bearing, cleanings]
  | loseListener => exact same rfl
  | answerOpen fault =>
      have moves := moves_answerOpen port fault
      have signal := (signals_perform port line now (.answerOpen fault)).2 other
      refine ⟨signal.trans uncancelled.1, ?_⟩
      rcases moves.endState with kept | ⟨_, cancelled⟩
      · exact kept.trans uncancelled.2
      · rw [show (port.answerOpen fault).bearing.cancelled = _ from signal,
          uncancelled.1] at cancelled
        cases cancelled
  | supervise => exact uncancelled.supervise now
  | work => exact same (bearing_work line now port)

end Port

end MeterLine
