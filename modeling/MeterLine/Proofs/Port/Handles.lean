import MeterLine.Proofs.Port.Standing

/-!
# Handles

Every attempt to open the line asks for a handle, and most attempts get one.  A
chronicle follows a port and notes, attempt by attempt, how the line answered,
why the session that came of it was ended, and what was done to the handle.
The acts of an attempt that is over follow from its answer and the end of its
session alone: a handle is closed once, before the next one is asked for, and
what is left behind it is cleaned up only when a session was cancelled or ended
by the hardware.
-/

namespace MeterLine

namespace Act

/-- Whether an act concerns a handle: it is done to it, or cleans up behind
it. -/
def concernsHandle (act : Act) : Bool :=
  act.touchesLine || act == .cleaned

/-- Whether a handle is open after an act, unless the act is out of order.  A
handle is asked for only when none is open, everything else is done to an open
one, and the line is cleaned up only when none is open. -/
def handle? (act : Act) (isOpen : Bool) : Option Bool :=
  match act, isOpen with
  | .opened, false => some false
  | .configured, false => some true
  | .streamed, true => some true
  | .listened, true => some true
  | .unlistened, true => some true
  | .closed, true => some false
  | .cleaned, false => some false
  | _, _ => none

/-- Whether a handle is open after some acts, first one first, unless one of
them is out of order. -/
def handleThrough (acts : List Act) (isOpen : Bool) : Option Bool :=
  acts.foldlM (fun isOpen act => act.handle? isOpen) isOpen

theorem handleThrough_append (front back : List Act) (isOpen : Bool) :
    handleThrough (front ++ back) isOpen =
      (handleThrough front isOpen).bind (handleThrough back) := by
  rw [handleThrough, List.foldlM_append]
  rfl

theorem handleAfter_of_handle? {act : Act} {before after : Bool}
    (orderly : act.handle? before = some after) :
    act.handleAfter before = after := by
  cases act <;> cases before <;> cases orderly <;> rfl

theorem handleAfter_of_not_concerns {act : Act} (other : act.concernsHandle = false)
    (before : Bool) : act.handleAfter before = before := by
  cases act <;> first | rfl | cases other

end Act

namespace Wire

def handleActs (wire : Wire σ) : List Act :=
  (wire.acts.filter Act.concernsHandle).reverse

theorem handleActs_of_acts {wire other : Wire σ}
    (same : other.acts = wire.acts) : other.handleActs = wire.handleActs := by
  rw [handleActs, handleActs, same]

theorem handleActs_record (wire : Wire σ) (act : Act) :
    (wire.record act).handleActs =
      wire.handleActs ++ if act.concernsHandle then [act] else [] := by
  cases concerned : act.concernsHandle <;>
    simp [handleActs, record, concerned]

@[simp] theorem handleActs_hear (wire : Wire σ) (event : PortEvent) :
    (wire.hear event).handleActs = wire.handleActs :=
  handleActs_of_acts (wire.acts_hear event)

theorem handleOpen_of_handleThrough {wire : Wire σ} {isOpen : Bool}
    (orderly : Act.handleThrough wire.handleActs false = some isOpen) :
    wire.handleOpen = isOpen := by
  unfold handleActs at orderly
  unfold handleOpen
  -- The acts are kept last one first, so that the induction takes off the
  -- latest act while the order is that of the earlier ones.
  generalize wire.acts = acts at orderly
  induction acts generalizing isOpen with
  | nil => exact Option.some.inj orderly
  | cons act acts induction =>
      rw [List.foldr_cons]
      cases concerned : act.concernsHandle with
      | false =>
          rw [List.filter_cons_of_neg (by simp [concerned])] at orderly
          rw [Act.handleAfter_of_not_concerns concerned]
          exact induction orderly
      | true =>
          rw [List.filter_cons_of_pos concerned, List.reverse_cons,
            Act.handleThrough_append] at orderly
          obtain ⟨before, known, next⟩ := Option.bind_eq_some_iff.mp orderly
          rw [induction known]
          apply Act.handleAfter_of_handle?
          simpa [Act.handleThrough] using next

end Wire

/-- Whether a handle is open in a phase.  The answer to an attempt to open the
line leaves one open unless it could not be opened or configured. -/
def Port.Phase.handleOpen : Port.Phase → Bool
  | .opened (some (.open, _)) => false
  | .opened (some (.configure, _)) => false
  | .opened _ => true
  | phase => phase.inSession

/-- An attempt to open the line, and the session that came of it. -/
structure Attempt where
  answer : Option OpenFault
  ending : Option SessionEnd
  acts : List Act

namespace Attempt

def begin : Attempt :=
  { answer := none
    ending := none
    acts := [] }

def note (attempt : Attempt) (answer : Option OpenFault)
    (ending : Option SessionEnd) (acts : List Act) : Attempt :=
  { answer := answer.or attempt.answer
    ending := ending.or attempt.ending
    acts := attempt.acts ++ acts }

/-- The attempt is over: its handle, if there was one, was closed once, after
its listener was removed if it served a session; and only behind a session that
was cancelled or ended by the hardware the line was cleaned up, once and
last. -/
inductive Over : Attempt → Prop where
  | refused (failure : Failure) :
      Over
        { answer := some (some (.open, failure))
          ending := none
          acts := [.opened] }
  | unconfigured (failure : Failure) :
      Over
        { answer := some (some (.configure, failure))
          ending := none
          acts := [.opened, .configured, .closed] }
  | unstreamed (failure : Failure) :
      Over
        { answer := some (some (.stream, failure))
          ending := none
          acts := [.opened, .configured, .streamed, .closed] }
  | unheard (failure : Failure) :
      Over
        { answer := some (some (.listen, failure))
          ending := none
          acts := [.opened, .configured, .streamed, .listened, .closed] }
  | disposed :
      Over
        { answer := some none
          ending := some .disposed
          acts :=
            [.opened, .configured, .streamed, .listened, .unlistened,
              .closed] }
  | cleaned (cause : SessionEnd) :
      cause ≠ .disposed →
      Over
        { answer := some none
          ending := some cause
          acts :=
            [.opened, .configured, .streamed, .listened, .unlistened, .closed,
              .cleaned] }

def openActs : OpenFault → List Act
  | some (.open, _) => [.opened]
  | some (.configure, _) => [.opened, .configured, .closed]
  | _ => [.opened, .configured]

def resumeActs : OpenFault → List Act
  | some (.open, _) => []
  | some (.configure, _) => []
  | some (.stream, _) => [.streamed, .closed]
  | some (.listen, _) => [.streamed, .listened, .closed]
  | none => [.streamed, .listened]

def tearDownActs : SessionEnd → List Act
  | .disposed => [.unlistened, .closed]
  | _ => [.unlistened, .closed, .cleaned]

def session (ending : Option SessionEnd) : Attempt :=
  { answer := some none
    ending := ending
    acts := [.opened, .configured, .streamed, .listened] }

/-- Where the latest attempt stands in a phase of its port. -/
def Stands (attempt : Attempt) : Port.Phase → Prop
  | .starting => False
  | .opening => attempt = begin
  | .opened fault =>
      attempt =
        { answer := some fault
          ending := none
          acts := openActs fault }
  | .serving => attempt = session none
  | .closing cause _ => attempt = session (some cause)
  | .aborting cause => attempt = session (some cause)
  | .pausing _ => attempt.Over
  | .finished => attempt.Over

theorem over_of_resume (stage : OpenStage) (failure : Failure) :
    Over
      { answer := some (some (stage, failure))
        ending := none
        acts := openActs (some (stage, failure)) ++
          resumeActs (some (stage, failure)) } := by
  cases stage with
  | «open» => exact .refused failure
  | configure => exact .unconfigured failure
  | stream => exact .unstreamed failure
  | listen => exact .unheard failure

theorem over_of_tearDown (cause : SessionEnd) :
    ((session (some cause)).note none none (tearDownActs cause)).Over := by
  cases cause with
  | cancelled => exact .cleaned .cancelled nofun
  | disposed => exact .disposed
  | hardwareFault => exact .cleaned .hardwareFault nofun

theorem Over.count_closed {attempt : Attempt} (ended : attempt.Over) :
    attempt.acts.count .closed = attempt.acts.count .configured := by
  cases ended <;> rfl

theorem Over.count_cleaned {attempt : Attempt} (ended : attempt.Over) :
    attempt.acts.count .cleaned =
      if attempt.ending = some .cancelled ∨
        attempt.ending = some .hardwareFault then 1 else 0 := by
  cases ended with
  | cleaned cause undisposed =>
      cases cause with
      | cancelled => rfl
      | disposed => exact (undisposed rfl).elim
      | hardwareFault => rfl
  | _ => rfl

theorem Over.count_opened {attempt : Attempt} (ended : attempt.Over) :
    attempt.acts.count .opened = 1 := by
  cases ended <;> rfl

/-- A handle is asked for once in every attempt that the line answered. -/
theorem Stands.count_opened {attempt : Attempt} {phase : Port.Phase}
    (stands : attempt.Stands phase) (answered : phase ≠ .opening) :
    attempt.acts.count .opened = 1 := by
  cases phase with
  | starting => exact stands.elim
  | opening => exact (answered rfl).elim
  | opened fault =>
      rw [stands]
      rcases fault with _ | ⟨_ | _ | _ | _, failure⟩ <;> rfl
  | serving => rw [stands]; rfl
  | closing cause deadline => rw [stands]; rfl
  | aborting cause => rw [stands]; rfl
  | pausing deadline => exact Over.count_opened stands
  | finished => exact Over.count_opened stands

theorem Over.handleThrough {attempt : Attempt} (ended : attempt.Over) :
    Act.handleThrough attempt.acts false = some false := by
  cases ended <;> rfl

/-- Acts are in order in every phase, and the phase tells whether they leave a
handle open. -/
theorem Stands.handleThrough {attempt : Attempt} {phase : Port.Phase}
    (stands : attempt.Stands phase) :
    Act.handleThrough attempt.acts false = some phase.handleOpen := by
  cases phase with
  | starting => exact stands.elim
  | opening => rw [stands]; rfl
  | opened fault =>
      rw [stands]
      rcases fault with _ | ⟨_ | _ | _ | _, failure⟩ <;> rfl
  | serving => rw [stands]; rfl
  | closing cause deadline => rw [stands]; rfl
  | aborting cause => rw [stands]; rfl
  | pausing deadline => exact Over.handleThrough stands
  | finished => exact Over.handleThrough stands

end Attempt

namespace Port

def answers? (port : Port σ) : Action → Option OpenFault
  | .answerOpen fault => if port.phase = .opening then some fault else none
  | _ => none

def ends? (port : Port σ) : Action → Option SessionEnd
  | .supervise =>
      match port.phase with
      | .opened none => port.installed.sessionEnd?
      | .serving => port.sessionEnd?
      | _ => none
  | _ => none

/-- What becomes of a port whose latest attempt is over, by its phase and its
number of attempts: it ends, it pauses, or it begins another attempt. -/
inductive Leaves (count : UInt64) : Phase → UInt64 → Prop where
  | finishes : Leaves count .finished count
  | pauses (deadline : Nat) : Leaves count (.pausing deadline) count
  | begins : Leaves count .opening (count + 1)

variable {port : Port σ}

theorem Begins.leaves {next : Port σ} (begins : port.Begins next) :
    Leaves port.attempts next.phase next.attempts := by
  cases begins with
  | finishes state => exact .finishes
  | opens => exact .begins

theorem Pauses.leaves {next : Port σ} {now : Nat}
    (pauses : port.Pauses now next) :
    Leaves port.attempts next.phase next.attempts := by
  cases pauses with
  | begins _ begins => exact begins.leaves
  | waits => exact .pauses _

theorem leaves_tearDown (port : Port σ) (now : Nat) (cause : SessionEnd) :
    Leaves port.attempts (port.tearDown now cause).phase
      (port.tearDown now cause).attempts := by
  cases cause with
  | cancelled => exact .finishes
  | disposed => exact .finishes
  | hardwareFault =>
      have torn : ∃ other : Port σ,
          port.tearDown now .hardwareFault = other.pause now ∧
            other.attempts = port.attempts := ⟨_, rfl, rfl⟩
      obtain ⟨other, same, known⟩ := torn
      rw [same, ← known]
      exact (pause_pauses other now).leaves

theorem handleActs_tearDown (port : Port σ) (now : Nat) (cause : SessionEnd) :
    (port.tearDown now cause).wire.handleActs =
      port.wire.handleActs ++ Attempt.tearDownActs cause := by
  cases cause with
  | cancelled =>
      simp [tearDown, close, record, finish, Wire.handleActs, Wire.record,
        Act.concernsHandle, Act.touchesLine, Attempt.tearDownActs]
  | disposed =>
      simp [tearDown, close, record, finish, Wire.handleActs, Wire.record,
        Act.concernsHandle, Act.touchesLine, Attempt.tearDownActs]
  | hardwareFault =>
      simp [tearDown, close, record, note, Wire.handleActs, Wire.record,
        Act.concernsHandle, Act.touchesLine, Attempt.tearDownActs]

inductive Phase.Ends (cause : SessionEnd) : Phase → Prop where
  | closing (deadline : Nat) : Ends cause (.closing cause deadline)
  | aborting : Ends cause (.aborting cause)

theorem awaitWorker_cases (port : Port σ) (now : Nat) (cause : SessionEnd)
    (deadline : Nat) :
    (port.worker.isStopped = true ∧
        port.awaitWorker now cause deadline = port.tearDown now cause) ∨
      ∃ phase, phase.Ends cause ∧
        port.awaitWorker now cause deadline = { port with phase := phase } := by
  unfold awaitWorker
  split
  case isTrue stopped => exact Or.inl ⟨stopped, rfl⟩
  case isFalse =>
      right
      split
      · exact ⟨_, .aborting, rfl⟩
      · exact ⟨_, .closing deadline, rfl⟩

theorem wire_awaitWorker_of_going (going : port.worker.isStopped = false)
    (now : Nat) (cause : SessionEnd) (deadline : Nat) :
    (port.awaitWorker now cause deadline).wire = port.wire := by
  rcases port.awaitWorker_cases now cause deadline with
    ⟨stopped, _⟩ | ⟨phase, _, same⟩
  · rw [going] at stopped
    cases stopped
  · rw [same]

theorem ends?_of_waits {now : Nat} (waits : port.Waits now) :
    port.ends? .supervise = none := by
  cases waits <;> simp [ends?, *]

theorem handleActs_cut (port : Port σ) :
    port.cut.wire.handleActs = port.wire.handleActs := by
  simp [cut, setRunning, record, disconnect, Wire.handleActs_record,
    Act.concernsHandle, Act.touchesLine]

theorem handleActs_installed (port : Port σ) :
    port.installed.wire.handleActs = port.wire.handleActs := by
  simp [installed, setRunning, record, Wire.handleActs, Wire.record,
    Act.concernsHandle, Act.touchesLine]

/-- When the line was opened in vain the port pauses. -/
theorem resume_of_fault (port : Port σ) (now : Nat) (stage : OpenStage)
    (failure : Failure) :
    ∃ other : Port σ,
      port.resume now (some (stage, failure)) = other.pause now ∧
      other.attempts = port.attempts ∧
      other.wire.handleActs = port.wire.handleActs ++
        Attempt.resumeActs (some (stage, failure)) := by
  cases stage with
  | «open» => exact ⟨_, rfl, rfl, (List.append_nil _).symm⟩
  | configure => exact ⟨_, rfl, rfl, (List.append_nil _).symm⟩
  | stream =>
      refine ⟨_, rfl, rfl, ?_⟩
      simp [note, close, record, Wire.handleActs_record, Act.concernsHandle,
        Act.touchesLine, Attempt.resumeActs]
  | listen =>
      refine ⟨_, rfl, rfl, ?_⟩
      simp [note, close, record, Wire.handleActs_record, Act.concernsHandle,
        Act.touchesLine, Attempt.resumeActs]

theorem resume_of_success (port : Port σ) (now : Nat) :
    ∃ ready : Port σ,
      port.resume now none = ready.checkSession now ∧
      ready.attempts = port.attempts ∧
      ready.wire.handleActs =
        port.wire.handleActs ++ Attempt.resumeActs none ∧
      ready.sessionEnd? = port.installed.sessionEnd? := by
  refine ⟨((port.record .streamed).record .listened).installed, rfl, rfl, ?_,
    rfl⟩
  rw [handleActs_installed]
  simp [record, Wire.handleActs_record, Act.concernsHandle, Act.touchesLine,
    Attempt.resumeActs]

theorem handleActs_answerOpen {port : Port σ} (opening : port.phase = .opening)
    (fault : OpenFault) :
    (port.answerOpen fault).wire.handleActs =
      port.wire.handleActs ++ Attempt.openActs fault := by
  rw [answerOpen, if_pos opening]
  rcases fault with _ | ⟨_ | _ | _ | _, failure⟩ <;>
    simp [close, record, Wire.handleActs_record, Act.concernsHandle,
      Act.touchesLine, Attempt.openActs]

theorem phase_answerOpen {port : Port σ} (opening : port.phase = .opening)
    (fault : OpenFault) : (port.answerOpen fault).phase = .opened fault := by
  rw [answerOpen, if_pos opening]

theorem attempts_answerOpen (port : Port σ) (fault : OpenFault) :
    (port.answerOpen fault).attempts = port.attempts := by
  unfold answerOpen
  split
  · rcases fault with _ | ⟨_ | _ | _ | _, failure⟩ <;> rfl
  · rfl

end Port

def Wire.Carries (wire other : Wire σ) : Prop :=
  ∃ acts, other.acts = acts ++ wire.acts ∧
    ∀ act ∈ acts, ∃ count, act = .written count ∨ act = .read count

namespace Wire

variable {wire other : Wire σ}

theorem Carries.of_acts (same : other.acts = wire.acts) :
    wire.Carries other :=
  ⟨[], same, nofun⟩

theorem Carries.handleActs (carries : wire.Carries other) :
    other.handleActs = wire.handleActs := by
  obtain ⟨acts, whole, carried⟩ := carries
  have other : acts.filter Act.concernsHandle = [] := by
    apply List.filter_eq_nil_iff.mpr
    intro act member
    obtain ⟨count, rfl | rfl⟩ := carried act member <;>
      simp [Act.concernsHandle, Act.touchesLine]
  rw [Wire.handleActs, Wire.handleActs, whole, List.filter_append, other,
    List.nil_append]

end Wire

theorem Exchange.Moves.carries {settings : PortSettings} {line : Line σ}
    {now : Nat} {request : Bytes} {wire : Wire σ} {phase : Phase}
    {result : Step σ}
    (moves : Moves settings line now request wire phase result) :
    wire.Carries result.wire := by
  cases moves with
  | flushes deadline _ =>
      refine ⟨[.written request.length], ?_, ?_⟩
      · simp [Step.wire, Wire.sent, Wire.record]
      · simp
  | finishes reply idle _ =>
      refine ⟨[.read reply.length], ?_, ?_⟩
      · simp [Step.wire, Wire.received, Wire.record]
      · simp
  | _ =>
      apply Wire.Carries.of_acts
      simp [Step.wire, Wire.clear, Wire.expired]

namespace Port

theorem carries_workerProgress (line : Line σ) (now : Nat) (port : Port σ) :
    port.wire.Carries (port.workerProgress line now).wire := by
  have still {wire : Wire σ} (same : wire = port.wire) :
      port.wire.Carries wire := by
    rw [same]
    exact Wire.Carries.of_acts rfl
  cases port.workTurn line now with
  | rests _ _ same => exact still same
  | stops _ _ _ same => exact still same
  | takes _ _ _ _ _ _ same => exact still same
  | proceeds command phase later _ _ step =>
      rw [← Exchange.Step.wire_of_goesOn step]
      exact (Exchange.step_moves port.settings line now command.request
        phase port.wire).carries
  | concludes command phase outcome wire _ _ step _ after =>
      have carries := (Exchange.step_moves port.settings line now
        command.request phase port.wire).carries
      rw [step] at carries
      rw [after]
      split
      · exact carries
      · exact carries
  | givesUp _ _ _ _ _ _ same => exact still same

theorem handleActs_dispose (port : Port σ) :
    port.dispose.wire.handleActs = port.wire.handleActs := by
  unfold dispose
  split
  · rfl
  · simp [setRunning, record, disconnect, Wire.handleActs_record,
      Act.concernsHandle, Act.touchesLine]

theorem attempts_dispose (port : Port σ) :
    port.dispose.attempts = port.attempts := by
  unfold dispose
  split <;> rfl

end Port

structure Chronicle (σ : Type) where
  port : Port σ
  attempts : List Attempt

namespace Chronicle

def fresh (settings : PortSettings) (reopenDelay : Nat) (state : σ) :
    Chronicle σ :=
  { port := Port.fresh settings reopenDelay state
    attempts := [] }

/-- Follow the port to what has become of it.  What was done to a handle in
between belongs to the latest attempt. -/
def follow (chronicle : Chronicle σ) (next : Port σ)
    (answer : Option OpenFault) (ending : Option SessionEnd) : Chronicle σ :=
  let acts :=
    next.wire.handleActs.drop chronicle.port.wire.handleActs.length
  let noted := chronicle.attempts.modifyHead fun attempt =>
    attempt.note answer ending acts
  { port := next
    attempts :=
      if next.attempts = chronicle.port.attempts then noted
      else Attempt.begin :: noted }

def perform (line : Line σ) (now : Nat) (action : Port.Action)
    (chronicle : Chronicle σ) : Chronicle σ :=
  chronicle.follow (chronicle.port.perform line now action)
    (chronicle.port.answers? action) (chronicle.port.ends? action)

def run (line : Line σ) (actions : List (Nat × Port.Action))
    (chronicle : Chronicle σ) : Chronicle σ :=
  actions.foldl (fun chronicle entry =>
    chronicle.perform line entry.1 entry.2) chronicle

theorem run_port (line : Line σ) (actions : List (Nat × Port.Action))
    (chronicle : Chronicle σ) :
    (chronicle.run line actions).port = chronicle.port.run line actions := by
  induction actions generalizing chronicle with
  | nil => rfl
  | cons entry actions induction =>
      exact induction (chronicle.perform line entry.1 entry.2)

/-- The attempts fit the phase of their port. -/
def Fits (phase : Port.Phase) : List Attempt → Prop
  | [] => phase = .starting ∨ phase = .finished
  | latest :: earlier =>
      latest.Stands phase ∧ ∀ attempt ∈ earlier, attempt.Over

/-- Nothing that was done to a handle is missing in the chronicle, and every
attempt but the latest one is over. -/
structure Complete (chronicle : Chronicle σ) : Prop where
  counted :
    UInt64.ofNat chronicle.attempts.length = chronicle.port.attempts
  joined : chronicle.port.wire.handleActs =
    chronicle.attempts.reverse.flatMap Attempt.acts
  fits : Fits chronicle.port.phase chronicle.attempts

theorem follow_eq {chronicle : Chronicle σ} {next : Port σ}
    {acts : List Act} (answer : Option OpenFault)
    (ending : Option SessionEnd)
    (done : next.wire.handleActs =
      chronicle.port.wire.handleActs ++ acts) :
    chronicle.follow next answer ending =
      { port := next
        attempts :=
          let noted := chronicle.attempts.modifyHead fun attempt =>
            attempt.note answer ending acts
          if next.attempts = chronicle.port.attempts then noted
          else Attempt.begin :: noted } := by
  rw [follow, done, List.drop_left]

namespace Complete

variable {chronicle : Chronicle σ} {next : Port σ}
  {answer : Option OpenFault} {ending : Option SessionEnd} {acts : List Act}

theorem latest (complete : chronicle.Complete) {phase : Port.Phase}
    (known : chronicle.port.phase = phase) (begun : phase ≠ .starting)
    (going : phase ≠ .finished) :
    ∃ latest earlier, chronicle.attempts = latest :: earlier ∧
      latest.Stands phase ∧ ∀ attempt ∈ earlier, attempt.Over := by
  have fits := complete.fits
  rw [known] at fits
  cases attempts : chronicle.attempts with
  | nil =>
      rw [attempts] at fits
      rcases fits with starting | finished
      · exact (begun starting).elim
      · exact (going finished).elim
  | cons latest earlier =>
      rw [attempts] at fits
      exact ⟨latest, earlier, rfl, fits.1, fits.2⟩

theorem keep (complete : chronicle.Complete)
    (phase : next.phase = chronicle.port.phase)
    (count : next.attempts = chronicle.port.attempts)
    (same : next.wire.handleActs = chronicle.port.wire.handleActs) :
    (chronicle.follow next none none).Complete := by
  have done : next.wire.handleActs =
      chronicle.port.wire.handleActs ++ [] := by
    rw [same, List.append_nil]
  have idle : ∀ attempts : List Attempt,
      attempts.modifyHead (fun attempt => attempt.note none none []) =
        attempts := by
    intro attempts
    cases attempts with
    | nil => rfl
    | cons latest earlier => simp [Attempt.note]
  rw [follow_eq none none done]
  simp only [count, if_true, idle]
  constructor
  · rw [count]
    exact complete.counted
  · rw [same]
    exact complete.joined
  · rw [phase]
    exact complete.fits

theorem goOn (complete : chronicle.Complete) {latest : Attempt}
    {earlier : List Attempt}
    (attempts : chronicle.attempts = latest :: earlier)
    (past : ∀ attempt ∈ earlier, attempt.Over)
    (count : next.attempts = chronicle.port.attempts)
    (done : next.wire.handleActs = chronicle.port.wire.handleActs ++ acts)
    (stands : (latest.note answer ending acts).Stands next.phase) :
    (chronicle.follow next answer ending).Complete := by
  rw [follow_eq answer ending done]
  simp only [count, if_true, attempts, List.modifyHead_cons]
  constructor
  · rw [count, ← complete.counted, attempts]
    rfl
  · rw [done, complete.joined, attempts]
    simp [Attempt.note]
  · exact ⟨stands, past⟩

theorem leave (complete : chronicle.Complete) {latest : Attempt}
    {earlier : List Attempt}
    (attempts : chronicle.attempts = latest :: earlier)
    (past : ∀ attempt ∈ earlier, attempt.Over)
    (leaves : Port.Leaves chronicle.port.attempts next.phase next.attempts)
    (done : next.wire.handleActs = chronicle.port.wire.handleActs ++ acts)
    (ended : (latest.note answer ending acts).Over) :
    (chronicle.follow next answer ending).Complete := by
  generalize phase : next.phase = later at leaves
  generalize count : next.attempts = number at leaves
  cases leaves with
  | finishes =>
      apply complete.goOn attempts past count done
      rw [phase]
      exact ended
  | pauses deadline =>
      apply complete.goOn attempts past count done
      rw [phase]
      exact ended
  | begins =>
      -- The acts belong to the attempt that is over, not to the one that the
      -- same action begins.
      have more : next.attempts ≠ chronicle.port.attempts := by
        simp [count]
      rw [follow_eq answer ending done]
      simp only [more, if_false, attempts, List.modifyHead_cons]
      constructor
      · rw [count, ← complete.counted, attempts]
        exact UInt64.ofNat_add _ 1
      · rw [done, complete.joined, attempts]
        simp [Attempt.note, Attempt.begin]
      · rw [phase]
        refine ⟨rfl, ?_⟩
        intro attempt member
        rcases List.mem_cons.mp member with rfl | earlier
        · exact ended
        · exact past attempt earlier

theorem nothing_done (complete : chronicle.Complete)
    (starting : chronicle.port.phase = .starting) :
    chronicle.attempts = [] := by
  have fits := complete.fits
  rw [starting] at fits
  cases attempts : chronicle.attempts with
  | nil => rfl
  | cons latest earlier =>
      rw [attempts] at fits
      exact fits.1.elim

theorem first (complete : chronicle.Complete)
    (nothing : chronicle.attempts = []) (begins : chronicle.port.Begins next) :
    (chronicle.follow next none none).Complete := by
  have counted := complete.counted
  have joined := complete.joined
  have done : next.wire.handleActs =
      chronicle.port.wire.handleActs ++ [] := by
    rw [begins.wire, List.append_nil]
  rw [follow_eq none none done, nothing]
  rw [nothing] at counted joined
  cases begins with
  | finishes state =>
      simp only [Port.finish, if_true, List.modifyHead_nil]
      exact ⟨counted, joined, Or.inr rfl⟩
  | opens =>
      have more : chronicle.port.attempts + 1 ≠ chronicle.port.attempts := by
        simp
      simp only [more, if_false, List.modifyHead_nil]
      exact ⟨congrArg (· + 1) counted, joined, rfl, nofun⟩

theorem await (complete : chronicle.Complete) {latest : Attempt}
    {earlier : List Attempt}
    (attempts : chronicle.attempts = latest :: earlier)
    (past : ∀ attempt ∈ earlier, attempt.Over) {port : Port σ}
    (count : port.attempts = chronicle.port.attempts)
    (done : port.wire.handleActs = chronicle.port.wire.handleActs ++ acts)
    {cause : SessionEnd}
    (noted : latest.note answer ending acts = .session (some cause))
    (now deadline : Nat) :
    (chronicle.follow (port.awaitWorker now cause deadline) answer
      ending).Complete := by
  rcases port.awaitWorker_cases now cause deadline with
    ⟨_, torn⟩ | ⟨phase, ends, same⟩
  · rw [torn]
    have leaves := port.leaves_tearDown now cause
    have ended := Attempt.over_of_tearDown cause
    have whole := Port.handleActs_tearDown port now cause
    rw [count] at leaves
    rw [← noted] at ended
    rw [done, List.append_assoc] at whole
    apply complete.leave attempts past leaves whole
    simpa [Attempt.note] using ended
  · rw [same]
    refine complete.goOn attempts past count done ?_
    rw [noted]
    cases ends with
    | closing deadline => rfl
    | aborting => rfl

theorem endSession (complete : chronicle.Complete) {latest : Attempt}
    {earlier : List Attempt}
    (attempts : chronicle.attempts = latest :: earlier)
    (past : ∀ attempt ∈ earlier, attempt.Over) {port : Port σ}
    (count : port.attempts = chronicle.port.attempts)
    (done : port.wire.handleActs = chronicle.port.wire.handleActs ++ acts)
    {cause : SessionEnd}
    (noted : latest.note none (some cause) acts = .session (some cause))
    (now : Nat) :
    (chronicle.follow (port.endSession now cause) none
      (some cause)).Complete := by
  have cut : port.cut.wire.handleActs =
      chronicle.port.wire.handleActs ++ acts := by
    rw [Port.handleActs_cut, done]
  have counted : port.cut.attempts = chronicle.port.attempts := count
  rw [Port.endSession_eq]
  exact complete.await attempts past counted cut noted now _

theorem serve (complete : chronicle.Complete)
    (opened : chronicle.port.phase = .opened none) (now : Nat) :
    (chronicle.follow (chronicle.port.resume now none) none
      chronicle.port.installed.sessionEnd?).Complete := by
  obtain ⟨latest, earlier, attempts, rfl, past⟩ :=
    complete.latest opened (by simp) (by simp)
  obtain ⟨ready, resumed, count, done, signals⟩ :=
    chronicle.port.resume_of_success now
  rw [resumed, ← signals]
  unfold Port.checkSession
  cases ends : ready.sessionEnd? with
  | none => exact complete.goOn attempts past count done rfl
  | some cause =>
      exact complete.endSession attempts past count done rfl now

theorem supervise (complete : chronicle.Complete) (now : Nat) :
    (chronicle.follow (chronicle.port.supervise now) none
      (chronicle.port.ends? .supervise)).Complete := by
  have supervises := chronicle.port.supervise_supervises now
  generalize chronicle.port.supervise now = next at supervises
  cases supervises with
  | waits waits =>
      rw [Port.ends?_of_waits waits]
      exact complete.keep rfl rfl rfl
  | begins _ idle begins =>
      have unended : chronicle.port.ends? .supervise = none := by
        rcases idle with starting | ⟨_, pausing, _⟩ <;>
          simp [Port.ends?, *]
      rw [unended]
      rcases idle with starting | ⟨deadline, pausing, _⟩
      · exact complete.first (complete.nothing_done starting) begins
      · obtain ⟨latest, earlier, attempts, stands, past⟩ :=
          complete.latest pausing (by simp) (by simp)
        have done : next.wire.handleActs =
            chronicle.port.wire.handleActs ++ [] := by
          rw [begins.wire, List.append_nil]
        apply complete.leave attempts past begins.leaves done
        simpa [Attempt.note, Attempt.Stands] using stands
  | resumes fault opened =>
      simp only [Port.ends?, opened]
      rcases fault with _ | ⟨stage, failure⟩
      · exact complete.serve opened now
      · -- Whatever failed, the attempt is over before the port pauses.
        obtain ⟨latest, earlier, attempts, rfl, past⟩ :=
          complete.latest opened (by simp) (by simp)
        obtain ⟨other, resumed, known, done⟩ :=
          chronicle.port.resume_of_fault now stage failure
        have pauses := other.pause_pauses now
        have leaves := pauses.leaves
        rw [known] at leaves
        rw [← pauses.wire] at done
        rw [resumed]
        apply complete.leave attempts past leaves done
        exact Attempt.over_of_resume stage failure
  | ends cause serving ends =>
      obtain ⟨latest, earlier, attempts, rfl, past⟩ :=
        complete.latest serving (by simp) (by simp)
      simp only [Port.ends?, serving, ends]
      exact complete.endSession attempts past rfl (List.append_nil _).symm
        rfl now
  | awaits cause deadline closing =>
      obtain ⟨latest, earlier, attempts, rfl, past⟩ :=
        complete.latest closing (by simp) (by simp)
      simp only [Port.ends?, closing]
      have noted : (Attempt.session (some cause)).note none none [] =
          .session (some cause) := rfl
      exact complete.await attempts past rfl (List.append_nil _).symm noted
        now deadline
  | tearsDown cause aborting _ =>
      obtain ⟨latest, earlier, attempts, rfl, past⟩ :=
        complete.latest aborting (by simp) (by simp)
      simp only [Port.ends?, aborting]
      exact complete.leave attempts past
        (chronicle.port.leaves_tearDown now cause)
        (chronicle.port.handleActs_tearDown now cause)
        (Attempt.over_of_tearDown cause)

theorem answerOpen (complete : chronicle.Complete) (fault : OpenFault) :
    (chronicle.follow (chronicle.port.answerOpen fault)
      (chronicle.port.answers? (.answerOpen fault)) none).Complete := by
  by_cases opening : chronicle.port.phase = .opening
  · obtain ⟨latest, earlier, attempts, rfl, past⟩ :=
      complete.latest opening (by simp) (by simp)
    simp only [Port.answers?, opening, if_true]
    apply complete.goOn attempts past
      (Port.attempts_answerOpen chronicle.port fault)
      (Port.handleActs_answerOpen opening fault)
    rw [Port.phase_answerOpen opening]
    rfl
  · simp only [Port.answers?, Port.answerOpen, opening, if_false]
    exact complete.keep rfl rfl rfl

theorem perform (complete : chronicle.Complete) (line : Line σ) (now : Nat)
    (action : Port.Action) : (chronicle.perform line now action).Complete := by
  cases action with
  | submit request =>
      apply complete.keep <;>
        rcases chronicle.port.submit_cases request with
          ⟨_, _, _, equality⟩ | equality <;>
        simp [Port.perform, equality]
  | abandon number => exact complete.keep rfl rfl rfl
  | cancel => exact complete.keep rfl rfl rfl
  | dispose =>
      exact complete.keep (Port.phase_dispose chronicle.port)
        (Port.attempts_dispose chronicle.port)
        (Port.handleActs_dispose chronicle.port)
  | raise event =>
      exact complete.keep rfl rfl (chronicle.port.wire.handleActs_hear event)
  | loseListener => exact complete.keep rfl rfl rfl
  | answerOpen fault => exact complete.answerOpen fault
  | supervise => exact complete.supervise now
  | work =>
      exact complete.keep rfl rfl
        (Port.carries_workerProgress line now chronicle.port).handleActs

theorem run (complete : chronicle.Complete) (line : Line σ)
    (actions : List (Nat × Port.Action)) :
    (chronicle.run line actions).Complete := by
  induction actions generalizing chronicle with
  | nil => exact complete
  | cons entry actions induction =>
      exact induction (complete.perform line entry.1 entry.2)

end Complete

theorem handleThrough_of_over {attempts : List Attempt}
    (ended : ∀ attempt ∈ attempts, attempt.Over) :
    Act.handleThrough (attempts.reverse.flatMap Attempt.acts) false =
      some false := by
  induction attempts with
  | nil => rfl
  | cons latest earlier induction =>
      obtain ⟨last, past⟩ := List.forall_mem_cons.mp ended
      rw [List.reverse_cons, List.flatMap_append, Act.handleThrough_append,
        induction past]
      simpa using last.handleThrough

theorem count_opened_of_over {attempts : List Attempt}
    (ended : ∀ attempt ∈ attempts, attempt.Over) :
    (attempts.reverse.flatMap Attempt.acts).count .opened =
      attempts.length := by
  induction attempts with
  | nil => rfl
  | cons latest earlier induction =>
      obtain ⟨last, past⟩ := List.forall_mem_cons.mp ended
      rw [List.reverse_cons, List.flatMap_append, List.count_append,
        induction past]
      simp [last.count_opened]

namespace Complete

variable {chronicle : Chronicle σ}

/-- What was done to handles is in order, and the phase tells whether one is
open. -/
theorem handleThrough (complete : chronicle.Complete) :
    Act.handleThrough chronicle.port.wire.handleActs false =
      some chronicle.port.phase.handleOpen := by
  have fits := complete.fits
  rw [complete.joined]
  cases attempts : chronicle.attempts with
  | nil =>
      rw [attempts] at fits
      rcases fits with starting | finished
      · rw [starting]
        rfl
      · rw [finished]
        rfl
  | cons latest earlier =>
      rw [attempts] at fits
      obtain ⟨stands, past⟩ := fits
      rw [List.reverse_cons, List.flatMap_append, Act.handleThrough_append,
        handleThrough_of_over past]
      simpa using stands.handleThrough

theorem count_opened (complete : chronicle.Complete)
    (answered : chronicle.port.phase ≠ .opening) :
    chronicle.port.wire.handleActs.count .opened =
      chronicle.attempts.length := by
  have fits := complete.fits
  rw [complete.joined]
  cases attempts : chronicle.attempts with
  | nil => rfl
  | cons latest earlier =>
      rw [attempts] at fits
      obtain ⟨stands, past⟩ := fits
      rw [List.reverse_cons, List.flatMap_append, List.count_append,
        count_opened_of_over past]
      simp [stands.count_opened answered]

end Complete

theorem complete_run (settings : PortSettings) (reopenDelay : Nat) (state : σ)
    (line : Line σ) (actions : List (Nat × Port.Action)) :
    ((fresh settings reopenDelay state).run line actions).Complete := by
  have first : (fresh settings reopenDelay state).Complete :=
    { counted := rfl
      joined := rfl
      fits := Or.inl rfl }
  exact first.run line actions

end Chronicle

namespace Port

theorem Disciplined.run {port : Port σ} (disciplined : port.Disciplined)
    (line : Line σ) (actions : List (Nat × Action)) :
    (port.run line actions).Disciplined := by
  induction actions generalizing port with
  | nil => exact disciplined
  | cons entry actions induction =>
      exact induction (disciplined.perform line entry.1 entry.2)

/-- While the worker has not stopped nothing is done to the handle. -/
theorem handleActs_perform_of_going {port : Port σ}
    (disciplined : port.Disciplined) (going : port.worker.stage ≠ .stopped)
    (line : Line σ) (now : Nat) (action : Action) :
    (port.perform line now action).wire.handleActs = port.wire.handleActs := by
  have inside := disciplined.inSession going
  have working : port.worker.isStopped = false := by
    simpa [Worker.isStopped] using going
  cases action with
  | submit request =>
      rcases port.submit_cases request with ⟨_, _, _, equality⟩ | equality <;>
        simp [perform, equality]
  | abandon number => rfl
  | cancel => rfl
  | dispose => exact handleActs_dispose port
  | raise event => exact port.wire.handleActs_hear event
  | loseListener => rfl
  | answerOpen fault =>
      have settled : port.phase ≠ .opening := by
        intro opening
        simp [opening, Phase.inSession] at inside
      simp only [perform, answerOpen, settled, if_false]
  | supervise =>
      -- A session is torn down only when its worker has stopped, so that the
      -- supervisor can do no more than wait for that.
      have supervises := port.supervise_supervises now
      rw [perform]
      generalize port.supervise now = next at supervises
      cases supervises with
      | waits => rfl
      | begins _ idle =>
          rcases idle with starting | ⟨deadline, pausing, _⟩ <;>
            simp [Phase.inSession, *] at inside
      | resumes fault opened => simp [opened, Phase.inSession] at inside
      | ends cause =>
          have still : port.cut.worker.isStopped = false := working
          rw [endSession_eq, wire_awaitWorker_of_going still, handleActs_cut]
      | awaits cause deadline =>
          rw [wire_awaitWorker_of_going working]
      | tearsDown cause _ stopped =>
          rw [working] at stopped
          cases stopped
  | work => exact (carries_workerProgress line now port).handleActs

end Port

end MeterLine
