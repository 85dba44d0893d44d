import MeterLine.Proofs.Port.Feed

/-!
# Standing of a port

What a port shows of itself is kept in separate places: whether it runs,
whether commands reach a worker, its state, its last error, whether it was
disposed of, and what was reported to whoever watches it.  The supervisor and
the disposal of the port both write to them, and a port may be disposed of
while its line is being opened.  Between any two actions these places agree.
-/

namespace MeterLine

namespace Act

def handleAfter : Act → Bool → Bool
  | .configured, _ => true
  | .closed, _ => false
  | _, before => before

def runningAfter : Act → Bool → Bool
  | .running value, _ => value
  | _, before => before

end Act

namespace Wire

/-- The line was configured, which is done as soon as its handle is open, and
the handle was not closed since. -/
def handleOpen (wire : Wire σ) : Bool :=
  wire.acts.foldr Act.handleAfter false

@[simp] theorem handleOpen_record (wire : Wire σ) (act : Act) :
    (wire.record act).handleOpen = act.handleAfter wire.handleOpen := rfl

@[simp] theorem running_record (wire : Wire σ) (act : Act) (name : String) :
    ((wire.record act).totals name).running =
      act.runningAfter (wire.totals name).running := by
  cases act <;>
    simp [totals, record, Ledger.note, Act.runningAfter, Ledger.running,
      Ledger.written, Ledger.read, Ledger.changePort, Ledger.port,
      Ledger.find_change]

/-- Two wires show the same of their handle and of the running of the port. -/
structure Marked (wire other : Wire σ) : Prop where
  handle : other.handleOpen = wire.handleOpen
  running : ∀ name,
    (other.totals name).running = (wire.totals name).running

@[simp] theorem acts_hear (wire : Wire σ) (event : PortEvent) :
    (wire.hear event).acts = wire.acts := by
  unfold hear
  split
  · cases event <;> rfl
  · rfl

@[simp] theorem acts_take (wire : Wire σ) (answer : LineAnswer σ α) :
    (wire.take answer).acts = wire.acts := by
  have folded : ∀ (events : List PortEvent) (other : Wire σ),
      (events.foldl hear other).acts = other.acts := by
    intro events
    induction events with
    | nil => exact fun _ => rfl
    | cons event events induction =>
        intro other
        rw [List.foldl_cons, induction, acts_hear]
  exact folded answer.events { wire with line := answer.line }

theorem Marked.of_acts {wire other : Wire σ}
    (same : other.acts = wire.acts) : Marked wire other := by
  constructor
  · simp [handleOpen, same]
  · intro name
    simp [totals, same]

theorem Marked.record {wire other : Wire σ} (marked : Marked wire other)
    (act : Act) (handle : ∀ before, act.handleAfter before = before)
    (running : ∀ before, act.runningAfter before = before) :
    Marked wire (other.record act) := by
  constructor
  · rw [handleOpen_record, handle, marked.handle]
  · intro name
    rw [running_record, running, marked.running]

end Wire

namespace Exchange

theorem Moves.marked {settings : PortSettings} {line : Line σ} {now : Nat}
    {request : Bytes} {wire : Wire σ} {phase : Phase} {result : Step σ}
    (moves : Moves settings line now request wire phase result) :
    Wire.Marked wire result.wire := by
  cases moves with
  | flushes deadline _ =>
      have taken := Wire.Marked.of_acts
        (wire.acts_take (line.flush now wire.line))
      have sent := taken.record (.written request.length)
        (fun _ => rfl) (fun _ => rfl)
      exact ⟨sent.handle, sent.running⟩
  | finishes reply idle _ =>
      have read := (Wire.Marked.of_acts (Eq.refl wire.acts)).record
        (.read reply.length) (fun _ => rfl) (fun _ => rfl)
      exact ⟨read.handle, read.running⟩
  | _ =>
      apply Wire.Marked.of_acts
      simp [Step.wire, Wire.clear, Wire.expired]

end Exchange

namespace Port

/-- What a port shows of itself, and the handle and the phase behind it. -/
structure Face where
  phase : Phase
  state : PortState
  running : Bool
  connected : Bool
  disposed : Bool
  disposeSignal : Bool
  lastError : Option LastError
  handleOpen : Bool
  reported : Bool

def face (port : Port σ) : Face :=
  { phase := port.phase
    state := port.state
    running := port.running
    connected := port.connected
    disposed := port.disposed
    disposeSignal := port.disposeSignal
    lastError := port.lastError
    handleOpen := port.wire.handleOpen
    reported := (port.wire.totals port.settings.name).running }

namespace Face

structure Serves (face : Face) : Prop where
  phase : face.phase = .serving
  state : face.state = .running
  running : face.running = true
  connected : face.connected = true
  reported : face.reported = true
  inUse : face.disposed = false
  faultless : face.lastError = none
  handleOpen : face.handleOpen = true

/-- No session runs, and a port that was disposed of knows it. -/
structure Rests (face : Face) : Prop where
  running : face.running = false
  connected : face.connected = false
  reported : face.reported = false
  signalled : face.disposed = true → face.disposeSignal = true

/-- What a phase tells of the handle and of the latest trouble. -/
def Tells (face : Face) (trouble : Option String) : Prop :=
  match face.phase with
  | .opened none => face.handleOpen = true
  | .opened (some (_, failure)) => trouble = some (openTrouble failure)
  | .closing .hardwareFault _ => trouble = some "hardware error"
  | .aborting .hardwareFault => trouble = some "hardware error"
  | .pausing _ =>
      ∃ error, face.lastError = some error ∧ trouble = some error.message
  | _ => True

/-- The parts of what a port shows agree. -/
structure Agrees (face : Face) (trouble : Option String) : Prop where
  session : face.Serves ∨ face.Rests
  tells : face.Tells trouble
  faulted : face.state = .faulted → ∃ deadline, face.phase = .pausing deadline

end Face

/-- The trouble that an action brings: the line cannot be opened, or the
session that runs has to end because of the hardware. -/
def trouble? (port : Port σ) : Action → Option String
  | .answerOpen (some (_, failure)) =>
      if port.phase = .opening then some (openTrouble failure) else none
  | .supervise =>
      if port.phase = .serving ∧ port.sessionEnd? = some .hardwareFault then
        some "hardware error"
      else none
  | _ => none

/-- The latest trouble after a run, given that of the time before. -/
def latestTrouble (line : Line σ) :
    List (Nat × Action) → Option String → Port σ → Option String
  | [], trouble, _ => trouble
  | (now, action) :: later, trouble, port =>
      latestTrouble line later ((port.trouble? action).or trouble)
        (port.perform line now action)

namespace Face

variable {face : Face} {trouble : Option String}

theorem Rests.move (rests : face.Rests) (phase : Phase) (state : PortState) :
    Rests { face with phase := phase, state := state } :=
  ⟨rests.running, rests.connected, rests.reported, rests.signalled⟩

/-- Without a session only the phase has to agree with the trouble. -/
theorem Rests.agrees (rests : face.Rests) {phase : Phase} {state : PortState}
    (tells : Tells { face with phase := phase, state := state } trouble)
    (calm : state ≠ .faulted) :
    Agrees { face with phase := phase, state := state } trouble := by
  constructor
  · exact Or.inr (rests.move phase state)
  · exact tells
  · intro faulted
    exact (calm faulted).elim

end Face

variable {port next : Port σ} {trouble : Option String} {now : Nat}
  {cause : SessionEnd}

theorem agrees_finish (rests : port.face.Rests) {state : PortState}
    (calm : state ≠ .faulted) : (port.finish state).face.Agrees trouble :=
  rests.agrees trivial calm

theorem Begins.agrees (begins : port.Begins next)
    (rests : port.face.Rests) : next.face.Agrees trouble := by
  cases begins with
  | finishes state signalled =>
      apply agrees_finish rests
      rcases signalled with ⟨rfl, _⟩ | ⟨rfl, _⟩ <;> decide
  | opens => exact rests.agrees trivial nofun

theorem Pauses.agrees (pauses : port.Pauses now next)
    (rests : port.face.Rests) {error : LastError}
    (noted : port.lastError = some error)
    (latest : trouble = some error.message) : next.face.Agrees trouble := by
  cases pauses with
  | begins _ begins => exact begins.agrees rests
  | waits =>
      constructor
      · exact Or.inr (rests.move _ .faulted)
      · exact ⟨error, noted, latest⟩
      · intro _
        exact ⟨_, rfl⟩

theorem rests_note (rests : port.face.Rests) (message : String) :
    (port.note now message).face.Rests :=
  ⟨rests.running, rests.connected, rests.reported, rests.signalled⟩

theorem rests_record (rests : port.face.Rests) (act : Act)
    (silent : ∀ before, act.runningAfter before = before) :
    (port.record act).face.Rests := by
  constructor
  · exact rests.running
  · exact rests.connected
  · simpa [face, record, silent] using rests.reported
  · exact rests.signalled

theorem agrees_openFailed (rests : port.face.Rests) {failure : Failure}
    (latest : trouble = some (openTrouble failure)) :
    (port.openFailed now failure).face.Agrees trouble :=
  (pause_pauses _ now).agrees (rests_note rests _) rfl latest

theorem rests_unheard (rests : port.face.Rests) :
    ({ port with wire := { port.wire with listening := false } } :
      Port σ).face.Rests :=
  ⟨rests.running, rests.connected, rests.reported, rests.signalled⟩

theorem agrees_tearDown (rests : port.face.Rests)
    (latest : cause = .hardwareFault → trouble = some "hardware error") :
    (port.tearDown now cause).face.Agrees trouble := by
  have deaf := rests_unheard (rests_record rests .unlistened fun _ => rfl)
  have closed := rests_record deaf .closed fun _ => rfl
  have cleaned := rests_record closed .cleaned fun _ => rfl
  cases cause with
  | cancelled => exact agrees_finish cleaned (by decide)
  | disposed => exact agrees_finish closed (by decide)
  | hardwareFault =>
      exact (pause_pauses _ now).agrees (rests_note cleaned _) rfl (latest rfl)

theorem agrees_awaitWorker (rests : port.face.Rests)
    (calm : port.state ≠ .faulted)
    (latest : cause = .hardwareFault → trouble = some "hardware error")
    (deadline : Nat) :
    (port.awaitWorker now cause deadline).face.Agrees trouble := by
  unfold awaitWorker
  split
  · exact agrees_tearDown rests latest
  · split
    · apply rests.agrees _ calm
      cases cause with
      | cancelled => trivial
      | disposed => trivial
      | hardwareFault => exact latest rfl
    · apply rests.agrees _ calm
      cases cause with
      | cancelled => trivial
      | disposed => trivial
      | hardwareFault => exact latest rfl

theorem rests_cut
    (signalled : port.disposed = true → port.disposeSignal = true) :
    port.cut.face.Rests := by
  constructor
  · rfl
  · rfl
  · simp [face, cut, setRunning, record, disconnect, Act.runningAfter]
  · exact signalled

theorem agrees_endSession
    (signalled : port.disposed = true → port.disposeSignal = true)
    (calm : port.state ≠ .faulted)
    (latest : cause = .hardwareFault → trouble = some "hardware error") :
    (port.endSession now cause).face.Agrees trouble := by
  rw [endSession_eq]
  exact agrees_awaitWorker (rests_cut signalled) calm latest _

theorem agrees_serve (rests : port.face.Rests)
    (handleOpen : port.wire.handleOpen = true) :
    (port.serve now).face.Agrees trouble := by
  -- The port may have been disposed of while its line was being opened; the
  -- session is then installed and cut off again in the same turn.
  have signals : port.installed.sessionEnd? =
      if port.cancelSignal then some .cancelled
      else if port.disposeSignal then some .disposed
      else none := rfl
  rw [serve_eq]
  unfold checkSession
  rw [signals]
  have cut : ∀ cause, cause ≠ SessionEnd.hardwareFault →
      (port.installed.endSession now cause).face.Agrees trouble := by
    intro cause other
    have calm : port.installed.state ≠ .faulted := nofun
    exact agrees_endSession rests.signalled calm fun same =>
      (other same).elim
  by_cases cancelled : port.cancelSignal = true
  · rw [if_pos cancelled]
    exact cut .cancelled nofun
  · rw [if_neg cancelled]
    by_cases disposed : port.disposeSignal = true
    · rw [if_pos disposed]
      exact cut .disposed nofun
    · rw [if_neg disposed]
      constructor
      · left
        constructor
        · rfl
        · rfl
        · rfl
        · rfl
        · simp [face, installed, setRunning, record, Act.runningAfter]
        · apply Bool.eq_false_iff.mpr
          intro already
          exact disposed (rests.signalled already)
        · rfl
        · exact handleOpen
      · trivial
      · intro faulted
        cases faulted

theorem agrees_resume (rests : port.face.Rests) {fault : OpenFault}
    (opened : fault = none → port.wire.handleOpen = true)
    (failed : ∀ stage failure, fault = some (stage, failure) →
      trouble = some (openTrouble failure)) :
    (port.resume now fault).face.Agrees trouble := by
  have streamed := rests_record rests .streamed fun _ => rfl
  have listened := rests_record streamed .listened fun _ => rfl
  cases fault with
  | none => exact agrees_serve listened (opened rfl)
  | some fault =>
      obtain ⟨stage, failure⟩ := fault
      have latest := failed stage failure rfl
      cases stage with
      | «open» => exact agrees_openFailed rests latest
      | configure => exact agrees_openFailed rests latest
      | stream =>
          exact agrees_openFailed
            (rests_record streamed .closed fun _ => rfl) latest
      | listen =>
          exact agrees_openFailed
            (rests_record listened .closed fun _ => rfl) latest

theorem Face.Agrees.rests {face : Face} (agrees : face.Agrees trouble)
    (idle : face.phase ≠ .serving) : face.Rests := by
  rcases agrees.session with serves | rests
  · exact (idle serves.phase).elim
  · exact rests

theorem Face.Agrees.calm {face : Face} (agrees : face.Agrees trouble)
    (busy : ∀ deadline, face.phase ≠ .pausing deadline) :
    face.state ≠ .faulted := by
  intro faulted
  obtain ⟨deadline, pausing⟩ := agrees.faulted faulted
  exact busy deadline pausing

theorem Face.Agrees.signalled {face : Face} (agrees : face.Agrees trouble) :
    face.disposed = true → face.disposeSignal = true := by
  intro disposed
  rcases agrees.session with serves | rests
  · rw [serves.inUse] at disposed
    cases disposed
  · exact rests.signalled disposed

theorem agrees_supervise (agrees : port.face.Agrees trouble) (now : Nat) :
    (port.supervise now).face.Agrees
      ((port.trouble? .supervise).or trouble) := by
  have tells := agrees.tells
  have supervises := port.supervise_supervises now
  generalize port.supervise now = next at supervises
  cases supervises with
  | waits waits =>
      have nothing : port.trouble? .supervise = none := by
        cases waits <;> simp [trouble?, *]
      rw [nothing]
      exact agrees
  | begins _ idle begins =>
      apply begins.agrees
      apply agrees.rests
      rcases idle with starting | ⟨deadline, pausing, _⟩ <;> simp [face, *]
  | resumes fault opened =>
      have rests := agrees.rests (by simp [face, opened])
      simp only [face, Face.Tells, opened] at tells
      apply agrees_resume rests
      · rintro rfl
        exact tells
      · rintro stage failure rfl
        simpa [trouble?, opened] using tells
  | ends cause serving ends =>
      apply agrees_endSession agrees.signalled
      · exact agrees.calm (by simp [face, serving])
      · rintro rfl
        simp [trouble?, serving, ends]
  | awaits cause deadline closing =>
      have rests := agrees.rests (by simp [face, closing])
      simp only [face, Face.Tells, closing] at tells
      apply agrees_awaitWorker rests
      · exact agrees.calm (by simp [face, closing])
      · rintro rfl
        simpa [trouble?, closing] using tells
  | tearsDown cause aborting _ =>
      have rests := agrees.rests (by simp [face, aborting])
      simp only [face, Face.Tells, aborting] at tells
      apply agrees_tearDown rests
      rintro rfl
      simpa [trouble?, aborting] using tells

theorem agrees_dispose (agrees : port.face.Agrees trouble) :
    port.dispose.face.Agrees trouble := by
  unfold dispose
  split
  · exact agrees
  · constructor
    · right
      constructor
      · rfl
      · rfl
      · simp [face, setRunning, record, disconnect, Act.runningAfter]
      · intro _
        rfl
    · exact agrees.tells
    · exact agrees.faulted

theorem agrees_answerOpen (agrees : port.face.Agrees trouble)
    (fault : OpenFault) :
    (port.answerOpen fault).face.Agrees
      ((port.trouble? (.answerOpen fault)).or trouble) := by
  unfold answerOpen
  split
  case isFalse otherwise =>
      have unchanged : (port.trouble? (.answerOpen fault)).or trouble =
          trouble := by
        cases fault <;> simp [trouble?, otherwise]
      rw [unchanged]
      exact agrees
  case isTrue opening =>
      have calm := agrees.calm (by simp [face, opening])
      have opened := rests_record (agrees.rests (by simp [face, opening]))
        .opened fun _ => rfl
      have configured := rests_record opened .configured fun _ => rfl
      have closed := rests_record configured .closed fun _ => rfl
      cases fault with
      | none => exact configured.agrees rfl calm
      | some fault =>
          obtain ⟨stage, failure⟩ := fault
          have latest : (port.trouble?
              (.answerOpen (some (stage, failure)))).or trouble =
                some (openTrouble failure) := by
            simp [trouble?, opening]
          cases stage with
          | «open» => exact opened.agrees latest calm
          | configure => exact closed.agrees latest calm
          | stream => exact configured.agrees latest calm
          | listen => exact configured.agrees latest calm

theorem marked_workerProgress (line : Line σ) (now : Nat) (port : Port σ) :
    Wire.Marked port.wire (port.workerProgress line now).wire := by
  have same : ∀ {wire : Wire σ}, wire = port.wire →
      Wire.Marked port.wire wire := by
    rintro wire rfl
    exact Wire.Marked.of_acts rfl
  cases port.workTurn line now with
  | rests _ _ still => exact same still
  | stops _ _ _ still => exact same still
  | takes _ _ _ _ _ _ still => exact same still
  | proceeds command phase later _ _ step =>
      rw [← Exchange.Step.wire_of_goesOn step]
      exact (Exchange.step_moves port.settings line now command.request
        phase port.wire).marked
  | concludes command phase outcome wire _ _ step _ after =>
      have marked := (Exchange.step_moves port.settings line now
        command.request phase port.wire).marked
      rw [step] at marked
      rw [after]
      split
      · exact ⟨marked.handle, marked.running⟩
      · exact ⟨marked.handle, marked.running⟩
  | givesUp _ _ _ _ _ _ still => exact same still

theorem face_work (line : Line σ) (now : Nat) (port : Port σ) :
    (port.work line now).face = port.face := by
  have marked := marked_workerProgress line now port
  simp only [face, work, advance, deliver, marked.handle,
    marked.running port.settings.name]

theorem face_submit (port : Port σ) (request : Bytes) :
    (port.submit request).1.face = port.face := by
  rcases submit_cases port request with ⟨_, _, _, equality⟩ | equality
  · rw [equality]
    rfl
  · rw [equality]
    rfl

theorem face_raise (port : Port σ) (event : PortEvent) :
    ({ port with wire := port.wire.hear event } : Port σ).face =
      port.face := by
  have marked := Wire.Marked.of_acts (port.wire.acts_hear event)
  simp only [face, marked.handle, marked.running port.settings.name]

/-- Every action keeps the parts of what a port shows in agreement. -/
theorem agrees_perform (agrees : port.face.Agrees trouble) (line : Line σ)
    (now : Nat) (action : Action) :
    (port.perform line now action).face.Agrees
      ((port.trouble? action).or trouble) := by
  cases action with
  | submit request =>
      have shown := face_submit port request
      rw [perform, shown]
      exact agrees
  | abandon number => exact agrees
  | cancel => exact agrees
  | dispose => exact agrees_dispose agrees
  | raise event =>
      rw [perform, face_raise]
      exact agrees
  | loseListener => exact agrees
  | answerOpen fault => exact agrees_answerOpen agrees fault
  | supervise => exact agrees_supervise agrees now
  | work =>
      rw [perform, face_work]
      exact agrees

theorem agrees_run (line : Line σ) (actions : List (Nat × Action)) :
    ∀ {port : Port σ} {trouble : Option String},
      port.face.Agrees trouble →
        (port.run line actions).face.Agrees
          (latestTrouble line actions trouble port) := by
  induction actions with
  | nil => exact fun agrees => agrees
  | cons entry actions induction =>
      intro port trouble agrees
      exact induction (agrees_perform agrees line entry.1 entry.2)

theorem agrees_fresh (settings : PortSettings) (reopenDelay : Nat)
    (state : σ) :
    (Port.fresh settings reopenDelay state).face.Agrees none := by
  constructor
  · right
    constructor
    · rfl
    · rfl
    · rfl
    · intro disposed
      cases disposed
  · trivial
  · intro faulted
    cases faulted

theorem health_status (port : Port σ) :
    port.health.status =
      if port.running then .up
      else if port.disposed then .down
      else .outOfService := by
  unfold health
  split
  · rfl
  · split
    · rfl
    · split <;> rfl

/-- Whatever happened to a port and in which order: it runs if and only if
commands reach its worker, and that is what was reported last; while it runs
it is known to, has no error, was not disposed of, and its handle is open; when
it waits to be opened again its last error is its latest trouble; and its
health follows from whether it runs and whether it was disposed of. -/
theorem parts_agree (settings : PortSettings) (reopenDelay : Nat) (state : σ)
    (line : Line σ) (actions : List (Nat × Action)) :
    let first := Port.fresh settings reopenDelay state
    let port := first.run line actions
    (port.running = true ↔ port.connected = true) ∧
    (port.running = true → port.state = .running ∧ port.lastError = none ∧
      port.disposed = false ∧ port.wire.handleOpen = true) ∧
    (port.wire.totals port.settings.name).running = port.running ∧
    (port.state = .faulted → ∃ error, port.lastError = some error ∧
      latestTrouble line actions none first = some error.message) ∧
    (port.health.status = .up ↔ port.running = true) ∧
    (port.health.status = .down ↔ port.disposed = true) ∧
    (port.health.status = .outOfService ↔
      port.running = false ∧ port.disposed = false) := by
  intro first port
  have agrees : port.face.Agrees (latestTrouble line actions none first) :=
    agrees_run line actions (agrees_fresh settings reopenDelay state)
  have troubled : port.state = .faulted → ∃ error,
      port.lastError = some error ∧
        latestTrouble line actions none first = some error.message := by
    intro faulted
    obtain ⟨deadline, pausing⟩ := agrees.faulted faulted
    have tells := agrees.tells
    rw [Face.Tells, pausing] at tells
    exact tells
  rw [health_status]
  rcases agrees.session with serves | rests
  · have running : port.running = true := serves.running
    have connected : port.connected = true := serves.connected
    have inUse : port.disposed = false := serves.inUse
    have reported : (port.wire.totals port.settings.name).running = true :=
      serves.reported
    refine ⟨?_, ?_, ?_, troubled, ?_⟩
    · simp [running, connected]
    · intro _
      exact ⟨serves.state, serves.faultless, inUse, serves.handleOpen⟩
    · rw [reported, running]
    · simp [running, inUse]
  · have stopped : port.running = false := rests.running
    have disconnected : port.connected = false := rests.connected
    have reported : (port.wire.totals port.settings.name).running = false :=
      rests.reported
    refine ⟨?_, ?_, ?_, troubled, ?_⟩
    · simp [stopped, disconnected]
    · intro running
      rw [stopped] at running
      cases running
    · rw [reported, stopped]
    · cases disposed : port.disposed <;> simp [stopped]

example :
    let port := (Port.fresh (PortSettings.named "p") 0 EchoLine.fresh).run
      EchoLine.interface
      [(0, .supervise), (0, .dispose), (1, .answerOpen none), (1, .supervise)]
    port.running = false ∧ port.phase = .closing .disposed 6001 ∧
      port.wire.acts.reverse =
        [.running false, .opened, .configured, .streamed, .listened,
          .running true, .running false] := by
  decide

end Port

end MeterLine
