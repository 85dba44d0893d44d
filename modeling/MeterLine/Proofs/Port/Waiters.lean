import MeterLine.Proofs.Port.Handles

/-!
# Those who wait for a port

Some callers wait for a port to run, others for its supervisor to finish.  The
former look at the state of the port, which says that it runs as long as a
session is in progress, although a session that was cut off may still be in
progress for the whole time of its command in hand.  Of the latter only the
first one waits, and whoever comes after it returns at once.
-/

namespace MeterLine

namespace Wire

def starts (wire : Wire σ) : Nat :=
  wire.acts.count (.running true)

variable {wire other : Wire σ}

theorem starts_of_acts (same : other.acts = wire.acts) :
    other.starts = wire.starts := by
  rw [starts, starts, same]

@[simp] theorem starts_record (wire : Wire σ) (act : Act) :
    (wire.record act).starts =
      wire.starts + if act = .running true then 1 else 0 := by
  simp [starts, record, List.count_cons]

theorem Carries.starts (carries : wire.Carries other) :
    other.starts = wire.starts := by
  obtain ⟨acts, whole, carried⟩ := carries
  have none : acts.count (.running true) = 0 := by
    apply List.count_eq_zero_of_not_mem
    intro member
    obtain ⟨count, same | same⟩ := carried _ member
    · cases same
    · cases same
  rw [Wire.starts, Wire.starts, whole, List.count_append, none, Nat.zero_add]

end Wire

namespace Port

theorem starts_tearDown (port : Port σ) (now : Nat) (cause : SessionEnd) :
    (port.tearDown now cause).wire.starts = port.wire.starts := by
  cases cause <;>
    simp [tearDown, close, record, finish, note, Wire.starts, Wire.record]

theorem starts_awaitWorker (port : Port σ) (now : Nat) (cause : SessionEnd)
    (deadline : Nat) :
    (port.awaitWorker now cause deadline).wire.starts = port.wire.starts := by
  rcases port.awaitWorker_cases now cause deadline with
    ⟨_, torn⟩ | ⟨phase, _, waits⟩
  · rw [torn, starts_tearDown]
  · rw [waits]

theorem starts_endSession (port : Port σ) (now : Nat) (cause : SessionEnd) :
    (port.endSession now cause).wire.starts = port.wire.starts := by
  rw [endSession_eq, starts_awaitWorker]
  simp [cut, setRunning, record, disconnect]

theorem starts_resume (port : Port σ) (now : Nat) (fault : OpenFault) :
    (port.resume now fault).wire.starts =
      port.wire.starts + if fault = none then 1 else 0 := by
  rcases fault with _ | ⟨stage, failure⟩
  · have resumed : port.resume now none =
        ((port.record .streamed).record .listened).installed.checkSession
          now := rfl
    have installed :
        ((port.record .streamed).record .listened).installed.wire.starts =
          port.wire.starts + 1 := by
      simp [Port.installed, setRunning, record, Wire.starts, Wire.record]
    rw [resumed, checkSession]
    split
    · rw [starts_endSession, installed]
      rfl
    · exact installed
  · cases stage <;>
      simp [resume, openFailed, note, close, record, Wire.starts,
        Wire.record]

theorem starts_supervise (port : Port σ) (now : Nat) :
    (port.supervise now).wire.starts =
      port.wire.starts + if port.phase = .opened none then 1 else 0 := by
  have supervises := port.supervise_supervises now
  generalize port.supervise now = next at supervises
  cases supervises with
  | waits waits => cases waits <;> simp [*]
  | begins _ idle begins =>
      rw [begins.wire]
      rcases idle with starting | ⟨deadline, pausing, _⟩ <;> simp [*]
  | resumes fault opened =>
      rw [starts_resume]
      cases fault <;> simp [opened]
  | ends cause serving => simp [starts_endSession, serving]
  | awaits cause deadline closing => simp [starts_awaitWorker, closing]
  | tearsDown cause aborting => simp [starts_tearDown, aborting]

theorem starts_perform (line : Line σ) (now : Nat) (action : Action)
    (port : Port σ) :
    (port.perform line now action).wire.starts =
      port.wire.starts + if port.beginsSession action then 1 else 0 := by
  cases action with
  | submit request =>
      rcases port.submit_cases request with ⟨_, _, _, equality⟩ | equality <;>
        simp [perform, equality, beginsSession]
  | abandon number => rfl
  | cancel => rfl
  | dispose =>
      simp only [perform, dispose]
      split
      · rfl
      · simp [setRunning, record, disconnect, beginsSession]
  | raise event => exact Wire.starts_of_acts (port.wire.acts_hear event)
  | loseListener => rfl
  | answerOpen fault =>
      simp only [perform, answerOpen]
      split
      · rcases fault with _ | ⟨_ | _ | _ | _, failure⟩ <;>
          simp [close, record, beginsSession]
      · rfl
  | supervise => simp [perform, starts_supervise, beginsSession]
  | work => exact (carries_workerProgress line now port).starts

/-- The state says that the port runs as long as a session is in progress, and
only a port that was disposed of does not run while its session serves. -/
structure Face.Shows (face : Face) : Prop where
  state : face.state = .running ↔ face.phase.inSession = true
  serving : face.phase = .serving → face.running = true ∨ face.disposed = true

variable {port : Port σ}

theorem Face.Shows.outside {face : Face}
    (outside : face.phase.inSession = false) (still : face.state ≠ .running) :
    face.Shows := by
  constructor
  · simp [outside, still]
  · intro serving
    rw [serving] at outside
    cases outside

theorem shows_finish (port : Port σ) {state : PortState}
    (still : state ≠ .running) : (port.finish state).face.Shows :=
  .outside rfl still

theorem Begins.shows {next : Port σ} (begins : port.Begins next) :
    next.face.Shows := by
  cases begins with
  | finishes state signalled =>
      apply shows_finish
      rcases signalled with ⟨rfl, _⟩ | ⟨rfl, _⟩ <;> decide
  | opens => exact .outside rfl nofun

theorem Pauses.shows {next : Port σ} {now : Nat}
    (pauses : port.Pauses now next) : next.face.Shows := by
  cases pauses with
  | begins _ begins => exact begins.shows
  | waits => exact .outside rfl nofun

theorem shows_tearDown (port : Port σ) (now : Nat) (cause : SessionEnd) :
    (port.tearDown now cause).face.Shows := by
  cases cause with
  | cancelled => exact shows_finish _ (by decide)
  | disposed => exact shows_finish _ (by decide)
  | hardwareFault => exact (pause_pauses _ now).shows

theorem shows_awaitWorker (known : port.state = .running) (now : Nat)
    (cause : SessionEnd) (deadline : Nat) :
    (port.awaitWorker now cause deadline).face.Shows := by
  rcases port.awaitWorker_cases now cause deadline with
    ⟨_, torn⟩ | ⟨phase, ends, waits⟩
  · rw [torn]
    exact shows_tearDown port now cause
  · rw [waits]
    cases ends with
    | closing deadline => exact ⟨iff_of_true known rfl, nofun⟩
    | aborting => exact ⟨iff_of_true known rfl, nofun⟩

theorem shows_endSession (known : port.state = .running) (now : Nat)
    (cause : SessionEnd) : (port.endSession now cause).face.Shows := by
  have kept : port.cut.state = .running := known
  rw [endSession_eq]
  exact shows_awaitWorker kept now cause _

theorem shows_resume (port : Port σ) (now : Nat) (fault : OpenFault) :
    (port.resume now fault).face.Shows := by
  rcases fault with _ | ⟨stage, failure⟩
  · have resumed : port.resume now none =
        ((port.record .streamed).record .listened).installed.checkSession
          now := rfl
    rw [resumed, checkSession]
    split
    · exact shows_endSession rfl now _
    · exact ⟨iff_of_true rfl rfl, fun _ => Or.inl rfl⟩
  · obtain ⟨other, same, _⟩ := port.resume_of_fault now stage failure
    rw [same]
    exact (pause_pauses other now).shows

theorem shows_supervise (shows : port.face.Shows) (now : Nat) :
    (port.supervise now).face.Shows := by
  have inside : port.phase.inSession = true → port.state = .running :=
    shows.state.mpr
  have supervises := port.supervise_supervises now
  generalize port.supervise now = next at supervises
  cases supervises with
  | waits => exact shows
  | begins _ _ begins => exact begins.shows
  | resumes fault => exact shows_resume port now fault
  | ends cause serving =>
      exact shows_endSession (inside (by simp [serving, Phase.inSession])) now
        cause
  | awaits cause deadline closing =>
      exact shows_awaitWorker (inside (by simp [closing, Phase.inSession]))
        now cause deadline
  | tearsDown cause => exact shows_tearDown port now cause

theorem shows_answerOpen (shows : port.face.Shows) (fault : OpenFault) :
    (port.answerOpen fault).face.Shows := by
  unfold answerOpen
  split
  case isFalse => exact shows
  case isTrue opening =>
      have still : port.state ≠ .running := by
        intro running
        have inside := shows.state.mp running
        simp [face, opening, Phase.inSession] at inside
      rcases fault with _ | ⟨_ | _ | _ | _, failure⟩ <;>
        exact .outside rfl still

theorem shows_perform (shows : port.face.Shows) (line : Line σ) (now : Nat)
    (action : Action) : (port.perform line now action).face.Shows := by
  cases action with
  | submit request => rwa [perform, face_submit]
  | abandon number => exact shows
  | cancel => exact shows
  | dispose =>
      simp only [perform, dispose]
      split
      · exact shows
      · exact ⟨shows.state, fun _ => Or.inr rfl⟩
  | raise event => rwa [perform, face_raise]
  | loseListener => exact shows
  | answerOpen fault => exact shows_answerOpen shows fault
  | supervise => exact shows_supervise shows now
  | work => rwa [perform, face_work]

theorem shows_run (shows : port.face.Shows) (line : Line σ)
    (actions : List (Nat × Action)) : (port.run line actions).face.Shows := by
  induction actions generalizing port with
  | nil => exact shows
  | cons entry actions induction =>
      exact induction (shows_perform shows line entry.1 entry.2)

/-- What a caller that waits for the port to run is told at an instant: that it
does whenever its state says so, and that it does not once no time is left. -/
inductive Tells (port : Port σ) (deadline now : Nat) : Bool → Prop where
  | runs : port.state = .running → Tells port deadline now true
  | expires :
      port.state ≠ .running → deadline ≤ now → Tells port deadline now false

theorem Leaves.outside {count number : UInt64} {phase : Phase}
    (leaves : Leaves count phase number) : phase.inSession = false := by
  cases leaves <;> rfl

theorem inSession_perform (line : Line σ) (now : Nat) (action : Action)
    (inside : (port.perform line now action).phase.inSession = true) :
    port.phase.inSession = true ∨ port.beginsSession action = true := by
  cases action with
  | submit request =>
      rcases port.submit_cases request with ⟨_, _, _, equality⟩ | equality <;>
        simp only [perform, equality] at inside <;> exact Or.inl inside
  | abandon number => exact Or.inl inside
  | cancel => exact Or.inl inside
  | dispose =>
      rw [perform, phase_dispose] at inside
      exact Or.inl inside
  | raise event => exact Or.inl inside
  | loseListener => exact Or.inl inside
  | answerOpen fault =>
      rw [perform, inSession_answerOpen] at inside
      exact Or.inl inside
  | work => exact Or.inl inside
  | supervise =>
      have supervises := port.supervise_supervises now
      rw [perform] at inside
      generalize port.supervise now = next at supervises inside
      cases supervises with
      | waits => exact Or.inl inside
      | begins _ _ begins =>
          rw [begins.leaves.outside] at inside
          cases inside
      | resumes fault opened =>
          rcases fault with _ | ⟨stage, failure⟩
          · exact Or.inr (by simp [beginsSession, opened])
          · obtain ⟨other, same, _⟩ := port.resume_of_fault now stage failure
            rw [same, (pause_pauses other now).leaves.outside] at inside
            cases inside
      | ends cause serving => simp [serving, Phase.inSession]
      | awaits cause deadline closing => simp [closing, Phase.inSession]
      | tearsDown cause aborting => simp [aborting, Phase.inSession]

theorem starts_run (line : Line σ) (actions : List (Nat × Action))
    (port : Port σ) :
    port.wire.starts ≤ (port.run line actions).wire.starts := by
  induction actions generalizing port with
  | nil => exact Nat.le_refl _
  | cons entry actions induction =>
      calc
        port.wire.starts ≤ (port.perform line entry.1 entry.2).wire.starts := by
          rw [starts_perform]
          exact Nat.le_add_right _ _
        _ ≤ _ := induction (port.perform line entry.1 entry.2)

theorem inSession_run (line : Line σ) (actions : List (Nat × Action))
    (inside : (port.run line actions).phase.inSession = true) :
    port.phase.inSession = true ∨
      port.wire.starts < (port.run line actions).wire.starts := by
  induction actions generalizing port with
  | nil => exact Or.inl inside
  | cons entry actions induction =>
      have step := starts_perform line entry.1 entry.2 port
      have rest := starts_run line actions (port.perform line entry.1 entry.2)
      have whole : port.run line (entry :: actions) =
          (port.perform line entry.1 entry.2).run line actions := rfl
      have later := @induction (port.perform line entry.1 entry.2) inside
      rw [whole]
      -- The session was entered before this action, by it or behind it.
      rcases later with within | begun
      · rcases inSession_perform line entry.1 entry.2 within with
          before | begins
        · exact Or.inl before
        · right
          rw [begins, if_pos rfl] at step
          omega
      · right
        omega

variable {settings : PortSettings} {reopenDelay : Nat} {state : σ}
  {line : Line σ}

/-- A caller is told that the port runs only if it ran at the call, or a
session began since, or the call found a session that had been cut off: it was
told to end or disposed of, and was still in progress. -/
theorem ran_when_told {before between : List (Nat × Action)}
    {deadline now : Nat}
    (told : (((Port.fresh settings reopenDelay state).run line before).run
      line between).Tells deadline now true) :
    let called := (Port.fresh settings reopenDelay state).run line before
    let returned := called.run line between
    called.running = true ∨ called.wire.starts < returned.wire.starts ∨
      (called.running = false ∧ called.phase.inSession = true ∧
        (called.phase ≠ .serving ∨ called.disposed = true)) := by
  intro called returned
  have first : (Port.fresh settings reopenDelay state).face.Shows :=
    .outside rfl nofun
  have atCall : called.face.Shows := shows_run first line before
  have atReturn : returned.face.Shows := shows_run atCall line between
  cases told with
  | runs known =>
      have inside : returned.phase.inSession = true := atReturn.state.mp known
      rcases inSession_run line between inside with within | begun
      · by_cases running : called.running = true
        · exact Or.inl running
        · right
          right
          refine ⟨Bool.eq_false_iff.mpr running, within, ?_⟩
          by_cases serving : called.phase = .serving
          · rcases atCall.serving serving with runs | disposed
            · exact (running runs).elim
            · exact Or.inr disposed
          · exact Or.inl serving
      · exact Or.inr (Or.inl begun)

theorem session_begins_while_waiting :
    let called := Port.fresh (PortSettings.named "p") 0 EchoLine.fresh
    let returned := called.run EchoLine.interface
      [(0, .supervise), (0, .answerOpen none), (0, .supervise)]
    returned.Tells 500 0 true ∧
      called.wire.starts < returned.wire.starts := by
  have told : (((Port.fresh (PortSettings.named "p") 0 EchoLine.fresh).run
      EchoLine.interface []).run EchoLine.interface
        [(0, .supervise), (0, .answerOpen none), (0, .supervise)]).Tells
          500 0 true := .runs (by decide)
  refine ⟨told, ?_⟩
  rcases ran_when_told told with running | begun | ⟨_, inside, _⟩
  · cases running
  · exact begun
  · cases inside

/-- A port that was disposed of does not run and is still said to. -/
theorem disposed_port_said_to_run :
    let called := (Port.fresh (PortSettings.named "p") 0 EchoLine.fresh).run
      EchoLine.interface
      [(0, .supervise), (0, .answerOpen none), (0, .supervise), (1, .dispose)]
    let returned := called.run EchoLine.interface [(1, .supervise)]
    called.Tells 1 1 true ∧ returned.Tells 1 1 true ∧
      called.running = false ∧ returned.running = false ∧
      called.wire.starts = returned.wire.starts := by
  exact ⟨.runs (by decide), .runs (by decide), rfl, rfl, by decide⟩

end Port

/-- Where a caller stands that shuts a port down. -/
inductive ShutDown where
  | waits
  | returned
  | dropped
  deriving Repr, DecidableEq

/-- A port and those who shut it down, in the order of their calls. -/
structure ShutDowns (σ : Type) where
  port : Port σ
  callers : List ShutDown

namespace ShutDowns

inductive Step where
  | act (now : Nat) (action : Port.Action)
  | call
  | look (position : Nat)
  | drop (position : Nat)

def fresh (settings : PortSettings) (reopenDelay : Nat) (state : σ) :
    ShutDowns σ :=
  { port := Port.fresh settings reopenDelay state
    callers := [] }

def perform (line : Line σ) (step : Step) (company : ShutDowns σ) :
    ShutDowns σ :=
  match step with
  | .act now action =>
      { company with port := company.port.perform line now action }
  | .call =>
      let (port, waits) := company.port.shutDown
      { port := port
        callers := company.callers ++ [if waits then .waits else .returned] }
  | .look position =>
      if company.callers[position]? = some .waits ∧
          company.port.phase = .finished then
        { company with callers := company.callers.set position .returned }
      else company
  | .drop position =>
      if company.callers[position]? = some .waits then
        { company with callers := company.callers.set position .dropped }
      else company

def run (line : Line σ) (steps : List Step) (company : ShutDowns σ) :
    ShutDowns σ :=
  steps.foldl (fun company step => company.perform line step) company

end ShutDowns

namespace Port

theorem awaited_perform (line : Line σ) (now : Nat) (action : Action)
    (port : Port σ) :
    (port.perform line now action).awaited = port.awaited := by
  cases action using Action.byPart with
  | control action control =>
      have books := books_perform_of_control line now port control
      exact congrArg Books.awaited books
  | submit request =>
      rcases port.submit_cases request with ⟨_, _, _, equality⟩ | equality <;>
        simp [perform, equality]
  | abandon number => rfl
  | work => rfl

theorem finished_perform {port : Port σ} (finished : port.phase = .finished)
    (line : Line σ) (now : Nat) (action : Action) :
    (port.perform line now action).phase = .finished := by
  cases action with
  | submit request =>
      rcases port.submit_cases request with ⟨_, _, _, equality⟩ | equality <;>
        simp [perform, equality, finished]
  | abandon number => exact finished
  | cancel => exact finished
  | dispose => rw [perform, phase_dispose, finished]
  | raise event => exact finished
  | loseListener => exact finished
  | answerOpen fault => simp [perform, answerOpen, finished]
  | supervise => simp [perform, supervise, finished]
  | work => exact finished

end Port

namespace ShutDowns

/-- Only the first caller waits for the supervisor. -/
structure Orderly (company : ShutDowns σ) : Prop where
  followed : ∃ chronicle : Chronicle σ,
    chronicle.Complete ∧ chronicle.port = company.port
  awaited : company.port.awaited = true ↔ company.callers ≠ []
  behind : ∀ caller ∈ company.callers.tail, caller = .returned
  first : company.callers.head? = some .returned →
    company.port.phase = .finished

namespace Orderly

variable {company : ShutDowns σ}

theorem fresh (settings : PortSettings) (reopenDelay : Nat) (state : σ) :
    (ShutDowns.fresh settings reopenDelay state).Orderly := by
  constructor
  · exact ⟨Chronicle.fresh settings reopenDelay state,
      ⟨rfl, rfl, Or.inl rfl⟩, rfl⟩
  · simp [ShutDowns.fresh, Port.fresh]
  · exact nofun
  · exact nofun

theorem act (orderly : company.Orderly) (line : Line σ) (now : Nat)
    (action : Port.Action) :
    (company.perform line (.act now action)).Orderly := by
  constructor
  · obtain ⟨chronicle, complete, same⟩ := orderly.followed
    refine ⟨chronicle.perform line now action,
      complete.perform line now action, ?_⟩
    rw [ShutDowns.perform, ← same]
    rfl
  · simp only [ShutDowns.perform, Port.awaited_perform]
    exact orderly.awaited
  · exact orderly.behind
  · intro returned
    exact Port.finished_perform (orderly.first returned) line now action

theorem call (orderly : company.Orderly) (line : Line σ) :
    (company.perform line .call).Orderly := by
  have followed : ∃ chronicle : Chronicle σ,
      chronicle.Complete ∧ chronicle.port = company.port.shutDown.1 := by
    obtain ⟨chronicle, complete, same⟩ := orderly.followed
    have kept : (chronicle.follow company.port.shutDown.1 none
        none).Complete := by
      apply complete.keep
      · simp [Port.shutDown, same]
      · simp [Port.shutDown, Port.attempts_dispose, same]
      · simp [Port.shutDown, Port.handleActs_dispose, same]
    exact ⟨_, kept, rfl⟩
  have disposed : (company.perform line .call).port.phase =
      company.port.phase := Port.phase_dispose company.port
  cases callers : company.callers with
  | nil =>
      have first : company.port.awaited = false := by
        simpa [callers] using orderly.awaited
      have joins : (company.perform line .call).callers = [.waits] := by
        simp [ShutDowns.perform, Port.shutDown, callers, first]
      constructor
      · exact followed
      · rw [joins]
        exact iff_of_true rfl nofun
      · rw [joins]
        exact nofun
      · rw [joins]
        exact nofun
  | cons first others =>
      have taken : company.port.awaited = true := by
        simpa [callers] using orderly.awaited
      have joins : (company.perform line .call).callers =
          first :: (others ++ [.returned]) := by
        simp [ShutDowns.perform, Port.shutDown, callers, taken]
      have behind := orderly.behind
      have finished := orderly.first
      rw [callers] at behind finished
      constructor
      · exact followed
      · rw [joins]
        exact iff_of_true rfl nofun
      · rw [joins]
        intro caller member
        rcases List.mem_append.mp member with old | new
        · exact behind caller old
        · exact List.mem_singleton.mp new
      · rw [joins, disposed]
        exact finished

theorem settle (orderly : company.Orderly) {position : Nat}
    (waits : company.callers[position]? = some .waits) {later : ShutDown}
    (finished : later = .returned → company.port.phase = .finished) :
    ({ company with callers := company.callers.set position later } :
      ShutDowns σ).Orderly := by
  obtain ⟨port, callers⟩ := company
  cases callers with
  | nil => cases waits
  | cons first others =>
      cases position with
      | zero =>
          constructor
          · exact orderly.followed
          · simp [orderly.awaited]
          · exact orderly.behind
          · intro returned
            exact finished (Option.some.inj returned)
      | succ position =>
          -- Whoever is not the first one returned at once.
          have inside : others[position]? = some .waits := waits
          cases orderly.behind .waits (List.mem_of_getElem? inside)

theorem perform (orderly : company.Orderly) (line : Line σ) (step : Step) :
    (company.perform line step).Orderly := by
  cases step with
  | act now action => exact orderly.act line now action
  | call => exact orderly.call line
  | look position =>
      simp only [ShutDowns.perform]
      split
      case isTrue ready => exact orderly.settle ready.1 fun _ => ready.2
      case isFalse => exact orderly
  | drop position =>
      simp only [ShutDowns.perform]
      split
      case isTrue waits => exact orderly.settle waits nofun
      case isFalse => exact orderly

theorem run (orderly : company.Orderly) (line : Line σ) (steps : List Step) :
    (company.run line steps).Orderly := by
  induction steps generalizing company with
  | nil => exact orderly
  | cons step steps induction => exact induction (orderly.perform line step)

/-- The supervisor has finished only when the handle is closed. -/
theorem closed (orderly : company.Orderly)
    (finished : company.port.phase = .finished) :
    company.port.wire.handleOpen = false := by
  obtain ⟨chronicle, complete, same⟩ := orderly.followed
  have through := complete.handleThrough
  rw [same, finished] at through
  exact Wire.handleOpen_of_handleThrough through

end Orderly

variable {settings : PortSettings} {reopenDelay : Nat} {state : σ}
  {line : Line σ}

/-- A caller that shut the port down returns when the supervisor has finished
and the handle is closed, unless it came behind a first caller that still waits
for that, or went away while it waited. -/
theorem returned_when_finished {steps : List Step} {position : Nat}
    (returned : ((fresh settings reopenDelay state).run line
      steps).callers[position]? = some .returned) :
    let company := (fresh settings reopenDelay state).run line steps
    (company.port.phase = .finished ∧
      company.port.wire.handleOpen = false) ∨
      (0 < position ∧ ∃ first, company.callers.head? = some first ∧
        (first = .waits ∨ first = .dropped)) := by
  intro company
  have orderly : company.Orderly :=
    (Orderly.fresh settings reopenDelay state).run line steps
  have known : company.callers[position]? = some .returned := returned
  cases callers : company.callers with
  | nil =>
      rw [callers] at known
      cases known
  | cons first others =>
      have behind : first ≠ .returned → 0 < position := by
        intro other
        apply Nat.pos_of_ne_zero
        rintro rfl
        rw [callers] at known
        exact other (Option.some.inj known)
      cases first with
      | waits =>
          exact Or.inr ⟨behind nofun, _, rfl, Or.inl rfl⟩
      | dropped =>
          exact Or.inr ⟨behind nofun, _, rfl, Or.inr rfl⟩
      | returned =>
          have finished := orderly.first (by rw [callers]; rfl)
          exact Or.inl ⟨finished, orderly.closed finished⟩

def opening : List Step :=
  [.act 0 .supervise, .act 0 (.answerOpen none), .act 0 .supervise]

theorem single_shut_down_closes :
    let company := (fresh (PortSettings.named "p") 0 EchoLine.fresh).run
      EchoLine.interface
      (opening ++ [.call, .act 1 .supervise, .act 1 .work, .act 1 .supervise,
        .look 0])
    company.callers = [.returned] ∧ company.port.phase = .finished ∧
      company.port.wire.handleOpen = false := by
  have returned : ((fresh (PortSettings.named "p") 0 EchoLine.fresh).run
      EchoLine.interface
      (opening ++ [.call, .act 1 .supervise, .act 1 .work, .act 1 .supervise,
        .look 0])).callers[0]? = some .returned := by decide
  refine ⟨by decide, ?_⟩
  rcases returned_when_finished returned with ends | ⟨behind, _⟩
  · exact ends
  · cases behind

/-- The second of two callers returns while the session is still in progress
and the handle is open, also when the first one has gone away. -/
theorem second_shut_down_returns_early :
    let overlapping := (fresh (PortSettings.named "p") 0 EchoLine.fresh).run
      EchoLine.interface (opening ++ [.call, .call])
    let deserted := (fresh (PortSettings.named "p") 0 EchoLine.fresh).run
      EchoLine.interface (opening ++ [.call, .drop 0, .call])
    overlapping.callers = [.waits, .returned] ∧
      overlapping.port.phase = .serving ∧
      overlapping.port.wire.handleOpen = true ∧
      deserted.callers = [.dropped, .returned] ∧
      deserted.port.phase = .serving ∧
      deserted.port.wire.handleOpen = true := by
  decide

end ShutDowns

end MeterLine
