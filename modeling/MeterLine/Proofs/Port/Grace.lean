import Mathlib.Data.List.Nodup
import MeterLine.Proofs.Port.Handles
import MeterLine.Proofs.Port.Plan
import MeterLine.Proofs.Port.Resolution

/-!
# The grace of a command in hand

When a session is told to end, the command in hand is granted three times the
response wait.  An exchange may take longer than that, and then the command is
refused although its reply is on its way.  If the exchange is over within the
grace by its plan, then the command is answered with the reply, whatever ends
the session and whenever that happens.
-/

namespace MeterLine

namespace Exchange

def Phase.remaining? : Phase → Option Int
  | .watching remaining => some remaining
  | _ => none

instance (plan : Plan) : Decidable plan.Late :=
  inferInstanceAs (Decidable (∀ entry ∈ plan.reply.head?, _))

instance (plan : Plan) (now : Nat) (remaining : Int) (ready : Bool) :
    Decidable (plan.Heard now remaining ready) :=
  decidable_of_iff
    ((ready = true → ∀ entry ∈ plan.arrivals.head?,
        entry.1 ≤ now + (idlePolls - 1) * plan.settings.tick) ∧
      (remaining < 0 → plan.Late → ready = true))
    ⟨fun heard => ⟨heard.1, heard.2⟩,
      fun heard => ⟨heard.honest, heard.announced⟩⟩

end Exchange

namespace Port

def hand? (port : Port σ) (command : Command) : Option Exchange.Phase :=
  match port.worker.stage with
  | .busy other phase => if other = command then some phase else none
  | _ => none

/-- The time that remains when an action looks for data in a phase. -/
def Action.looks? (phase : Exchange.Phase) : Action → Option Int
  | .work => phase.remaining?
  | _ => none

/-- While a command is in hand time does not pass when its exchange has
something to do. -/
structure Prompt (phase : Exchange.Phase) (clock now : Nat) : Prop where
  ordered : clock ≤ now
  prompt : now ≤ max clock (phase.wake?.getD clock)

instance (phase : Exchange.Phase) (clock now : Nat) :
    Decidable (Prompt phase clock now) :=
  decidable_of_iff
    (clock ≤ now ∧ now ≤ max clock (phase.wake?.getD clock))
    ⟨fun prompt => ⟨prompt.1, prompt.2⟩,
      fun prompt => ⟨prompt.ordered, prompt.prompt⟩⟩

/-- The data-ready flag does not mislead the exchange, the session is told to
end only when its grace lasts longer than the plan, and the caller waits. -/
structure Fair (plan : Exchange.Plan) (command : Command) (port : Port σ)
    (phase : Exchange.Phase) (clock now : Nat) (action : Action) : Prop where
  prompt : Prompt phase clock now
  heard : ∀ remaining ∈ action.looks? phase,
    plan.Heard now remaining port.wire.ready
  granted : (port.ends? action).isSome = true →
    plan.instant plan.length < now + grace port.settings
  wanted : command.number ∉ port.abandoned

instance (plan : Exchange.Plan) (command : Command) (port : Port σ)
    (phase : Exchange.Phase) (clock now : Nat) (action : Action) :
    Decidable (Fair plan command port phase clock now action) :=
  decidable_of_iff
    (Prompt phase clock now ∧
      (∀ remaining ∈ action.looks? phase,
        plan.Heard now remaining port.wire.ready) ∧
      ((port.ends? action).isSome = true →
        plan.instant plan.length < now + grace port.settings) ∧
      command.number ∉ port.abandoned)
    ⟨fun ⟨prompt, heard, granted, wanted⟩ =>
        ⟨prompt, heard, granted, wanted⟩,
      fun fair => ⟨fair.prompt, fair.heard, fair.granted, fair.wanted⟩⟩

/-- Every action of a run obeys a law while a command is in hand. -/
def Obeys
    (law : Port σ → Exchange.Phase → (clock now : Nat) → Action → Prop)
    (command : Command) (line : Line σ) :
    Nat → List (Nat × Action) → Port σ → Prop
  | _, [], _ => True
  | clock, (now, action) :: later, port =>
      (∀ phase ∈ port.hand? command, law port phase clock now action) ∧
      Obeys law command line now later (port.perform line now action)

instance Obeys.decide
    (law : Port σ → Exchange.Phase → Nat → Nat → Action → Prop)
    [∀ port phase clock now action, Decidable (law port phase clock now action)]
    (command : Command) (line : Line σ) :
    ∀ (clock : Nat) (actions : List (Nat × Action)) (port : Port σ),
      Decidable (Obeys law command line clock actions port)
  | _, [], _ => inferInstanceAs (Decidable True)
  | _, (now, action) :: later, port =>
      have := Obeys.decide law command line now later
        (port.perform line now action)
      inferInstanceAs (Decidable (_ ∧ _))

inductive Phase.Lasts (limit : Nat) : Phase → Prop where
  | serving : Lasts limit .serving
  | closing (cause : SessionEnd) (deadline : Nat) :
      limit < deadline → Lasts limit (.closing cause deadline)

variable {port : Port σ} {limit now : Nat}

theorem lasts_awaitWorker (going : port.worker.isStopped = false)
    (inTime : now ≤ limit) {deadline : Nat} (granted : limit < deadline)
    (cause : SessionEnd) :
    (port.awaitWorker now cause deadline).phase.Lasts limit := by
  have early : ¬deadline ≤ now := by omega
  simp only [awaitWorker, going, Bool.false_eq_true, if_false, early]
  exact .closing cause deadline granted

theorem lasts_supervise (lasts : port.phase.Lasts limit)
    (going : port.worker.isStopped = false) (inTime : now ≤ limit)
    (granted : (port.ends? .supervise).isSome = true →
      limit < now + grace port.settings) :
    (port.supervise now).phase.Lasts limit := by
  have supervises := port.supervise_supervises now
  generalize port.supervise now = next at supervises
  cases supervises with
  | waits => exact lasts
  | begins _ idle =>
      rcases idle with starting | ⟨_, pausing, _⟩
      · rw [starting] at lasts
        cases lasts
      · rw [pausing] at lasts
        cases lasts
  | resumes fault opened =>
      rw [opened] at lasts
      cases lasts
  | ends cause serving ends =>
      have told : (port.ends? .supervise).isSome = true := by
        simp [ends?, serving, ends]
      have cut : port.cut.worker.isStopped = false := going
      rw [endSession_eq]
      exact lasts_awaitWorker cut inTime (granted told) cause
  | awaits cause deadline closing =>
      rw [closing] at lasts
      cases lasts with
      | closing _ _ late => exact lasts_awaitWorker going inTime late cause
  | tearsDown cause _ stopped =>
      rw [going] at stopped
      cases stopped

theorem Phase.Lasts.inSession {phase : Phase} (lasts : phase.Lasts limit) :
    phase.inSession = true := by
  cases lasts <;> rfl

theorem Phase.Lasts.handleOpen {phase : Phase} (lasts : phase.Lasts limit) :
    phase.handleOpen = true := by
  cases lasts <;> rfl

/-- A command in hand whose exchange keeps to its plan. -/
structure OnPlan (port : Port σ) (plan : Exchange.Plan)
    (unread next : σ → Arrivals) (command : Command) (now : Nat)
    (phase : Exchange.Phase) : Prop where
  busy : port.worker.stage = .busy command phase
  planned : Exchange.Keeps plan unread next now phase port.wire.line
  lasts : port.phase.Lasts (plan.instant plan.length)
  settings : port.settings = plan.settings

namespace OnPlan

variable {plan : Exchange.Plan} {unread next : σ → Arrivals}
  {command : Command} {clock : Nat} {phase : Exchange.Phase} {line : Line σ}

theorem later (onPlan : port.OnPlan plan unread next command clock phase)
    {action : Action}
    (fair : Fair plan command port phase clock now action) :
    port.OnPlan plan unread next command now phase :=
  { busy := onPlan.busy
    planned := onPlan.planned.later fair.prompt.ordered fair.prompt.prompt
    lasts := onPlan.lasts
    settings := onPlan.settings }

/-- Others neither touch the exchange nor end the session in its time. -/
theorem control (onPlan : port.OnPlan plan unread next command now phase)
    (line : Line σ) {action : Action} (isControl : action.isControl = true)
    (fair : Fair plan command port phase clock now action) :
    (port.perform line now action).OnPlan plan unread next command now
      phase := by
  have inside := onPlan.lasts.inSession
  have going : port.worker.isStopped = false := by
    simp [Worker.isStopped, onPlan.busy]
  have ongoing : port.beginsSession action = false := by
    apply Bool.eq_false_iff.mpr
    intro begins
    obtain ⟨_, opened⟩ := (beginsSession_iff port action).mp begins
    rw [opened] at inside
    cases inside
  have books := books_perform_of_control line now port isControl
  obtain ⟨closed, stopping, worker, _⟩ :=
    worker_perform_of_control line now isControl ongoing
  constructor
  · rw [worker]
    exact onPlan.busy
  · have same : (port.perform line now action).wire.line = port.wire.line :=
      congrArg Books.line books
    rw [same]
    exact onPlan.planned
  · cases action <;>
      simp only [Action.isControl, Bool.false_eq_true] at isControl
    case cancel => exact onPlan.lasts
    case dispose =>
        rw [perform, phase_dispose]
        exact onPlan.lasts
    case raise event => exact onPlan.lasts
    case loseListener => exact onPlan.lasts
    case answerOpen fault =>
        have settled : port.phase ≠ .opening := by
          intro opening
          rw [opening] at inside
          cases inside
        simp only [perform, answerOpen, settled, if_false]
        exact onPlan.lasts
    case supervise =>
        exact lasts_supervise onPlan.lasts going onPlan.planned.in_time
          fair.granted
  · exact (congrArg Books.settings books).trans onPlan.settings

/-- A turn of the worker goes on with the exchange, or answers its command with
the reply. -/
theorem work (onPlan : port.OnPlan plan unread next command now phase)
    (immediate : line.Immediate unread next plan.pace) (sound : plan.Sound)
    (fair : Fair plan command port phase clock now .work) :
    (∃ later, (port.work line now).OnPlan plan unread next command now
        later) ∨
      port.deliveries line now .work =
        [{ number := command.number
           outcome := .ok plan.reply.octets }] := by
  have ongoing : ∀ cause, port.phase ≠ .aborting cause := by
    intro cause aborting
    have lasts := onPlan.lasts
    rw [aborting] at lasts
    cases lasts
  have comes := onPlan.planned.step immediate sound (by
    rintro remaining rfl
    exact fair.heard remaining rfl) command.request
  rw [← onPlan.settings] at comes
  have busy := onPlan.busy
  cases port.workTurn line now with
  | rests nothing => simp [Worker.inHand?, busy] at nothing
  | stops nothing => simp [Worker.inHand?, busy] at nothing
  | takes _ _ idle =>
      rw [busy] at idle
      cases idle
  | givesUp _ _ cause _ aborting => exact (ongoing cause aborting).elim
  | proceeds other current later held _ step worker _ =>
      rw [busy] at held
      cases held
      left
      refine ⟨later, ?_, comes.keeps step, onPlan.lasts, onPlan.settings⟩
      simp [Port.work, advance, deliver, worker]
  | concludes other current outcome wire held _ step _ _ answers =>
      rw [busy] at held
      cases held
      right
      rw [step] at comes
      cases comes
      simp [deliveries, answers, fair.wanted]

theorem perform (onPlan : port.OnPlan plan unread next command clock phase)
    (immediate : line.Immediate unread next plan.pace) (sound : plan.Sound)
    {action : Action}
    (fair : Fair plan command port phase clock now action) :
    (∃ later, (port.perform line now action).OnPlan plan unread next command
        now later) ∨
      port.deliveries line now action =
        [{ number := command.number
           outcome := .ok plan.reply.octets }] := by
  have arrived := onPlan.later fair
  cases action using Action.byPart with
  | control action isControl =>
      exact Or.inl ⟨phase, arrived.control line isControl fair⟩
  | submit request =>
      left
      refine ⟨phase, ?_⟩
      rcases port.submit_cases request with ⟨_, _, _, equality⟩ | equality
      · rw [Port.perform, equality]
        exact ⟨arrived.busy, arrived.planned, arrived.lasts,
          arrived.settings⟩
      · rw [Port.perform, equality]
        exact ⟨arrived.busy, arrived.planned, arrived.lasts,
          arrived.settings⟩
  | abandon number =>
      exact Or.inl ⟨phase, arrived.busy, arrived.planned, arrived.lasts,
        arrived.settings⟩
  | work => exact arrived.work immediate sound fair

end OnPlan

end Port

namespace History

variable {plan : Exchange.Plan} {unread next : σ → Arrivals}
  {command : Command} {line : Line σ} {history : History σ}

theorem Numbered.unanswered (numbered : history.Numbered)
    (waits : command ∈ history.port.worker.outstanding) :
    ∀ answer ∈ history.answered, answer.number ≠ command.number := by
  intro answer member same
  obtain ⟨_, lost, _, divided⟩ := numbered
  have distinct := divided.nodup_iff.mpr List.nodup_range'
  -- No number is both answered and outstanding.
  have answered : answer.number ∈
      history.answered.map CommandAnswer.number ++ lost :=
    List.mem_append_left _ (List.mem_map_of_mem member)
  have outstanding : answer.number ∈
      history.port.worker.outstanding.map Command.number := by
    rw [same]
    exact List.mem_map_of_mem waits
  exact (List.nodup_append.mp distinct).2.2 _ answered _ outstanding rfl

end History

structure ReplyLine where
  unread : Arrivals
  next : Arrivals

namespace ReplyLine

def interface : Line ReplyLine :=
  { available := fun now line =>
      { value := .ok (TimedLine.due now line.unread).length
        line := line
        events := [] }
    read := fun now size line =>
      let count := min size (TimedLine.due now line.unread).length
      { value := .ready (.ok (Arrivals.octets (line.unread.take count)))
        line := { line with unread := line.unread.drop count }
        events := [] }
    write := fun _ octets line =>
      { value := .ready (.ok octets.length)
        line := line
        events := [] }
    flush := fun now line =>
      { value := .ready (.ok ())
        line :=
          { unread := line.unread ++ line.next.since now
            next := [] }
        events := [] } }

theorem immediate {pace : Nat} (paced : 0 < pace) :
    interface.Immediate unread next pace := by
  constructor
  · exact paced
  · intro now line
    exact ⟨rfl, rfl, rfl⟩
  · intro now size line _ _
    exact ⟨_, Nat.min_le_right _ _, Nat.le_refl _, rfl, rfl, rfl⟩
  · intro now octets line some_
    have long := List.length_pos_iff.mpr some_
    refine ⟨octets.length - 1, ?_, rfl, rfl⟩
    rw [Nat.sub_add_cancel long]
    rfl
  · intro now line
    exact ⟨rfl, rfl⟩

def settings (wait : UInt64) : PortSettings :=
  TimedLine.settings wait

def opening : List (Nat × Port.Action) :=
  [(0, .supervise), (0, .answerOpen none), (0, .supervise),
    (0, .submit [1, 3, 0, 0, 0, 2, 196, 11]), (0, .work)]

def command : Command :=
  { number := 1
    request := [1, 3, 0, 0, 0, 2, 196, 11] }

def turns (start count : Nat) : List (Nat × Port.Action) :=
  (List.range count).flatMap fun tick =>
    List.replicate 8 (start + 2 * tick, Port.Action.work)

def fault (instant : Nat) : List (Nat × Port.Action) :=
  [(instant, .raise (.hardwareFault "framing")), (instant, .supervise)]

def reply (time : Nat) : Arrivals :=
  [1, 3, 4, 0, 0, 4, 210, 120, 174].map fun octet => (time, octet)

def replying (reply : Arrivals) : ReplyLine :=
  { unread := []
    next := reply }

def taken (wait : UInt64) (reply : Arrivals) : History ReplyLine :=
  (History.fresh (settings wait) 0 (replying reply)).run interface opening

/-- Nine octets arrive within a valid response wait, time does not pass when
the exchange has something to do, and the command comes to something else. -/
def Misses (wait : UInt64) (reply : Arrivals)
    (after : List (Nat × Port.Action)) (octets : Option Bytes)
    (failure : Option Failure) : Prop :=
  let history := taken wait reply
  let answers := (history.run interface after).port.answers
  (settings wait).validate = .ok () ∧ reply.length = 9 ∧
    (∀ entry ∈ reply, entry.1 ≤ (settings wait).wait) ∧
    history.port.worker.stage = .busy command Exchange.start ∧
    Port.Obeys (fun _ phase clock now _ => Port.Prompt phase clock now)
      command interface 0 after history.port ∧
    answers.map CommandAnswer.number = [1] ∧
    answers.map CommandAnswer.octets? = [octets] ∧
    answers.map CommandAnswer.failure? = [failure] ∧
    octets ≠ some reply.octets

def plan : Exchange.Plan :=
  { settings := settings 40
    start := 0
    reply := reply 4
    pace := 9
    slots := 2
    reads := 1 }

theorem sound : plan.Sound := by
  constructor <;> decide

end ReplyLine

namespace History

open ReplyLine

variable {plan : Exchange.Plan} {unread next : σ → Arrivals}
  {command : Command} {line : Line σ} {history : History σ}

end History

end MeterLine
