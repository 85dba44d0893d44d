import MeterLine.Proofs.Port.Turn
import MeterLine.Proofs.Sharing.Serving

/-!
# The book of a port

A book lists what a running port was asked for, one entry a command.  As long
as nothing but reads of registers is asked for and the session goes on, every
command in hand or in the queue carries the request of its entry, and every
answer is what the exchange of its entry came to.
-/

namespace MeterLine

/-- The entry of a command whose number lies behind the known ones. -/
def Booked (known : Nat) (book : List Booking) (number : Nat)
    (entry : Booking) : Prop :=
  known < number ∧ book[number - known - 1]? = some entry

namespace Booked

variable {known number : Nat} {book : List Booking} {entry other : Booking}

theorem unique (booked : Booked known book number entry)
    (again : Booked known book number other) : entry = other :=
  Option.some.inj (booked.2.symm.trans again.2)

theorem append (booked : Booked known book number entry)
    (more : List Booking) : Booked known (book ++ more) number entry := by
  have inside := (List.getElem?_eq_some_iff.mp booked.2).1
  exact ⟨booked.1, (List.getElem?_append_left inside).trans booked.2⟩

theorem last (known : Nat) (book : List Booking) (entry : Booking) :
    Booked known (book ++ [entry]) (known + book.length + 1) entry := by
  refine ⟨by omega, ?_⟩
  have place : known + book.length + 1 - known - 1 = book.length := by omega
  rw [place]
  simp

theorem mem (booked : Booked known book number entry) : entry ∈ book :=
  List.mem_of_getElem? booked.2

end Booked

namespace Port

/-- A running port that was told nothing that would end its session. -/
structure Runs (port : Port σ) : Prop where
  serving : port.phase = .serving
  running : port.running = true
  connected : port.connected = true
  uncancelled : port.cancelSignal = false
  undisposed : port.disposeSignal = false
  opened : port.worker.closed = false
  going : port.worker.stopping = false
  listens : port.wire.Listens

/-- What the commands, the answers and the line of a port have to do with its
book. -/
structure Keeps (settings : PortSettings) (meters : Meters)
    (shows : σ → LineView) (known : Nat) (book : List Booking) (now : Nat)
    (port : Port σ) : Prop where
  named : port.settings = settings
  runs : port.Runs
  counted : port.commands = known + book.length
  since : ∀ entry ∈ book, entry.since ≤ now
  queued : ∀ command ∈ port.worker.queue, ∃ entry,
    Booked known book command.number entry ∧ command.request = entry.frame
  idle : port.worker.inHand? = none →
    port.worker.stage = .idle ∧ (shows port.wire.line).taken = [] ∧
      (shows port.wire.line).Quiet now
  busy : ∀ command phase, port.worker.stage = .busy command phase →
    ∃ entry, Booked known book command.number entry ∧
      command.request = entry.frame ∧
        phase.Stands settings meters entry now (shows port.wire.line)
          port.wire.ready
  answered : ∀ answer ∈ port.answers,
    answer.number ≤ known ∨
      ∃ entry, Booked known book answer.number entry ∧
        entry.Served settings meters now answer.outcome

theorem Runs.sessionEnd? {port : Port σ} (runs : port.Runs) :
    port.sessionEnd? = none := by
  simp [Port.sessionEnd?, runs.uncancelled, runs.undisposed,
    runs.listens.faultless, runs.listens.listening]

theorem Runs.supervise {port : Port σ} (runs : port.Runs) (now : Nat) :
    port.supervise now = port := by
  simp [Port.supervise, runs.serving, runs.sessionEnd?]

namespace Keeps

variable {settings : PortSettings} {meters : Meters} {shows : σ → LineView}
  {known now : Nat} {book : List Booking} {port : Port σ}

theorem later (keeps : port.Keeps settings meters shows known book now)
    {next : Nat} (passes : now ≤ next) :
    port.Keeps settings meters shows known book next := by
  constructor
  · exact keeps.named
  · exact keeps.runs
  · exact keeps.counted
  · intro entry member
    exact Nat.le_trans (keeps.since entry member) passes
  · exact keeps.queued
  · intro nothing
    obtain ⟨idle, taken, quiet⟩ := keeps.idle nothing
    exact ⟨idle, taken, quiet.later passes⟩
  · intro command phase busy
    obtain ⟨entry, booked, request, stands⟩ := keeps.busy command phase busy
    exact ⟨entry, booked, request, stands.later passes⟩
  · intro answer member
    rcases keeps.answered answer member with old | ⟨entry, booked, served⟩
    · exact Or.inl old
    · exact Or.inr ⟨entry, booked, served.later passes⟩

theorem accepts (keeps : port.Keeps settings meters shows known book now) :
    port.worker.accepts = true := by
  have open_ := keeps.runs.opened
  cases stage : port.worker.stage with
  | idle => simp [Worker.accepts, open_, stage]
  | busy command phase => simp [Worker.accepts, open_, stage]
  | stopped =>
      have idle := (keeps.idle (by simp [Worker.inHand?, stage])).1
      rw [stage] at idle
      cases idle

theorem submit_eq (keeps : port.Keeps settings meters shows known book now)
    (request : Bytes) :
    port.submit request =
      ({ port with
          commands := port.commands + 1
          worker := port.worker.enqueue (port.nextCommand request) },
        .ok (port.commands + 1)) := by
  simp [submit, keeps.runs.running, keeps.runs.connected, keeps.accepts,
    nextCommand]

theorem submit (keeps : port.Keeps settings meters shows known book now)
    {entry : Booking} (timely : entry.since ≤ now) :
    (port.submit entry.frame).1.Keeps settings meters shows known
      (book ++ [entry]) now := by
  rw [keeps.submit_eq]
  have runs := keeps.runs
  constructor
  · exact keeps.named
  · exact { runs with }
  · rw [keeps.counted, List.length_append, List.length_singleton,
      Nat.add_assoc]
  · intro other member
    rcases List.mem_append.mp member with old | new
    · exact keeps.since other old
    · rw [List.mem_singleton.mp new]
      exact timely
  · intro command member
    rcases List.mem_append.mp member with old | new
    · obtain ⟨other, booked, request⟩ := keeps.queued command old
      exact ⟨other, booked.append _, request⟩
    · rw [List.mem_singleton.mp new]
      refine ⟨entry, ?_, rfl⟩
      rw [nextCommand, keeps.counted]
      exact Booked.last known book entry
  · exact keeps.idle
  · intro command phase busy
    obtain ⟨other, booked, rest⟩ := keeps.busy command phase busy
    exact ⟨other, booked.append _, rest⟩
  · intro answer member
    rcases keeps.answered answer member with old | ⟨other, booked, served⟩
    · exact Or.inl old
    · exact Or.inr ⟨other, booked.append _, served⟩

theorem abandon (keeps : port.Keeps settings meters shows known book now)
    (number : Nat) :
    Keeps settings meters shows known book now
      { port with abandoned := number :: port.abandoned } := by
  have runs := keeps.runs
  exact { keeps with runs := { runs with } }

theorem announce (keeps : port.Keeps settings meters shows known book now)
    (arrived : ((shows port.wire.line).seen now).arrival = some now)
    (ready before : Bool) :
    Keeps settings meters shows known book now
      { port with wire := port.wire.hear (.dataAvailable ready before) } := by
  have runs := keeps.runs
  have heard : port.wire.hear (.dataAvailable ready before) =
      { port.wire with ready := ready } := by
    simp [Wire.hear, runs.listens.listening]
  rw [heard]
  constructor
  · exact keeps.named
  · exact
      { runs with
        listens := ⟨runs.listens.listening, runs.listens.faultless⟩ }
  · exact keeps.counted
  · exact keeps.since
  · exact keeps.queued
  · exact keeps.idle
  · intro command phase busy
    obtain ⟨entry, booked, request, stands⟩ := keeps.busy command phase busy
    exact ⟨entry, booked, request, stands.announced arrived ready⟩
  · exact keeps.answered

/-- A turn of the worker keeps the book if the worker goes on, and answers by
what the exchanges came to. -/
private theorem advance
    (keeps : port.Keeps settings meters shows known book now)
    {progress : Worker.Progress σ} {queue : List Command}
    {stage : Worker.Stage}
    (worker : progress.worker =
      { port.worker with
        queue := queue
        stage := stage })
    (listens : progress.wire.Listens)
    (fewer : ∀ command ∈ queue, command ∈ port.worker.queue)
    (going : stage ≠ .stopped)
    (idle : stage = .idle →
      (shows progress.wire.line).taken = [] ∧
        (shows progress.wire.line).Quiet now)
    (busy : ∀ command phase, stage = .busy command phase →
      ∃ entry, Booked known book command.number entry ∧
        command.request = entry.frame ∧
          phase.Stands settings meters entry now (shows progress.wire.line)
            progress.wire.ready)
    (served : ∀ answer ∈ progress.answers,
      ∃ entry, Booked known book answer.number entry ∧
        entry.Served settings meters now answer.outcome) :
    (port.advance progress).Keeps settings meters shows known book now := by
  have runs := keeps.runs
  have after : (port.advance progress).worker =
      { port.worker with
        queue := queue
        stage := stage } := worker
  constructor
  · exact keeps.named
  · exact
      { runs with
        opened := by rw [after, runs.opened]
        going := by rw [after, runs.going]
        listens := listens }
  · exact keeps.counted
  · exact keeps.since
  · rw [after]
    intro command member
    exact keeps.queued command (fewer command member)
  · rw [after]
    intro nothing
    cases stage with
    | idle => exact ⟨rfl, idle rfl⟩
    | busy command phase => cases nothing
    | stopped => exact (going rfl).elim
  · rw [after]
    exact busy
  · intro answer member
    rcases List.mem_append.mp member with new | old
    · have wanted := (List.mem_filter.mp (List.mem_reverse.mp new)).1
      exact Or.inr (served answer wanted)
    · exact keeps.answered answer old

private theorem goesOn_serves {result : Exchange.Step σ} {entry : Booking}
    {later : Exchange.Phase} {wire : Wire σ}
    (goes : result.goesOn? = some (later, wire))
    (serves : result.Serves settings meters shows entry now) :
    wire.Listens ∧
      later.Stands settings meters entry now (shows wire.line) wire.ready := by
  cases result with
  | next phase other =>
      cases goes
      exact serves
  | wait phase other wake =>
      cases goes
      exact serves
  | done outcome other => cases goes

/-- A turn of the worker keeps the book. -/
theorem work (keeps : port.Keeps settings meters shows known book now)
    {line : Line σ} (metered : line.Metered settings meters shows)
    (short : settings.wait < 2 ^ 63) :
    (port.work line now).Keeps settings meters shows known book now := by
  have runs := keeps.runs
  have steps : ∀ command phase,
      port.worker.stage = .busy command phase →
        ∃ entry, Booked known book command.number entry ∧
          (Exchange.step port.settings line now command.request phase
            port.wire).Serves settings meters shows entry now := by
    intro command phase busy
    obtain ⟨entry, booked, request, stands⟩ := keeps.busy command phase busy
    have timely := keeps.since entry booked.mem
    refine ⟨entry, booked, ?_⟩
    rw [keeps.named, request]
    exact Exchange.step_serves metered short timely runs.listens stands
  have serving : ∀ cause, port.phase ≠ .aborting cause := by
    intro cause aborting
    rw [runs.serving] at aborting
    cases aborting
  cases port.workTurn line now with
  | rests nothing worker wire answers =>
      obtain ⟨idle, rest⟩ := keeps.idle nothing
      have still : (port.workerProgress line now).worker =
          { port.worker with stage := .idle } := by
        rw [worker, ← idle]
      apply keeps.advance still
      · rw [wire]
        exact runs.listens
      · exact fun _ member => member
      · intro stopped
        cases stopped
      · rw [wire]
        exact fun _ => rest
      · intro command phase busy
        cases busy
      · rw [answers]
        intro answer member
        cases member
  | stops _ reason =>
      rcases reason with stopping | closed | ⟨cause, aborting⟩
      · rw [runs.going] at stopping
        cases stopping
      · rw [runs.opened] at closed
        cases closed
      · exact (serving cause aborting).elim
  | takes command rest idle _ queue worker wire answers =>
      have nothing : port.worker.inHand? = none := by
        simp [Worker.inHand?, idle]
      obtain ⟨_, taken, quiet⟩ := keeps.idle nothing
      have first : command ∈ port.worker.queue := by
        rw [queue]
        exact List.mem_cons_self
      obtain ⟨entry, booked, request⟩ := keeps.queued command first
      apply keeps.advance worker
      · rw [wire]
        exact runs.listens
      · rw [queue]
        exact fun _ member => List.mem_cons_of_mem command member
      · intro stopped
        cases stopped
      · intro empty
        cases empty
      · rw [wire]
        intro other phase busy
        cases busy
        exact ⟨entry, booked, request, taken, quiet⟩
      · rw [answers]
        intro answer member
        cases member
  | proceeds command phase later busy _ goes worker answers =>
      obtain ⟨entry, booked, request, _⟩ := keeps.busy command phase busy
      obtain ⟨other, again, serves⟩ := steps command phase busy
      cases booked.unique again
      obtain ⟨listens, stands⟩ := goesOn_serves goes serves
      apply keeps.advance worker
      · exact listens
      · exact fun _ member => member
      · intro stopped
        cases stopped
      · intro empty
        cases empty
      · intro same next stage
        cases stage
        exact ⟨entry, booked, request, stands⟩
      · rw [answers]
        intro answer member
        cases member
  | concludes command phase outcome wire busy _ done worker after answers =>
      obtain ⟨entry, booked, serves⟩ := steps command phase busy
      rw [done] at serves
      obtain ⟨listens, served, rest⟩ := serves
      have line_eq : (port.workerProgress line now).wire.line = wire.line := by
        rw [after]
        split <;> rfl
      apply keeps.advance worker
      · rw [after]
        split
        · exact ⟨listens.listening, listens.faultless⟩
        · exact ⟨listens.listening, listens.faultless⟩
      · exact fun _ member => member
      · intro stopped
        cases stopped
      · rw [line_eq]
        exact fun _ => rest
      · intro same next stage
        cases stage
      · rw [answers]
        intro answer member
        rw [List.mem_singleton.mp member]
        exact ⟨entry, booked, served⟩
  | givesUp _ _ cause _ aborting =>
      exact (serving cause aborting).elim

/-- What the answer to a booked command is. -/
theorem answer (keeps : port.Keeps settings meters shows known book now)
    {number : Nat} {entry : Booking} {outcome : Except Failure Bytes}
    (booked : Booked known book number entry)
    (answered : port.answer? number = some outcome) :
    entry.Served settings meters now outcome := by
  obtain ⟨answer, found, rfl⟩ := Option.map_eq_some_iff.mp answered
  have same : answer.number = number := by
    simpa using List.find?_some found
  rcases keeps.answered answer (List.mem_of_find?_eq_some found) with
    old | ⟨other, again, served⟩
  · have new := booked.1
    omega
  · rw [same] at again
    rw [booked.unique again]
    exact served

end Keeps

end Port

end MeterLine
