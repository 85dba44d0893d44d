import Mathlib.Data.List.Forall2
import Mathlib.Data.List.Nodup
import MeterLine.Proofs.Port.History

/-!
# Every call is answered once

Calls are numbered in the order in which they start.  At every moment the
numbers of all calls divide into those that were answered, those whose answer
found nobody waiting, and those of commands in hand or in the queue.  An answer
carries what the exchange of the caller's own request came to, or says that the
port does not run.  When a session is over nothing is left in hand or queued.
-/

namespace MeterLine

namespace Port

/-- What the exchange in hand comes to in the next turn of the worker. -/
def Concludes (line : Line σ) (now : Nat) (port : Port σ) (command : Command)
    (outcome : Except Failure Bytes) : Prop :=
  ∃ phase wire, port.worker.stage = .busy command phase ∧
    (∀ cause, port.phase ≠ .aborting cause) ∧
    Exchange.step port.settings line now command.request phase port.wire =
      .done outcome wire

/-- An answer that a turn of the worker may give to a command. -/
structure Answers (line : Line σ) (now : Nat) (port : Port σ)
    (command : Command) (answer : CommandAnswer) : Prop where
  number : answer.number = command.number
  outcome : port.Refuses answer ∨
    port.Concludes line now command answer.outcome

private theorem refuse_answers (line : Line σ) (now : Nat) (port : Port σ)
    (commands : List Command) :
    List.Forall₂ (port.Answers line now) commands
      (commands.map (Worker.refuse port.settings)) := by
  induction commands with
  | nil => exact .nil
  | cons command commands induction =>
      exact .cons ⟨rfl, Or.inl rfl⟩ induction

/-- A turn of the worker answers the first of the outstanding commands, all of
them or none. -/
theorem workerProgress_answers (line : Line σ) (now : Nat) (port : Port σ) :
    ∃ answered,
      port.worker.outstanding =
        answered ++ (port.workerProgress line now).worker.outstanding ∧
      List.Forall₂ (port.Answers line now) answered
        (port.workerProgress line now).answers := by
  cases port.workTurn line now with
  | rests _ worker _ answers =>
      refine ⟨[], ?_, ?_⟩
      · rw [worker, List.nil_append]
      · rw [answers]
        exact .nil
  | stops nothing _ worker _ answers =>
      refine ⟨port.worker.queue, ?_, ?_⟩
      · rw [worker, Worker.outstanding_of_none nothing,
          Worker.ended_outstanding, List.append_nil]
      · rw [answers]
        exact refuse_answers line now port _
  | takes command rest idle _ queue worker _ answers =>
      have nothing : port.worker.inHand? = none := by
        simp [Worker.inHand?, idle]
      refine ⟨[], ?_, ?_⟩
      · rw [Worker.outstanding_of_none nothing, worker,
          Worker.outstanding_of_busy rfl, queue, List.nil_append]
      · rw [answers]
        exact .nil
  | proceeds command phase later busy _ _ worker answers =>
      refine ⟨[], ?_, ?_⟩
      · rw [worker, Worker.outstanding_of_busy busy,
          Worker.outstanding_of_busy rfl, List.nil_append]
      · rw [answers]
        exact .nil
  | concludes command phase outcome wire busy ongoing step worker _ answers =>
      refine ⟨[command], ?_, ?_⟩
      · rw [worker, Worker.outstanding_of_busy busy,
          Worker.outstanding_of_none rfl, List.singleton_append]
      · rw [answers]
        exact .cons ⟨rfl, Or.inr ⟨phase, wire, busy, ongoing, step⟩⟩ .nil
  | givesUp command phase cause busy _ worker _ answers =>
      refine ⟨command :: port.worker.queue, ?_, ?_⟩
      · rw [worker, Worker.outstanding_of_busy busy,
          Worker.ended_outstanding, List.append_nil]
      · rw [answers]
        exact refuse_answers line now port _

theorem answered_numbers {line : Line σ} {now : Nat} {port : Port σ}
    {answered : List Command} {answers : List CommandAnswer}
    (matched : List.Forall₂ (port.Answers line now) answered answers) :
    answered.map Command.number = answers.map CommandAnswer.number := by
  induction matched with
  | nil => rfl
  | cons head _ induction =>
      rw [List.map_cons, List.map_cons, head.number, induction]

/-- What others do leaves the outstanding commands as they are. -/
theorem outstanding_perform_of_control {port : Port σ}
    (disciplined : port.Disciplined) (line : Line σ) (now : Nat)
    {action : Action} (control : action.isControl = true) :
    (port.perform line now action).worker.outstanding =
      port.worker.outstanding := by
  cases begins : port.beginsSession action with
  | false =>
      obtain ⟨closed, stopping, worker, _, _⟩ :=
        worker_perform_of_control line now control begins
      rw [worker]
      rfl
  | true =>
      obtain ⟨rfl, opened⟩ := (beginsSession_iff port action).mp begins
      rw [disciplined.outstanding (by rw [opened]; rfl)]
      rcases worker_supervise_of_opened now opened with worker | worker <;>
        simp [perform, worker, Worker.outstanding, Worker.inHand?,
          Worker.fresh]

end Port

namespace History

/-- Calls are numbered one after the other, and every number belongs to an
answer, to an answer that found nobody waiting, or to an outstanding
command. -/
structure Numbered (history : History σ) : Prop where
  counted : history.port.commands = history.calls.length
  divided : ∃ lost : List Nat,
    (∀ number ∈ lost, number ∈ history.port.abandoned) ∧
    (history.answered.map CommandAnswer.number ++ lost ++
      history.port.worker.outstanding.map Command.number).Perm
        (List.range' 1 history.port.commands)

namespace Numbered

theorem fresh (settings : PortSettings) (reopenDelay : Nat) (state : σ) :
    Numbered (History.fresh settings reopenDelay state) :=
  { counted := rfl
    divided := ⟨[], by simp, List.Perm.refl _⟩ }

private theorem range_succ (count : Nat) :
    List.range' 1 (count + 1) = List.range' 1 count ++ [count + 1] := by
  rw [List.range'_1_concat, Nat.add_comm 1 count]

theorem submit {history : History σ} (numbered : history.Numbered)
    (line : Line σ) (now : Nat) (request : Bytes) :
    (history.perform line now (.submit request)).Numbered := by
  obtain ⟨counted, lost, abandoned, divided⟩ := numbered
  rcases Port.submit_cases history.port request with
    ⟨_, _, _, equality⟩ | equality
  · refine ⟨?_, lost, ?_, ?_⟩
    · simp [perform, Port.perform, equality, Port.Action.request?, counted]
    · simpa [perform, Port.perform, equality] using abandoned
    · simp only [answered, perform, Port.perform, equality, Port.refusal?,
        Option.toList_none, List.append_nil, Worker.outstanding_enqueue,
        List.map_append, range_succ, ← List.append_assoc] at divided ⊢
      exact divided.append (List.Perm.refl _)
  · refine ⟨?_, lost, ?_, ?_⟩
    · simp [perform, Port.perform, equality, Port.Action.request?, counted]
    · simpa [perform, Port.perform, equality] using abandoned
    · simp only [answered, perform, Port.perform, equality, Port.refusal?,
        Option.toList_some, List.map_append, range_succ] at divided ⊢
      refine List.perm_iff_count.mpr fun number => ?_
      have counts := List.perm_iff_count.mp divided number
      simp only [List.count_append, List.map_cons, List.map_nil] at counts ⊢
      omega

theorem work {history : History σ} (numbered : history.Numbered)
    (line : Line σ) (now : Nat) :
    (history.perform line now .work).Numbered := by
  obtain ⟨counted, lost, abandoned, divided⟩ := numbered
  obtain ⟨answered, outstanding, matched⟩ :=
    history.port.workerProgress_answers line now
  have numbers := Port.answered_numbers matched
  let answers := (history.port.workerProgress line now).answers
  let lostNow := (answers.filter fun answer =>
    !(!history.port.abandoned.contains answer.number)).map
      CommandAnswer.number
  refine ⟨?_, lost ++ lostNow, ?_, ?_⟩
  · simpa [perform, Port.perform, Port.work, Port.advance, Port.deliver,
      Port.Action.request?] using counted
  · intro number member
    change number ∈ history.port.abandoned
    rcases List.mem_append.mp member with old | new
    · exact abandoned number old
    · obtain ⟨answer, inside, rfl⟩ := List.mem_map.mp new
      simpa using (List.mem_filter.mp inside).2
  · have sorted := List.filter_append_perm
      (fun answer : CommandAnswer =>
        !history.port.abandoned.contains answer.number) answers
    refine List.perm_iff_count.mpr fun number => ?_
    have counts := List.perm_iff_count.mp divided number
    have kept := List.perm_iff_count.mp
      (sorted.map CommandAnswer.number) number
    rw [outstanding, List.map_append, numbers] at counts
    rw [History.answered, perform, Port.answers_perform]
    simp only [History.answered, Port.perform, Port.work, Port.advance,
      Port.deliver, Port.refusal?, Port.deliveries, Option.toList_none,
      List.append_nil, List.map_append, List.map_reverse, List.count_append,
      List.count_reverse, lostNow, answers] at counts kept ⊢
    omega

theorem perform {history : History σ} (numbered : history.Numbered)
    (disciplined : history.port.Disciplined) (line : Line σ) (now : Nat)
    (action : Port.Action) :
    (history.perform line now action).Numbered := by
  cases action using Port.Action.byPart with
  | control action control =>
      obtain ⟨counted, lost, abandoned, divided⟩ := numbered
      have books :=
        Port.books_perform_of_control line now history.port control
      have commands := congrArg Port.Books.commands books
      have left := congrArg Port.Books.abandoned books
      have answers := congrArg Port.Books.answers books
      simp only [Port.books] at commands left answers
      refine ⟨?_, lost, ?_, ?_⟩
      · simp [History.perform, commands, Port.request?_of_control control,
          counted]
      · simpa [History.perform, left] using abandoned
      · simpa [answered, History.perform, commands, answers,
          Port.refusal?_of_control history.port control,
          Port.outstanding_perform_of_control disciplined line now control]
          using divided
  | submit request => exact numbered.submit line now request
  | abandon number =>
      obtain ⟨counted, lost, abandoned, divided⟩ := numbered
      refine ⟨?_, lost, ?_, ?_⟩
      · simpa [History.perform, Port.perform, Port.Action.request?]
          using counted
      · intro other member
        exact List.mem_cons_of_mem _ (abandoned other member)
      · simpa [answered, History.perform, Port.perform, Port.refusal?]
          using divided
  | work => exact numbered.work line now

theorem nodup {history : History σ} (numbered : history.Numbered) :
    (history.answered.map CommandAnswer.number).Nodup := by
  obtain ⟨_, lost, _, divided⟩ := numbered
  have distinct := divided.nodup_iff.mpr List.nodup_range'
  exact (List.nodup_append.mp (List.nodup_append.mp distinct).1).1

theorem answer?_of_mem {history : History σ} (numbered : history.Numbered)
    {answer : CommandAnswer} (member : answer ∈ history.port.answers) :
    history.port.answer? answer.number = some answer.outcome := by
  have distinct : (history.port.answers.map CommandAnswer.number).Nodup := by
    have all := numbered.nodup
    rw [answered, List.map_append] at all
    exact (List.nodup_append.mp all).2.1
  cases found : history.port.answers.find? fun other =>
      other.number == answer.number with
  | none =>
      have missing := List.find?_eq_none.mp found answer member
      simp at missing
  | some other =>
      have number : other.number = answer.number := by
        simpa using List.find?_some found
      have same := List.inj_on_of_nodup_map distinct
        (List.mem_of_find?_eq_some found) member number
      rw [Port.answer?, found, same]
      rfl

theorem bounds {history : History σ} (numbered : history.Numbered)
    {number : Nat}
    (member : number ∈ history.answered.map CommandAnswer.number ∨
      number ∈ history.port.worker.outstanding.map Command.number) :
    1 ≤ number ∧ number ≤ history.calls.length := by
  obtain ⟨counted, lost, _, divided⟩ := numbered
  have inRange : number ∈ List.range' 1 history.port.commands := by
    refine divided.subset ?_
    rcases member with answered | outstanding
    · simp [answered]
    · simp [outstanding]
  rw [List.mem_range'_1] at inRange
  omega

end Numbered

/-- A call with a number and a request was made. -/
def Called (history : History σ) (number : Nat) (request : Bytes) : Prop :=
  1 ≤ number ∧ history.calls[number - 1]? = some request

/-- The exchange of a command came to an outcome in one of the sessions. -/
def Exchanged (history : History σ) (command : Command)
    (outcome : Except Failure Bytes) : Prop :=
  ∃ session ∈ history.sessions, ∃ handling ∈ session.finished,
    handling.command = command ∧ handling.outcome = some outcome

/-- An answer says that the port does not run, or carries what the exchange of
the caller's own request came to. -/
def Carries (history : History σ) (answer : CommandAnswer) : Prop :=
  history.port.Refuses answer ∨
    ∃ request, history.Called answer.number request ∧
      history.Exchanged
        { number := answer.number
          request := request } answer.outcome

theorem Called.perform {history : History σ} {number : Nat} {request : Bytes}
    (called : history.Called number request) (line : Line σ) (now : Nat)
    (action : Port.Action) :
    (history.perform line now action).Called number request := by
  refine ⟨called.1, ?_⟩
  have inside := (List.getElem?_eq_some_iff.mp called.2).1
  simp only [History.perform]
  rw [List.getElem?_append_left inside]
  exact called.2

theorem finished_observe (line : Line σ) (now : Nat) (action : Port.Action)
    (port : Port σ) (session : Session σ) :
    session.finished ⊆ (session.observe line now action port).finished := by
  cases action <;> try exact fun _ member => member
  case submit request =>
      rcases Port.submit_cases port request with
        ⟨_, _, _, equality⟩ | equality <;>
        simp [Session.observe, equality, Session.enqueue]
  case work =>
      change session.finished ⊆ (session.work line now port).finished
      cases session.workTurn line now port with
      | idles _ _ _ same => rw [same]; exact fun _ member => member
      | takes _ _ _ _ _ _ _ same => rw [same]; exact fun _ member => member
      | proceeds _ _ _ _ _ _ same =>
          rw [same]
          exact fun _ member => member
      | concludes _ _ _ _ _ _ _ _ _ same =>
          rw [same]
          exact List.subset_append_left _ _
      | givesUp _ _ _ _ _ _ same =>
          rw [same]
          exact List.subset_append_left _ _

theorem Exchanged.perform {history : History σ} {command : Command}
    {outcome : Except Failure Bytes}
    (exchanged : history.Exchanged command outcome) (line : Line σ)
    (now : Nat) (action : Port.Action) :
    (history.perform line now action).Exchanged command outcome := by
  obtain ⟨session, known, handling, finished, same⟩ := exchanged
  cases begins : history.port.beginsSession action with
  | true =>
      have earlier := (perform_of_begin line now begins).2
      refine ⟨session, ?_, handling, finished, same⟩
      exact List.mem_cons_of_mem _ (earlier ▸ known)
  | false =>
      have ongoing := perform_of_ongoing line now begins
      rcases List.mem_cons.mp known with rfl | past
      · refine ⟨_, List.mem_cons_self, handling, ?_, same⟩
        rw [ongoing.1]
        exact finished_observe line now action history.port _ finished
      · refine ⟨session, ?_, handling, finished, same⟩
        exact List.mem_cons_of_mem _ (ongoing.2 ▸ past)

theorem Carries.perform {history : History σ} {answer : CommandAnswer}
    (carries : history.Carries answer) (line : Line σ) (now : Nat)
    (action : Port.Action) :
    (history.perform line now action).Carries answer := by
  rcases carries with refuses | ⟨request, called, exchanged⟩
  · exact Or.inl (refuses_perform refuses line now action)
  · right
    exact ⟨request, called.perform line now action,
      exchanged.perform line now action⟩

/-- Outstanding commands hold the requests of their calls, and answers carry
what they have to. -/
structure Faithful (history : History σ) : Prop where
  requested : ∀ command ∈ history.port.worker.outstanding,
    history.Called command.number command.request
  refused : ∀ answer ∈ history.refused, history.port.Refuses answer
  carried : ∀ answer ∈ history.port.answers, history.Carries answer

namespace Faithful

theorem fresh (settings : PortSettings) (reopenDelay : Nat) (state : σ) :
    Faithful (History.fresh settings reopenDelay state) := by
  constructor
  · intro command member
    cases member
  · intro answer member
    cases member
  · intro answer member
    cases member

theorem keep {history : History σ} (faithful : history.Faithful)
    (line : Line σ) (now : Nat) {action : Port.Action}
    (outstanding : (history.perform line now action).port.worker.outstanding =
      history.port.worker.outstanding)
    (refusal : history.port.refusal? action = none)
    (deliveries : history.port.deliveries line now action = []) :
    (history.perform line now action).Faithful := by
  constructor
  · intro command member
    rw [outstanding] at member
    exact (faithful.requested command member).perform line now action
  · intro answer member
    have old : answer ∈ history.refused := by
      simpa [History.perform, refusal] using member
    exact refuses_perform (faithful.refused answer old) line now action
  · intro answer member
    have old : answer ∈ history.port.answers := by
      rw [History.perform, Port.answers_perform, deliveries] at member
      exact member
    exact (faithful.carried answer old).perform line now action

theorem submit {history : History σ} (faithful : history.Faithful)
    (numbered : history.Numbered) (line : Line σ) (now : Nat)
    (request : Bytes) :
    (history.perform line now (.submit request)).Faithful := by
  have newCall : (history.perform line now (.submit request)).Called
      (history.port.commands + 1) request := by
    refine ⟨by omega, ?_⟩
    simp [History.perform, Port.Action.request?, numbered.counted]
  have carried : ∀ answer ∈
      (history.perform line now (.submit request)).port.answers,
      (history.perform line now (.submit request)).Carries answer := by
    intro answer member
    rw [History.perform, Port.answers_perform] at member
    exact (faithful.carried answer member).perform line now _
  rcases Port.submit_cases history.port request with
    ⟨_, _, _, equality⟩ | equality
  · refine ⟨?_, ?_, carried⟩
    · intro command member
      simp only [History.perform, Port.perform, equality,
        Worker.outstanding_enqueue, List.mem_append,
        List.mem_singleton] at member
      rcases member with old | rfl
      · exact (faithful.requested command old).perform line now _
      · exact newCall
    · intro answer member
      have old : answer ∈ history.refused := by
        simpa [History.perform, Port.refusal?, equality] using member
      exact refuses_perform (faithful.refused answer old) line now _
  · refine ⟨?_, ?_, carried⟩
    · intro command member
      simp only [History.perform, Port.perform, equality] at member
      exact (faithful.requested command member).perform line now _
    · intro answer member
      simp only [History.perform, Port.refusal?, equality,
        Option.toList_some, List.mem_append, List.mem_singleton] at member
      rcases member with old | rfl
      · exact refuses_perform (faithful.refused answer old) line now _
      · simp [Port.Refuses, History.perform, Port.perform, equality]

/-- An exchange that comes to its outcome is noted in the session. -/
theorem exchanged_of_concludes {history : History σ}
    (watches : history.Watches) {line : Line σ} {now : Nat}
    {command : Command} {outcome : Except Failure Bytes}
    (concludes : history.port.Concludes line now command outcome) :
    (history.perform line now .work).Exchanged command outcome := by
  obtain ⟨phase, wire, busy, ongoing, step⟩ := concludes
  obtain ⟨handling, present, rfl, _⟩ := watches.current busy
  have session : (history.perform line now .work).session =
      (history.session.accept
        (Exchange.accepted line now phase history.port.wire)).putDown
          (some outcome) := by
    change history.session.work line now history.port = _
    rw [history.session.work_of_busy line now busy ongoing, step]
    rfl
  refine ⟨_, List.mem_cons_self,
    (handling.accept
      (Exchange.accepted line now phase history.port.wire)).finish
        (some outcome), ?_, rfl, rfl⟩
  rw [session]
  simp [Session.putDown, Session.accept, present]

private theorem answer_command {related : Command → CommandAnswer → Prop}
    {commands : List Command} {answers : List CommandAnswer}
    (matched : List.Forall₂ related commands answers)
    {answer : CommandAnswer} (member : answer ∈ answers) :
    ∃ command ∈ commands, related command answer := by
  induction matched with
  | nil => cases member
  | cons head _ induction =>
      rcases List.mem_cons.mp member with rfl | later
      · exact ⟨_, List.mem_cons_self, head⟩
      · obtain ⟨command, inside, holds⟩ := induction later
        exact ⟨command, List.mem_cons_of_mem _ inside, holds⟩

theorem work {history : History σ} (faithful : history.Faithful)
    (watches : history.Watches) (line : Line σ) (now : Nat) :
    (history.perform line now .work).Faithful := by
  obtain ⟨answered, outstanding, matched⟩ :=
    history.port.workerProgress_answers line now
  constructor
  · intro command member
    refine (faithful.requested command ?_).perform line now _
    rw [outstanding]
    exact List.mem_append_right _ member
  · intro answer member
    have old : answer ∈ history.refused := by
      simpa [History.perform, Port.refusal?] using member
    exact refuses_perform (faithful.refused answer old) line now _
  · intro answer member
    rw [History.perform, Port.answers_perform] at member
    rcases List.mem_append.mp member with new | old
    · have given := (List.mem_filter.mp (List.mem_reverse.mp new)).1
      obtain ⟨command, inside, number, outcome⟩ :=
        answer_command matched given
      rcases outcome with refused | concludes
      · exact Or.inl refused
      · right
        have called := faithful.requested command (by
          rw [outstanding]
          exact List.mem_append_left _ inside)
        refine ⟨command.request, ?_, ?_⟩
        · rw [number]
          exact called.perform line now _
        · rw [number]
          exact exchanged_of_concludes watches concludes
    · exact (faithful.carried answer old).perform line now _

theorem perform {history : History σ} (faithful : history.Faithful)
    (disciplined : history.port.Disciplined) (numbered : history.Numbered)
    (watches : history.Watches) (line : Line σ) (now : Nat)
    (action : Port.Action) :
    (history.perform line now action).Faithful := by
  cases action using Port.Action.byPart with
  | control action control =>
      have quiet : history.port.deliveries line now action = [] := by
        cases action <;>
          simp_all [Port.Action.isControl, Port.deliveries]
      exact faithful.keep line now
        (Port.outstanding_perform_of_control disciplined line now control)
        (Port.refusal?_of_control history.port control) quiet
  | submit request => exact faithful.submit numbered line now request
  | abandon number => exact faithful.keep line now rfl rfl rfl
  | work => exact faithful.work watches line now

end Faithful

def Settled (history : History σ) (command : Command) : Prop :=
  command.number ∈ history.port.answers.map CommandAnswer.number ∨
    command.number ∈ history.port.abandoned

theorem Settled.perform {history : History σ} {command : Command}
    (settled : history.Settled command) (line : Line σ) (now : Nat)
    (action : Port.Action) :
    (history.perform line now action).Settled command := by
  rcases settled with answered | abandoned
  · left
    rw [History.perform, Port.answers_perform, List.map_append]
    exact List.mem_append_right _ answered
  · right
    rcases Port.abandoned_perform line now action history.port with
      same | ⟨number, _, more⟩
    · simp only [History.perform, same, abandoned]
    · simp [History.perform, more, abandoned]

/-- Every queued command is settled, but for those that are outstanding in the
latest session. -/
structure Settling (history : History σ) : Prop where
  present : ∀ command ∈ history.session.queued,
    history.Settled command ∨ command ∈ history.port.worker.outstanding
  past : ∀ session ∈ history.earlier, ∀ command ∈ session.queued,
    history.Settled command

namespace Settling

theorem fresh (settings : PortSettings) (reopenDelay : Nat) (state : σ) :
    Settling (History.fresh settings reopenDelay state) :=
  { present := by
      intro command member
      cases member
    past := by
      intro session member
      cases member }

theorem settled_of_answered {history : History σ} {line : Line σ} {now : Nat}
    {answered : List Command}
    (matched : List.Forall₂ (history.port.Answers line now) answered
      (history.port.workerProgress line now).answers)
    {command : Command} (member : command ∈ answered) :
    (history.perform line now .work).Settled command := by
  have numbers := Port.answered_numbers matched
  have given : command.number ∈
      (history.port.workerProgress line now).answers.map
        CommandAnswer.number := by
    rw [← numbers]
    exact List.mem_map_of_mem member
  obtain ⟨answer, inside, number⟩ := List.mem_map.mp given
  rw [Settled, ← number]
  rcases answered_or_abandoned inside with answered | left
  · exact Or.inl (List.mem_map_of_mem answered)
  · exact Or.inr left

theorem queued_work (line : Line σ) (now : Nat) (port : Port σ)
    (session : Session σ) :
    (session.work line now port).queued = session.queued := by
  cases session.workTurn line now port with
  | idles _ _ _ same => rw [same]
  | takes _ _ _ _ _ _ _ same => rw [same]; rfl
  | proceeds _ _ _ _ _ _ same => rw [same]; rfl
  | concludes _ _ _ _ _ _ _ _ _ same => rw [same]; rfl
  | givesUp _ _ _ _ _ _ same => rw [same]; rfl

theorem begin {history : History σ} (settling : history.Settling)
    (disciplined : history.port.Disciplined) (line : Line σ) (now : Nat)
    {action : Port.Action}
    (begins : history.port.beginsSession action = true) :
    (history.perform line now action).Settling := by
  have changed := perform_of_begin line now begins
  have opened := ((Port.beginsSession_iff history.port action).mp begins).2
  have nothing := disciplined.outstanding (by rw [opened]; rfl)
  constructor
  · rw [changed.1]
    intro command member
    cases member
  · rw [changed.2]
    intro session known command member
    rcases List.mem_cons.mp known with rfl | past
    · rcases settling.present command member with settled | outstanding
      · exact settled.perform line now action
      · rw [nothing] at outstanding
        cases outstanding
    · exact (settling.past session past command member).perform line now
        action

theorem perform {history : History σ} (settling : history.Settling)
    (disciplined : history.port.Disciplined) (line : Line σ) (now : Nat)
    (action : Port.Action) :
    (history.perform line now action).Settling := by
  cases begins : history.port.beginsSession action with
  | true => exact settling.begin disciplined line now begins
  | false =>
      have changed := perform_of_ongoing line now begins
      constructor
      · rw [changed.1]
        intro command member
        cases action using Port.Action.byPart with
        | control action control =>
            rw [observe_of_control line now _ _ control] at member
            rcases settling.present command member with settled | outstanding
            · exact Or.inl (settled.perform line now action)
            · right
              rwa [History.perform,
                Port.outstanding_perform_of_control disciplined line now
                  control]
        | submit request =>
            rcases Port.submit_cases history.port request with
              ⟨_, _, _, equality⟩ | equality
            · simp only [Session.observe, equality, Session.enqueue,
                List.mem_append, List.mem_singleton] at member
              have pending : (history.port.perform line now
                  (.submit request)).worker.outstanding =
                  history.port.worker.outstanding ++
                    [history.port.nextCommand request] := by
                simp only [Port.perform, equality,
                  Worker.outstanding_enqueue]
              rcases member with old | rfl
              · rcases settling.present command old with
                  settled | outstanding
                · exact Or.inl (settled.perform line now _)
                · right
                  rw [History.perform, pending]
                  exact List.mem_append_left _ outstanding
              · right
                rw [History.perform, pending]
                exact List.mem_append_right _ (List.mem_singleton_self _)
            · simp only [Session.observe, equality] at member
              rcases settling.present command member with
                settled | outstanding
              · exact Or.inl (settled.perform line now _)
              · right
                rw [History.perform]
                simpa only [Port.perform, equality] using outstanding
        | abandon number =>
            rcases settling.present command member with
              settled | outstanding
            · exact Or.inl (settled.perform line now _)
            · exact Or.inr outstanding
        | work =>
            obtain ⟨answered, outstanding, matched⟩ :=
              history.port.workerProgress_answers line now
            rw [Session.observe, queued_work] at member
            rcases settling.present command member with settled | pending
            · exact Or.inl (settled.perform line now _)
            · rw [outstanding] at pending
              rcases List.mem_append.mp pending with now_ | later
              · exact Or.inl (settled_of_answered matched now_)
              · exact Or.inr later
      · rw [changed.2]
        intro session past command member
        exact (settling.past session past command member).perform line now
          action

theorem ended {history : History σ} (settling : history.Settling)
    (disciplined : history.port.Disciplined) {session : Session σ}
    (closed : session ∈ history.ended) {command : Command}
    (queued : command ∈ session.queued) : history.Settled command := by
  unfold History.ended at closed
  split at closed
  case isTrue inside => exact settling.past session closed command queued
  case isFalse outside =>
      rcases List.mem_cons.mp closed with rfl | past
      · rcases settling.present command queued with settled | outstanding
        · exact settled
        · rw [disciplined.outstanding (by simpa using outside)]
            at outstanding
          cases outstanding
      · exact settling.past session past command queued

end Settling

/-- What holds of a history at every moment. -/
structure Accounted (history : History σ) : Prop where
  disciplined : history.port.Disciplined
  watches : history.Watches
  numbered : history.Numbered
  faithful : history.Faithful
  settling : history.Settling

namespace Accounted

theorem fresh (settings : PortSettings) (reopenDelay : Nat) (state : σ) :
    Accounted (History.fresh settings reopenDelay state) :=
  { disciplined := Port.Disciplined.fresh settings reopenDelay state
    watches := Watches.fresh settings reopenDelay state
    numbered := Numbered.fresh settings reopenDelay state
    faithful := Faithful.fresh settings reopenDelay state
    settling := Settling.fresh settings reopenDelay state }

theorem perform {history : History σ} (accounted : history.Accounted)
    (line : Line σ) (now : Nat) (action : Port.Action) :
    (history.perform line now action).Accounted :=
  { disciplined := accounted.disciplined.perform line now action
    watches := accounted.watches.perform line now action
    numbered :=
      accounted.numbered.perform accounted.disciplined line now action
    faithful :=
      accounted.faithful.perform accounted.disciplined accounted.numbered
        accounted.watches line now action
    settling :=
      accounted.settling.perform accounted.disciplined line now action }

theorem run {history : History σ} (accounted : history.Accounted)
    (line : Line σ) (actions : List (Nat × Port.Action)) :
    (history.run line actions).Accounted :=
  run_induction (motive := Accounted) line
    (fun _ now action held => held.perform line now action) actions accounted

/-- What the caller of a command finds is about its own call. -/
theorem answer_called {history : History σ} (accounted : history.Accounted)
    {answer : CommandAnswer} (member : answer ∈ history.port.answers) :
    ∃ request, history.Called answer.number request ∧
      (history.port.Refuses answer ∨
        history.Exchanged
          { number := answer.number
            request := request } answer.outcome) := by
  rcases accounted.faithful.carried answer member with
    refuses | ⟨request, called, exchanged⟩
  · have bounds := accounted.numbered.bounds
      (Or.inl (List.mem_map_of_mem (List.mem_append_right _ member)))
    have inside : answer.number - 1 < history.calls.length := by omega
    exact ⟨history.calls[answer.number - 1],
      ⟨bounds.1, List.getElem?_eq_getElem inside⟩, Or.inl refuses⟩
  · exact ⟨request, called, Or.inr exchanged⟩

end Accounted

/-- However calls, signals, events, the supervisor and the worker of a port
take turns, and however its line answers: calls are numbered one after the
other; each call was turned away at once, finds one answer at the port, was
left by its caller before its answer came, or is outstanding, and it is one of
these only; a call that is turned away is told that the port does not run, with
its own number; an answer that a caller finds says the same, or carries what
the exchange of the caller's own request came to; and once a session is over,
the callers of all commands that were queued in it find their answers, unless
they had gone. -/
theorem every_call_answered_once (settings : PortSettings)
    (reopenDelay : Nat) (state : σ) (line : Line σ)
    (actions : List (Nat × Port.Action)) :
    let history := (History.fresh settings reopenDelay state).run line actions
    let next := history.calls.length + 1
    history.port =
        (Port.fresh settings reopenDelay state).run line actions ∧
      history.calls = actions.filterMap (fun entry => entry.2.request?) ∧
      (∀ request, (history.port.submit request).2 = .ok next ∨
        (history.port.submit request).2 =
          .error (.notRunning settings.name (.ofNat next))) ∧
      (∃ lost : List Nat,
        (∀ number ∈ lost,
          ∃ now, (now, Port.Action.abandon number) ∈ actions) ∧
        (history.refused.map CommandAnswer.number ++
            history.port.answers.map CommandAnswer.number ++ lost ++
            history.port.worker.outstanding.map Command.number).Perm
          (List.range' 1 history.calls.length)) ∧
      (∀ answer ∈ history.refused,
        answer.outcome =
          .error (.notRunning settings.name (.ofNat answer.number))) ∧
      (∀ answer ∈ history.port.answers,
        history.port.answer? answer.number = some answer.outcome ∧
        ∃ request, history.Called answer.number request ∧
          (answer.outcome =
              .error (.notRunning settings.name (.ofNat answer.number)) ∨
            history.Exchanged
              { number := answer.number
                request := request } answer.outcome)) ∧
      ∀ session ∈ history.ended, ∀ command ∈ session.queued,
        (∃ outcome, history.port.answer? command.number = some outcome) ∨
          ∃ now, (now, Port.Action.abandon command.number) ∈ actions := by
  intro history next
  have accounted : history.Accounted :=
    (Accounted.fresh settings reopenDelay state).run line actions
  have port : history.port =
      (Port.fresh settings reopenDelay state).run line actions :=
    run_port line actions (History.fresh settings reopenDelay state)
  have calls : history.calls =
      actions.filterMap (fun entry => entry.2.request?) :=
    run_calls line actions (History.fresh settings reopenDelay state)
  have named : history.port.settings = settings := by
    rw [port]
    exact Port.settings_run line actions (Port.fresh settings reopenDelay state)
  have counted := accounted.numbered.counted
  have left : ∀ number ∈ history.port.abandoned,
      ∃ now, (now, Port.Action.abandon number) ∈ actions := by
    intro number gone
    rw [port] at gone
    rcases Port.abandoned_run line gone with before | abandoned
    · cases before
    · exact abandoned
  refine ⟨port, calls, ?_, ?_, ?_, ?_, ?_⟩
  · intro request
    rcases history.port.submit_cases request with
      ⟨_, _, _, admitted⟩ | refused
    · left
      rw [admitted, counted]
    · right
      rw [refused, counted, named]
  · obtain ⟨lost, abandoned, divided⟩ := accounted.numbered.divided
    refine ⟨lost, fun number member => left number (abandoned number member),
      ?_⟩
    rw [← List.map_append, ← counted]
    exact divided
  · intro answer member
    rw [accounted.faithful.refused answer member, named]
  · intro answer member
    obtain ⟨request, called, told⟩ := accounted.answer_called member
    refine ⟨accounted.numbered.answer?_of_mem member, request, called, ?_⟩
    rcases told with refuses | exchanged
    · left
      rw [refuses, named]
    · exact Or.inr exchanged
  · intro session closed command queued
    rcases accounted.settling.ended accounted.disciplined closed queued with
      answered | gone
    · obtain ⟨answer, member, number⟩ := List.mem_map.mp answered
      exact Or.inl ⟨answer.outcome,
        number ▸ accounted.numbered.answer?_of_mem member⟩
    · exact Or.inr (left _ gone)

end History

end MeterLine
