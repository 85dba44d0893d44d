import Mathlib
import MeterLine.Proofs.Port.Bearing

/-!
# Disposal

A port that was disposed of ends, and the line is cleaned up behind it at most
once more.  In which state it ends, and whether the line is cleaned up, depends
on what the supervisor had seen when the port was disposed of, and on
cancellation that overtakes the disposal.
-/

namespace MeterLine

namespace Port

/-- Everything that ever happens to a port, and when. -/
structure Course (σ : Type) where
  settings : PortSettings
  reopenDelay : Nat
  line : Line σ
  state : σ
  beats : Nat → Nat × Action

namespace Course

def instant (course : Course σ) (beat : Nat) : Nat :=
  (course.beats beat).1

def action (course : Course σ) (beat : Nat) : Action :=
  (course.beats beat).2

def before (course : Course σ) (beat : Nat) : Port σ :=
  (Port.fresh course.settings course.reopenDelay course.state).run course.line
    ((List.range beat).map course.beats)

/-- At some beat since a disposal, the last one included, the port was in one
of these phases and cancelled. -/
def CancelledIn (course : Course σ) (phases : Phase → Bool)
    (disposal last : Nat) : Prop :=
  ∃ met, disposal < met ∧ met ≤ last ∧
    phases (course.before met).phase = true ∧
    (course.before met).cancelSignal = true

/-- Time passes, an attempt to open the line is answered, and the supervisor
and the worker get their turns. -/
structure Fair (course : Course σ) : Prop where
  ordered : ∀ beat, course.instant beat ≤ course.instant (beat + 1)
  endless : ∀ instant, ∃ beat, instant ≤ course.instant beat
  answered : ∀ beat, ∃ later, beat ≤ later ∧
    ∃ fault, course.action later = .answerOpen fault
  supervised : ∀ beat, ∃ later, beat ≤ later ∧
    course.action later = .supervise
  worked : ∀ beat, ∃ later, beat ≤ later ∧ course.action later = .work

variable {course : Course σ} {disposal beat later : Nat}

theorem before_succ (course : Course σ) (beat : Nat) :
    course.before (beat + 1) =
      (course.before beat).perform course.line (course.instant beat)
        (course.action beat) := by
  simp [before, run, List.range_succ, instant, action]

theorem CancelledIn.mono {phases : Phase → Bool}
    (cancelled : course.CancelledIn phases disposal beat)
    (le : beat ≤ later) : course.CancelledIn phases disposal later := by
  obtain ⟨met, behind, upTo, there⟩ := cancelled
  exact ⟨met, behind, Nat.le_trans upTo le, there⟩

theorem CancelledIn.behind {phases : Phase → Bool}
    (cancelled : course.CancelledIn phases disposal beat) :
    disposal < beat := by
  obtain ⟨met, behind, upTo, _⟩ := cancelled
  exact Nat.lt_of_lt_of_le behind upTo

theorem CancelledIn.succ {phases : Phase → Bool}
    (cancelled : course.CancelledIn phases disposal (beat + 1)) :
    course.CancelledIn phases disposal beat ∨
      phases (course.before (beat + 1)).phase = true ∧
        (course.before (beat + 1)).cancelSignal = true := by
  obtain ⟨met, behind, upTo, there⟩ := cancelled
  rcases Nat.le_or_eq_of_le_succ upTo with earlier | rfl
  · exact Or.inl ⟨met, behind, earlier, there⟩
  · exact Or.inr there

theorem uncancelled_before (course : Course σ) (beat : Nat)
    (uncancelled : ∀ earlier < beat, course.action earlier ≠ .cancel) :
    (course.before beat).Uncancelled := by
  induction beat with
  | zero => exact ⟨rfl, rfl⟩
  | succ beat induction =>
      rw [before_succ]
      apply Uncancelled.perform
      · apply induction
        intro earlier behind
        exact uncancelled earlier (Nat.lt_succ_of_lt behind)
      · exact uncancelled beat (Nat.lt_succ_self beat)

theorem signalled_before (course : Course σ) (beat : Nat) :
    (course.before beat).disposed = true →
      (course.before beat).disposeSignal = true :=
  (agrees_run course.line ((List.range beat).map course.beats)
    (agrees_fresh course.settings course.reopenDelay course.state)).signalled

theorem disposeSignal_dispose (port : Port σ)
    (signalled : port.disposed = true → port.disposeSignal = true) :
    port.dispose.disposeSignal = true := by
  unfold dispose
  split
  case isTrue disposed => exact signalled disposed
  case isFalse => rfl

/-- A port that was disposed of at a beat, and not cancelled before. -/
structure Disposes (course : Course σ) (disposal : Nat) : Prop where
  disposes : course.action disposal = .dispose
  uncancelled : ∀ earlier < disposal, course.action earlier ≠ .cancel

namespace Disposes

theorem bearing (disposes : course.Disposes disposal) :
    (course.before (disposal + 1)).bearing =
      (course.before disposal).bearing := by
  rw [before_succ, disposes.disposes]
  exact bearing_dispose _

theorem signal (disposes : course.Disposes disposal)
    (behind : disposal < beat) :
    (course.before beat).disposeSignal = true := by
  induction beat, behind using Nat.le_induction with
  | base =>
      rw [before_succ, disposes.disposes]
      exact disposeSignal_dispose _ (course.signalled_before disposal)
  | succ beat _ induction =>
      rw [before_succ]
      exact (signals_perform _ _ _ _).1 induction

theorem moves (disposes : course.Disposes disposal)
    (behind : disposal < beat) :
    (course.before beat).bearing.Moves (course.before (beat + 1)).bearing := by
  rw [before_succ]
  exact moves_perform (disposes.signal behind) _ _ _

theorem phase_or_rank (disposes : course.Disposes disposal)
    (behind : disposal < beat) (le : beat ≤ later) :
    (course.before later).phase = (course.before beat).phase ∨
      (course.before later).phase.rank < (course.before beat).phase.rank := by
  induction later, le using Nat.le_induction with
  | base => exact Or.inl rfl
  | succ later le induction =>
      have step := (disposes.moves (Nat.lt_of_lt_of_le behind le)).phase
      simp only [Port.bearing] at step
      rcases step with same | falls
      · rw [same]
        exact induction
      · right
        rcases induction with same | fell
        · rw [← same]
          exact falls
        · exact Nat.lt_trans falls fell

theorem cancelSignal (disposes : course.Disposes disposal)
    (behind : disposal < beat) (le : beat ≤ later)
    (cancelled : (course.before beat).cancelSignal = true) :
    (course.before later).cancelSignal = true := by
  induction later, le using Nat.le_induction with
  | base => exact cancelled
  | succ later le induction =>
      exact (disposes.moves (Nat.lt_of_lt_of_le behind le)).cancelled induction

theorem endState_of_cancelled (disposes : course.Disposes disposal)
    (cancelled : course.CancelledIn Phase.heedsCancel disposal beat) :
    (course.before beat).bearing.endState = .closed := by
  obtain ⟨met, behind, le, heeds, signalled⟩ := cancelled
  induction beat, le using Nat.le_induction with
  | base => exact Bearing.endState_of_cancelled heeds signalled
  | succ beat le induction =>
      have moves := disposes.moves (Nat.lt_of_lt_of_le behind le)
      rcases moves.endState with kept | ⟨heeds, signalled⟩
      · exact kept.trans induction
      · exact Bearing.endState_of_cancelled heeds signalled

theorem endState_of_uncancelled (disposes : course.Disposes disposal)
    (behind : disposal < beat)
    (uncancelled : ¬course.CancelledIn Phase.heedsCancel disposal beat) :
    (course.before beat).bearing.endState = .disposed := by
  induction beat, behind using Nat.le_induction with
  | base =>
      rw [disposes.bearing]
      exact (course.uncancelled_before disposal disposes.uncancelled).2
  | succ beat behind induction =>
      rcases (disposes.moves behind).endState with kept | ⟨heeds, signalled⟩
      · rw [kept]
        apply induction
        intro cancelled
        exact uncancelled (cancelled.mono (Nat.le_succ beat))
      · exact (uncancelled ⟨beat + 1, Nat.lt_succ_of_lt behind,
          Nat.le_refl _, heeds, signalled⟩).elim

theorem overtaken_or_near (disposes : course.Disposes disposal)
    (cancelled : course.CancelledIn Phase.atHand disposal beat) :
    (course.before beat).bearing.overtaken = true ∨
      (course.before beat).phase.rank ≤ 2 := by
  obtain ⟨met, behind, le, atHand, signalled⟩ := cancelled
  rcases disposes.phase_or_rank behind le with same | falls
  · left
    simp only [Bearing.overtaken, Port.bearing, same, atHand,
      disposes.cancelSignal behind le signalled, Bool.and_self]
  · right
    rw [Phase.rank_of_atHand atHand] at falls
    omega

theorem near_later (disposes : course.Disposes disposal)
    (behind : disposal < beat) (near : (course.before beat).phase.rank ≤ 2)
    (le : beat ≤ later) : (course.before later).phase.rank ≤ 2 := by
  rcases disposes.phase_or_rank behind le with same | falls
  · rw [same]
    exact near
  · omega

theorem cleaningsAtEnd_of_uncancelled (disposes : course.Disposes disposal)
    (behind : disposal < beat)
    (uncancelled : ¬course.CancelledIn Phase.atHand disposal beat) :
    (course.before beat).bearing.cleaningsAtEnd =
      (course.before disposal).wire.cleanings +
        (course.before disposal).phase.faulted.toNat := by
  induction beat, behind using Nat.le_induction with
  | base =>
      rw [disposes.bearing]
      exact (course.uncancelled_before disposal
        disposes.uncancelled).cleaningsAtEnd
  | succ beat behind induction =>
      have kept : (course.before (beat + 1)).bearing.overtaken = false := by
        apply Bool.eq_false_iff.mpr
        intro overtaken
        obtain ⟨atHand, signalled⟩ := Bool.and_eq_true_iff.mp overtaken
        exact uncancelled ⟨beat + 1, Nat.lt_succ_of_lt behind,
          Nat.le_refl _, atHand, signalled⟩
      rw [(disposes.moves behind).cleaningsAtEnd, kept]
      apply induction
      intro cancelled
      exact uncancelled (cancelled.mono (Nat.le_succ beat))

theorem cleaningsAtEnd_of_cancelled (disposes : course.Disposes disposal)
    (cancelled : course.CancelledIn Phase.atHand disposal beat) :
    (course.before beat).bearing.cleaningsAtEnd =
      (course.before disposal).wire.cleanings +
        (course.before disposal).phase.faulted.toNat + 1 := by
  have behind := cancelled.behind
  -- The beat at which the session is first met cancelled adds one.  Before it
  -- nothing was added, and behind it no other session is at hand.
  induction beat, behind using Nat.le_induction with
  | base =>
      rcases cancelled.succ with before | ⟨_, signalled⟩
      · exact (Nat.lt_irrefl disposal before.behind).elim
      · have same := congrArg Bearing.cancelled disposes.bearing
        rw [show (course.before (disposal + 1)).bearing.cancelled = _ from
            signalled] at same
        rw [show (course.before disposal).bearing.cancelled = _ from
          (course.uncancelled_before disposal disposes.uncancelled).1] at same
        cases same
  | succ beat behind induction =>
      have moves := disposes.moves behind
      rw [moves.cleaningsAtEnd]
      by_cases already : course.CancelledIn Phase.atHand disposal beat
      · have kept : ((course.before (beat + 1)).bearing.overtaken &&
            !(course.before beat).bearing.overtaken) = false := by
          rcases disposes.overtaken_or_near already with overtaken | near
          · simp [overtaken]
          · have next := disposes.near_later behind near (Nat.le_succ beat)
            rw [Bearing.not_overtaken_of_rank next, Bool.false_and]
        rw [kept]
        exact induction already
      · have overtaken : (course.before (beat + 1)).bearing.overtaken =
            true := by
          rcases cancelled.succ with before | ⟨atHand, signalled⟩
          · exact (already before).elim
          · exact Bool.and_eq_true_iff.mpr ⟨atHand, signalled⟩
        have spared : (course.before beat).bearing.overtaken = false := by
          apply Bool.eq_false_iff.mpr
          intro overtaken
          obtain ⟨atHand, signalled⟩ := Bool.and_eq_true_iff.mp overtaken
          exact already ⟨beat, behind, Nat.le_refl beat, atHand, signalled⟩
        rw [overtaken, spared,
          disposes.cleaningsAtEnd_of_uncancelled behind already]
        rfl

theorem cleanings_le (disposes : course.Disposes disposal)
    (behind : disposal < beat) :
    (course.before disposal).wire.cleanings ≤
      (course.before beat).wire.cleanings := by
  induction beat, behind using Nat.le_induction with
  | base =>
      have same := congrArg Bearing.cleanings disposes.bearing
      exact Nat.le_of_eq same.symm
  | succ beat behind induction =>
      exact Nat.le_trans induction (disposes.moves behind).cleanings

/-- No session follows one that is being ended because of the hardware. -/
theorem not_cancelledIn_of_faulted (disposes : course.Disposes disposal)
    (faulted : (course.before disposal).phase.faulted = true) :
    ¬course.CancelledIn Phase.atHand disposal beat := by
  rintro ⟨met, behind, _, atHand, _⟩
  have near : (course.before (disposal + 1)).phase.rank ≤ 2 := by
    have same := congrArg Bearing.phase disposes.bearing
    simp only [Port.bearing] at same
    rw [same]
    exact Phase.rank_of_faulted faulted
  have later := disposes.near_later (Nat.lt_succ_self disposal) near behind
  rw [Phase.rank_of_atHand atHand] at later
  omega

/-- The line is going to have been cleaned up once more, or as often as
before. -/
theorem cleaningsAtEnd_cases (disposes : course.Disposes disposal)
    (behind : disposal < beat) :
    let found := course.before disposal
    let cleanings := (course.before beat).bearing.cleaningsAtEnd
    ((found.phase.faulted = true ∨
          course.CancelledIn Phase.atHand disposal beat) ∧
        cleanings = found.wire.cleanings + 1) ∨
      (¬(found.phase.faulted = true ∨
          course.CancelledIn Phase.atHand disposal beat) ∧
        cleanings = found.wire.cleanings) := by
  intro found cleanings
  by_cases cancelled : course.CancelledIn Phase.atHand disposal beat
  · have sound : found.phase.faulted = false := by
      apply Bool.eq_false_iff.mpr
      intro faulted
      exact disposes.not_cancelledIn_of_faulted faulted cancelled
    have counted := disposes.cleaningsAtEnd_of_cancelled cancelled
    rw [show (course.before disposal).phase.faulted = false from sound]
      at counted
    exact Or.inl ⟨Or.inr cancelled, counted⟩
  · have counted := disposes.cleaningsAtEnd_of_uncancelled behind cancelled
    cases faulted : found.phase.faulted with
    | true =>
        rw [show (course.before disposal).phase.faulted = true from faulted]
          at counted
        exact Or.inl ⟨Or.inl rfl, counted⟩
    | false =>
        rw [show (course.before disposal).phase.faulted = false from faulted]
          at counted
        exact Or.inr ⟨by simp [cancelled], counted⟩

theorem instant_mono (fair : course.Fair) (le : beat ≤ later) :
    course.instant beat ≤ course.instant later := by
  induction later, le using Nat.le_induction with
  | base => exact Nat.le_refl _
  | succ later _ induction => exact Nat.le_trans induction (fair.ordered later)

/-- The port comes closer to its end at a beat, if it has not done so before. -/
theorem falls_at (disposes : course.Disposes disposal)
    (behind : disposal < beat) (le : beat ≤ later)
    (step : (course.before later).phase = (course.before beat).phase →
      (course.before (later + 1)).phase.rank <
        (course.before beat).phase.rank) :
    ∃ other, beat ≤ other ∧
      (course.before other).phase.rank < (course.before beat).phase.rank := by
  rcases disposes.phase_or_rank behind le with same | falls
  · exact ⟨later + 1, Nat.le_succ_of_le le, step same⟩
  · exact ⟨later, le, falls⟩

theorem supervised (disposes : course.Disposes disposal)
    (behind : disposal < beat) (turn : course.action beat = .supervise) :
    (course.before beat).bearing.Supervised (course.instant beat)
      (course.before (beat + 1)).bearing := by
  rw [before_succ, turn]
  exact supervised_supervise (disposes.signal behind) _

/-- A worker that was told to end stays at its end until the session is torn
down. -/
theorem stopped_or_falls (disposes : course.Disposes disposal)
    (behind : disposal < beat) {cause : SessionEnd}
    (aborting : (course.before beat).phase = .aborting cause)
    (stopped : (course.before beat).worker.stage = .stopped)
    (le : beat ≤ later) :
    ((course.before later).phase = .aborting cause ∧
        (course.before later).worker.stage = .stopped) ∨
      (course.before later).phase.rank < 1 := by
  induction later, le using Nat.le_induction with
  | base => exact Or.inl ⟨aborting, stopped⟩
  | succ later le induction =>
      have after := Nat.lt_of_lt_of_le behind le
      have step := (disposes.moves after).phase
      simp only [Port.bearing] at step
      rcases induction with ⟨aborting, stopped⟩ | fell
      · rcases step with same | falls
        · refine Or.inl ⟨same.trans aborting, ?_⟩
          rw [before_succ]
          apply stopped_perform stopped
          cases action : course.action later <;>
            simp [beginsSession, aborting]
        · rw [aborting] at falls
          exact Or.inr falls
      · right
        rcases step with same | falls
        · rw [same]
          exact fell
        · exact Nat.lt_trans falls fell

theorem falls (fair : course.Fair) (disposes : course.Disposes disposal)
    (behind : disposal < beat)
    (going : (course.before beat).phase ≠ .finished) :
    ∃ later, beat ≤ later ∧
      (course.before later).phase.rank < (course.before beat).phase.rank := by
  -- With rank three one turn of the supervisor is enough.  It waits for the
  -- answer of the line, for a deadline, and in the end for the worker.
  have looks : (course.before beat).phase.rank = 3 →
      ∃ later, beat ≤ later ∧
        (course.before later).phase.rank <
          (course.before beat).phase.rank := by
    intro looks
    obtain ⟨later, le, turn⟩ := fair.supervised beat
    apply disposes.falls_at behind le
    intro same
    have supervised :=
      disposes.supervised (Nat.lt_of_lt_of_le behind le) turn
    rw [looks]
    apply supervised.falls
    rw [← looks, ← same]
    rfl
  cases phase : (course.before beat).phase with
  | starting => exact phase ▸ looks (by rw [phase]; rfl)
  | opened fault => exact phase ▸ looks (by rw [phase]; rfl)
  | serving => exact phase ▸ looks (by rw [phase]; rfl)
  | pausing deadline => exact phase ▸ looks (by rw [phase]; rfl)
  | finished => exact (going phase).elim
  | opening =>
      obtain ⟨later, le, fault, answer⟩ := fair.answered beat
      rw [← phase]
      apply disposes.falls_at behind le
      intro same
      rw [before_succ, answer, perform,
        phase_answerOpen (same.trans phase), phase]
      exact Nat.lt_succ_self 3
  | closing cause deadline =>
      obtain ⟨due, late⟩ := fair.endless deadline
      obtain ⟨later, le, turn⟩ := fair.supervised (max beat due)
      have upTo : beat ≤ later := Nat.le_trans (Nat.le_max_left _ _) le
      have since : due ≤ later := Nat.le_trans (Nat.le_max_right _ _) le
      rw [← phase]
      apply disposes.falls_at behind upTo
      intro same
      have supervised :=
        disposes.supervised (Nat.lt_of_lt_of_le behind upTo) turn
      rw [phase]
      apply supervised.late (same.trans phase)
      exact Nat.le_trans late (instant_mono fair since)
  | aborting cause =>
      obtain ⟨stop, le, work⟩ := fair.worked beat
      have after := Nat.lt_of_lt_of_le behind le
      rcases disposes.phase_or_rank behind le with same | falls
      · have aborting := same.trans phase
        have next : (course.before (stop + 1)).phase = .aborting cause := by
          rw [before_succ, work]
          exact aborting
        have stopped : (course.before (stop + 1)).worker.stage =
            .stopped := by
          rw [before_succ, work]
          exact stopped_work_of_aborting aborting _ _
        obtain ⟨later, behindStop, turn⟩ := fair.supervised (stop + 1)
        have afterStop : disposal < stop + 1 := Nat.lt_succ_of_lt after
        rcases disposes.stopped_or_falls afterStop next stopped
          behindStop with ⟨still, stopped⟩ | fell
        · refine ⟨later + 1, by omega, ?_⟩
          rw [before_succ, turn, perform, rank_supervise_of_stopped
            (disposes.signal (by omega)) still stopped]
          exact Nat.lt_succ_self 0
        · exact ⟨later, by omega, fell⟩
      · rw [phase] at falls
        exact ⟨stop, le, falls⟩

theorem finishes (fair : course.Fair) (disposes : course.Disposes disposal)
    (behind : disposal < beat) :
    ∃ last, beat ≤ last ∧ (course.before last).phase = .finished := by
  induction rank : (course.before beat).phase.rank
    using Nat.strong_induction_on generalizing beat with
  | _ rank induction =>
      by_cases going : (course.before beat).phase = .finished
      · exact ⟨beat, Nat.le_refl beat, going⟩
      · obtain ⟨later, le, falls⟩ := disposes.falls fair behind going
        obtain ⟨last, upTo, finished⟩ :=
          induction _ (rank ▸ falls) (Nat.lt_of_lt_of_le behind le) rfl
        exact ⟨last, Nat.le_trans le upTo, finished⟩

theorem finished_later (finished : (course.before beat).phase = .finished)
    (le : beat ≤ later) : (course.before later).phase = .finished := by
  induction later, le using Nat.le_induction with
  | base => exact finished
  | succ later _ induction =>
      rw [before_succ]
      exact finished_perform induction _ _ _

end Disposes

theorem not_cancelledIn (course : Course σ) (phases : Phase → Bool)
    (disposal : Nat)
    (uncancelled : ∀ earlier < beat, course.action earlier ≠ .cancel) :
    ¬course.CancelledIn phases disposal beat := by
  rintro ⟨met, _, le, _, signalled⟩
  have going : (course.before met).Uncancelled := by
    apply course.uncancelled_before
    intro earlier before
    exact uncancelled earlier (Nat.lt_of_lt_of_le before le)
  rw [going.1] at signalled
  cases signalled

/-- What becomes of a port that is disposed of before it is cancelled.  From
then on its line is cleaned up at most once.  When the port has ended, it ended
closed if cancellation was met in a phase in which the supervisor had yet to
look for it, and disposed otherwise; and the line was cleaned up if and only if
a session was being ended because of the hardware at the disposal, or one at
hand was met by cancellation afterwards.  So a port that is not cancelled at
all ends disposed, and no session that is at hand when it is disposed of is
cleaned up behind.  In fair circumstances the port does end. -/
theorem ended_after_disposal (course : Course σ) {disposal : Nat}
    (disposes : course.Disposes disposal) :
    let found := course.before disposal
    (∀ beat, disposal < beat →
      let port := course.before beat
      port.wire.cleanings ≤ found.wire.cleanings + 1 ∧
      (port.phase = .finished →
        (course.CancelledIn Phase.heedsCancel disposal beat ∧
            port.state = .closed ∨
          ¬course.CancelledIn Phase.heedsCancel disposal beat ∧
            port.state = .disposed) ∧
        (port.wire.cleanings = found.wire.cleanings + 1 ↔
          found.phase.faulted = true ∨
            course.CancelledIn Phase.atHand disposal beat)) ∧
      ((∀ earlier < beat, course.action earlier ≠ .cancel) →
        (port.phase = .finished → port.state = .disposed) ∧
        (found.phase.faulted = false →
          port.wire.cleanings = found.wire.cleanings))) ∧
    (course.Fair → ∃ last, ∀ beat, last ≤ beat →
      (course.before beat).phase = .finished) := by
  intro found
  constructor
  · intro beat behind port
    have atEnd : port.wire.cleanings ≤ port.bearing.cleaningsAtEnd :=
      port.bearing.cleanings_le_cleaningsAtEnd
    have since : found.wire.cleanings ≤ port.wire.cleanings :=
      disposes.cleanings_le behind
    have counted := disposes.cleaningsAtEnd_cases behind
    refine ⟨?_, ?_, ?_⟩
    · rcases counted with ⟨_, once⟩ | ⟨_, never⟩
      · exact Nat.le_trans atEnd (Nat.le_of_eq once)
      · exact Nat.le_succ_of_le (Nat.le_trans atEnd (Nat.le_of_eq never))
    · intro finished
      constructor
      · have ended : port.bearing.endState = port.state :=
          Bearing.endState_of_finished finished
        by_cases cancelled :
            course.CancelledIn Phase.heedsCancel disposal beat
        · have closed := disposes.endState_of_cancelled cancelled
          exact Or.inl ⟨cancelled, ended.symm.trans closed⟩
        · have disposed := disposes.endState_of_uncancelled behind cancelled
          exact Or.inr ⟨cancelled, ended.symm.trans disposed⟩
      · have ended : port.bearing.cleaningsAtEnd = port.wire.cleanings :=
          Bearing.cleaningsAtEnd_of_finished finished
        rcases counted with ⟨cleaned, once⟩ | ⟨spared, never⟩
        · exact iff_of_true (ended.symm.trans once) cleaned
        · apply iff_of_false _ spared
          exact Nat.ne_of_lt
            (Nat.lt_succ_of_le (Nat.le_of_eq (ended.symm.trans never)))
    · intro uncancelled
      have calm := fun phases =>
        course.not_cancelledIn phases disposal uncancelled
      constructor
      · intro finished
        have ended : port.bearing.endState = port.state :=
          Bearing.endState_of_finished finished
        exact ended.symm.trans
          (disposes.endState_of_uncancelled behind (calm _))
      · intro sound
        rcases counted with ⟨faulted | cancelled, _⟩ | ⟨_, never⟩
        · rw [sound] at faulted
          cases faulted
        · exact (calm _ cancelled).elim
        · exact Nat.le_antisymm
            (Nat.le_trans atEnd (Nat.le_of_eq never)) since
  · intro fair
    obtain ⟨last, _, finished⟩ :=
      disposes.finishes fair (Nat.lt_succ_self disposal)
    exact ⟨last, fun beat le => Disposes.finished_later finished le⟩

end Course

namespace Rota

def turn (beat : Nat) : Action :=
  match beat % 4 with
  | 1 => .answerOpen none
  | 3 => .work
  | _ => .supervise

def course (signals : List (Nat × Action)) : Course EchoLine :=
  { settings := PortSettings.named "p"
    reopenDelay := 0
    line := EchoLine.interface
    state := EchoLine.fresh
    beats := fun beat => (beat, (signals.lookup beat).getD (turn beat)) }

theorem behind_signals (signals : List (Nat × Action)) :
    ∃ bound, ∀ beat, bound ≤ beat →
      (course signals).action beat = turn beat := by
  induction signals with
  | nil => exact ⟨0, fun beat _ => rfl⟩
  | cons signal signals induction =>
      obtain ⟨bound, behind⟩ := induction
      refine ⟨max bound (signal.1 + 1), ?_⟩
      intro beat le
      have other : (beat == signal.1) = false := by
        rw [beq_eq_false_iff_ne]
        omega
      have same : (course (signal :: signals)).action beat =
          (course signals).action beat := by
        simp only [course, Course.action, List.lookup, other]
      rw [same]
      exact behind beat (by omega)

theorem uncancelled {signals : List (Nat × Action)} {beat : Nat}
    (others : ∀ action, (beat, action) ∈ signals → action ≠ .cancel) :
    (course signals).action beat ≠ .cancel := by
  cases known : signals.lookup beat with
  | some action =>
      obtain ⟨front, back, rfl, _⟩ := List.lookup_eq_some_iff.mp known
      simp only [course, Course.action, known, Option.getD_some]
      exact others action (by simp)
  | none =>
      simp only [course, Course.action, known, Option.getD_none, turn]
      split <;> exact nofun

theorem fair (signals : List (Nat × Action)) : (course signals).Fair := by
  obtain ⟨bound, behind⟩ := behind_signals signals
  constructor
  · exact fun beat => Nat.le_succ beat
  · exact fun instant => ⟨instant, Nat.le_refl instant⟩
  · intro beat
    refine ⟨4 * (beat + bound) + 1, by omega, none, ?_⟩
    rw [behind _ (by omega), turn, Nat.mul_add_mod]
    rfl
  · intro beat
    refine ⟨4 * (beat + bound), by omega, ?_⟩
    rw [behind _ (by omega), turn, Nat.mul_mod_right]
    rfl
  · intro beat
    refine ⟨4 * (beat + bound) + 3, by omega, ?_⟩
    rw [behind _ (by omega), turn, Nat.mul_add_mod]
    rfl

end Rota

/-- Of a port that was disposed of, cancellation that is signalled before the
supervisor looks makes a closed one, and its line is cleaned up; and so is the
line of a port that is disposed of while a session is being ended because of
the hardware. -/
theorem cleaned_up_after_disposal :
    let overtaken := Rota.course [(3, .dispose), (4, .cancel)]
    let faulted := Rota.course
      [(3, .raise (.hardwareFault "unplugged")), (5, .dispose)]
    overtaken.Disposes 3 ∧ (overtaken.before 4).wire.cleanings = 0 ∧
      (overtaken.before 9).phase = .finished ∧
      (overtaken.before 9).wire.cleanings = 1 ∧
      (overtaken.before 9).state = .closed ∧
      faulted.Disposes 5 ∧ (faulted.before 6).wire.cleanings = 0 ∧
      (faulted.before 9).wire.cleanings = 1 := by
  intro overtaken faulted
  have disposes : overtaken.Disposes 3 := by
    refine ⟨rfl, fun earlier behind => Rota.uncancelled ?_⟩
    intro action member
    simp only [List.mem_cons, Prod.mk.injEq, List.not_mem_nil,
      or_false] at member
    rcases member with ⟨_, rfl⟩ | ⟨rfl, _⟩
    · exact nofun
    · omega
  have other : faulted.Disposes 5 := by
    refine ⟨rfl, fun earlier behind => Rota.uncancelled ?_⟩
    intro action member
    simp only [List.mem_cons, Prod.mk.injEq, List.not_mem_nil,
      or_false] at member
    rcases member with ⟨_, rfl⟩ | ⟨_, rfl⟩ <;> exact nofun
  exact ⟨disposes, by decide, by decide, by decide, by decide, other,
    by decide, by decide⟩

/-- A session is at hand when the port is disposed of, and nothing else
happens. -/
theorem disposed_port_ends_disposed :
    let course := Rota.course [(3, .dispose)]
    course.Disposes 3 ∧ course.Fair ∧
      (course.before 3).phase = .serving ∧
      ∃ last, ∀ beat, last ≤ beat →
        (course.before beat).phase = .finished ∧
        (course.before beat).state = .disposed ∧
        (course.before beat).wire.cleanings = 0 := by
  intro course
  have uncancelled : ∀ beat, course.action beat ≠ .cancel := by
    refine fun beat => Rota.uncancelled ?_
    simp
  have disposes : course.Disposes 3 := ⟨rfl, fun beat _ => uncancelled beat⟩
  have fair : course.Fair := Rota.fair [(3, .dispose)]
  obtain ⟨ends, finishes⟩ := course.ended_after_disposal disposes
  obtain ⟨last, finished⟩ := finishes fair
  refine ⟨disposes, fair, by decide, last + 4, ?_⟩
  intro beat le
  have ended := finished beat (by omega)
  obtain ⟨_, _, calm⟩ := ends beat (by omega)
  obtain ⟨state, cleanings⟩ := calm fun earlier _ => uncancelled earlier
  refine ⟨ended, state ended, (cleanings (by decide)).trans (by decide)⟩

end Port

end MeterLine
