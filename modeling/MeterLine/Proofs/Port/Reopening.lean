import MeterLine.Proofs.Port.Disposal
import MeterLine.Proofs.Port.Trouble

/-!
# Opening the line again

A port that could not open its line, or lost it to the hardware, opens it again
after its reopen delay, unless it was cancelled or disposed of by then.  When
time passes only while the supervisor has nothing to do, the pause takes
exactly that delay; and if every attempt fails at once, the attempts are told by
the clock alone.
-/

namespace MeterLine

namespace Port

variable {port next : Port σ} {now : Nat} {action : Action}

/-- A turn of the supervisor at this time is sure to leave the phase. -/
def Phase.due (time : Nat) : Phase → Bool
  | .starting => true
  | .opened (some _) => true
  | .pausing deadline => decide (deadline ≤ time)
  | _ => false

theorem Begins.phase_eq (begins : port.Begins next) :
    next.phase = .finished ∨ next.phase = .opening := by
  cases begins with
  | finishes => exact .inl rfl
  | opens => exact .inr rfl

theorem Pauses.phase_ne (pauses : port.Pauses now next)
    (fault : OpenFault) : next.phase ≠ .opened fault := by
  cases pauses with
  | begins _ begins =>
      rcases begins.phase_eq with phase | phase <;> rw [phase] <;> nofun
  | waits => nofun

theorem supervise_of_waits (waits : port.Waits now) :
    port.supervise now = port := by
  cases waits with
  | opening phase => rw [supervise, phase]
  | serving phase goesOn => simp only [supervise, phase, goesOn]
  | aborting cause phase going =>
      simp only [supervise, phase, going, Bool.false_eq_true, if_false]
  | pausing deadline phase going used early =>
      simp only [supervise, phase, going, used, Bool.false_eq_true, if_false,
        if_neg (Nat.not_le_of_lt early)]
  | finished phase => rw [supervise, phase]

theorem phase_supervise_ne (due : port.phase.due now = true) :
    (port.supervise now).phase ≠ port.phase := by
  have supervises := port.supervise_supervises now
  generalize port.supervise now = next at supervises
  cases supervises with
  | waits waits =>
      cases waits with
      | pausing deadline pausing _ _ early =>
          rw [pausing, Phase.due, decide_eq_true_eq] at due
          exact (Nat.not_le_of_lt early due).elim
      | opening phase => rw [phase] at due; cases due
      | serving phase => rw [phase] at due; cases due
      | aborting _ phase => rw [phase] at due; cases due
      | finished phase => rw [phase] at due; cases due
  | begins _ idle begins =>
      rcases begins.phase_eq with ended | opening <;>
        rcases idle with starting | ⟨_, pausing, _⟩ <;> simp [*]
  | resumes fault opened =>
      rcases fault with _ | ⟨stage, failure⟩
      · rw [opened] at due
        cases due
      · obtain ⟨other, resumed, _⟩ := port.resume_of_fault now stage failure
        rw [resumed, opened]
        exact (other.pause_pauses now).phase_ne _
  | ends _ phase => rw [phase] at due; cases due
  | awaits _ _ phase => rw [phase] at due; cases due
  | tearsDown _ phase => rw [phase] at due; cases due

/-- A port may stay in a phase from one instant to another: it is not due
before, and nobody waits for the line to be opened. -/
structure Phase.Endures (phase : Phase) (now time : Nat) : Prop where
  ordered : now ≤ time
  due : ∀ between, now ≤ between → phase.due between = true → time ≤ between
  opening : phase = .opening → time = now

theorem Phase.Endures.eq_of_due {phase : Phase} {time : Nat}
    (endures : phase.Endures now time) (due : phase.due now = true) :
    time = now :=
  Nat.le_antisymm (endures.due now (Nat.le_refl now) due) endures.ordered

theorem Phase.Endures.eq_of_trying {phase : Phase} {time : Nat}
    (endures : phase.Endures now time)
    (trying : phase = .opening ∨ ∃ trouble, phase = .opened (some trouble)) :
    time = now := by
  rcases trying with opening | ⟨trouble, opened⟩
  · exact endures.opening opening
  · exact endures.eq_of_due (by rw [opened]; rfl)

/-- Where a port stands at an instant, if all the attempts it made since the
start have failed at once. -/
inductive Rhythm (start made : Nat) (port : Port σ) (now : Nat) : Prop where
  | starts :
      port.phase = .starting → made = 0 → now = start →
      Rhythm start made port now
  | tries (rounds : Nat) :
      (port.phase = .opening ∨
        ∃ trouble, port.phase = .opened (some trouble)) →
      made = rounds + 1 →
      now = start + rounds * port.reopenDelay → Rhythm start made port now
  | pauses (rounds : Nat) :
      port.phase = .pausing (start + (rounds + 1) * port.reopenDelay) →
      made = rounds + 1 →
      start + rounds * port.reopenDelay ≤ now →
      now ≤ start + (rounds + 1) * port.reopenDelay →
      Rhythm start made port now

namespace Rhythm

variable {start made : Nat}

theorem fresh (settings : PortSettings) (reopenDelay : Nat) (state : σ)
    (start : Nat) :
    Rhythm start 0 (Port.fresh settings reopenDelay state) start :=
  .starts rfl rfl rfl

theorem lineless (rhythm : Rhythm start made port now) : ¬port.HasLine := by
  cases rhythm with
  | starts starting => simp [HasLine, starting, Phase.inSession]
  | tries _ trying =>
      rcases trying with opening | ⟨_, opened⟩ <;>
        simp [HasLine, Phase.inSession, *]
  | pauses _ pausing => simp [HasLine, pausing, Phase.inSession]

theorem congr (rhythm : Rhythm start made port now)
    (phase : next.phase = port.phase)
    (delay : next.reopenDelay = port.reopenDelay) :
    Rhythm start made next now := by
  cases rhythm with
  | starts starting none begun =>
      exact .starts (phase.trans starting) none begun
  | tries rounds trying count begun =>
      refine .tries rounds ?_ count (by rw [delay, begun])
      rwa [phase]
  | pauses rounds pausing count since early =>
      refine .pauses rounds ?_ count ?_ ?_
      · rw [phase, pausing, delay]
      · rwa [delay]
      · rwa [delay]

/-- An action that is no signal, and no success in opening the line. -/
theorem proceed (rhythm : Rhythm start made port now)
    (proceeds : port.Proceeds now action next)
    (delay : next.reopenDelay = port.reopenDelay) (going : ¬port.Signalled)
    (fails : port.phase = .opening → action ≠ .answerOpen none) :
    Rhythm start (made + if port.Opens next then 1 else 0) next now := by
  cases proceeds with
  | stays phase =>
      have still : ¬port.Opens next := fun opens => opens.1 (phase ▸ opens.2)
      rw [if_neg still]
      exact rhythm.congr phase delay
  | answered fault answer opening opened =>
      have still : ¬port.Opens next := fun opens => opens.1 opening
      rw [if_neg still]
      cases rhythm with
      | starts starting => rw [opening] at starting; cases starting
      | tries rounds _ count begun =>
          refine .tries rounds (.inr ?_) count (by rw [delay, begun])
          cases fault with
          | none => exact (fails opening answer).elim
          | some trouble => exact ⟨trouble, opened⟩
      | pauses _ pausing => rw [opening] at pausing; cases pausing
  | serves line => exact (rhythm.lineless line).elim
  | leaves line => exact (rhythm.lineless line).elim
  | begins idle going opening =>
      have opens : port.Opens next := by
        rcases idle with phase | ⟨_, phase, _⟩ <;> simp [Opens, opening, phase]
      rw [if_pos opens]
      cases rhythm with
      | starts _ none begun =>
          refine .tries 0 (.inl opening) (by rw [none]) ?_
          rw [Nat.zero_mul, begun, Nat.add_zero]
      | tries _ trying =>
          rcases trying with phase | ⟨_, phase⟩ <;>
            simp [phase] at idle
      | pauses rounds pausing count _ early =>
          have due : start + (rounds + 1) * port.reopenDelay ≤ now := by
            simpa [pausing] using idle
          refine .tries (rounds + 1) (.inl opening) (by rw [count]) ?_
          rw [delay]
          exact Nat.le_antisymm early due
  | pauses trouble _ pausing =>
      have still : ¬port.Opens next := by simp [Opens, pausing]
      rw [if_neg still]
      rcases trouble with ⟨trouble, opened⟩ | ends
      · cases rhythm with
        | starts phase => rw [opened] at phase; cases phase
        | tries rounds _ count begun =>
            have next : now + port.reopenDelay =
                start + (rounds + 1) * port.reopenDelay := by
              rw [begun, Nat.succ_mul, Nat.add_assoc]
            refine .pauses rounds ?_ count ?_ ?_
            · rw [pausing, delay, next]
            · rw [delay, begun]
            · rw [delay, ← next]
              exact Nat.le_add_right _ _
        | pauses _ phase => rw [opened] at phase; cases phase
      · exact (rhythm.lineless (.inr ends.inSession)).elim
  | finishes _ signalled => exact (going signalled).elim

theorem pass (rhythm : Rhythm start made port now) {time : Nat}
    (endures : port.phase.Endures now time) :
    Rhythm start made port time := by
  cases rhythm with
  | starts starting none begun =>
      refine .starts starting none ?_
      rw [endures.eq_of_due (by rw [starting]; rfl), begun]
  | tries rounds trying count begun =>
      refine .tries rounds trying count ?_
      rw [endures.eq_of_trying trying, begun]
  | pauses rounds pausing count since early =>
      refine .pauses rounds pausing count (since.trans endures.ordered) ?_
      exact endures.due _ early (by rw [pausing]; simp [Phase.due])

/-- The attempts are told by the time since the start. -/
theorem made_eq (rhythm : Rhythm start made port now) {time elapsed : Nat}
    (endures : port.phase.Endures now time) (since : now ≤ start + elapsed)
    (upTo : start + elapsed ≤ time)
    (between : ¬port.reopenDelay ∣ elapsed) :
    made = elapsed / port.reopenDelay + 1 := by
  cases rhythm with
  | starts starting none begun =>
      have same := endures.eq_of_due (by rw [starting]; rfl)
      have nothing : elapsed = 0 := by omega
      exact (between (nothing ▸ Nat.dvd_zero _)).elim
  | tries rounds trying count begun =>
      have same := endures.eq_of_trying trying
      have whole : elapsed = rounds * port.reopenDelay := by omega
      exact (between (whole ▸ Nat.dvd_mul_left _ _)).elim
  | pauses rounds pausing count began early =>
      have due : time ≤ start + (rounds + 1) * port.reopenDelay :=
        endures.due _ early (by rw [pausing]; simp [Phase.due])
      have least : rounds * port.reopenDelay ≤ elapsed := by omega
      have most : elapsed ≤ (rounds + 1) * port.reopenDelay := by omega
      have other : elapsed ≠ (rounds + 1) * port.reopenDelay := by
        intro whole
        exact between (whole ▸ Nat.dvd_mul_left _ _)
      rw [count, Nat.div_eq_of_lt_le least (Nat.lt_of_le_of_ne most other)]

end Rhythm

namespace Course

variable {course : Course σ} {beat later : Nat}

theorem reopenDelay_before (course : Course σ) (beat : Nat) :
    (course.before beat).reopenDelay = course.reopenDelay := by
  induction beat with
  | zero => rfl
  | succ beat induction => rw [before_succ, reopenDelay_perform, induction]

theorem proceeds_before (delayed : 0 < course.reopenDelay) (beat : Nat) :
    (course.before beat).Proceeds (course.instant beat) (course.action beat)
      (course.before (beat + 1)) := by
  rw [before_succ]
  apply proceeds_perform
  rwa [reopenDelay_before]

theorem signalled_of_signal {signal : Nat}
    (signals : (course.action signal).isSignal = true)
    (behind : signal < later) : (course.before later).Signalled := by
  induction later, behind using Nat.le_induction with
  | base =>
      rw [before_succ]
      cases action : course.action signal with
      | cancel => exact .inl rfl
      | dispose =>
          exact .inr (disposeSignal_dispose _ (course.signalled_before signal))
      | _ => rw [action] at signals; cases signals
  | succ later _ induction =>
      rw [before_succ]
      exact induction.perform _ _ _

theorem exists_signal (signalled : (course.before beat).Signalled) :
    ∃ signal < beat, (course.action signal).isSignal = true := by
  induction beat with
  | zero => exact (not_signalled rfl rfl signalled).elim
  | succ beat induction =>
      cases signals : (course.action beat).isSignal with
      | true => exact ⟨beat, Nat.lt_succ_self beat, signals⟩
      | false =>
          have kept := (course.before beat).signals_perform_of_other
            course.line (course.instant beat) signals
          rw [before_succ, Signalled, kept.1, kept.2] at signalled
          obtain ⟨signal, behind, signals⟩ := induction signalled
          exact ⟨signal, Nat.lt_succ_of_lt behind, signals⟩

theorem attempts_of_signalled (delayed : 0 < course.reopenDelay)
    (signalled : (course.before beat).Signalled) (le : beat ≤ later) :
    (course.before later).attempts = (course.before beat).attempts := by
  have kept : ∀ later, beat ≤ later → (course.before later).Signalled := by
    intro later le
    obtain ⟨signal, behind, signals⟩ := exists_signal signalled
    exact signalled_of_signal signals (Nat.lt_of_lt_of_le behind le)
  induction later, le using Nat.le_induction with
  | base => rfl
  | succ later le induction =>
      have proceeds := proceeds_before delayed later
      exact (proceeds.attempts_of_signalled (kept later le)).trans induction

theorem attempts_of_signal (delayed : 0 < course.reopenDelay) {signal : Nat}
    (signals : (course.action signal).isSignal = true)
    (behind : signal < later) :
    (course.before later).attempts = (course.before signal).attempts := by
  have first : (course.before (signal + 1)).attempts =
      (course.before signal).attempts := by
    rw [before_succ]
    cases action : course.action signal with
    | cancel => rfl
    | dispose => exact attempts_dispose _
    | _ => rw [action] at signals; cases signals
  have signalled := signalled_of_signal signals (Nat.lt_succ_self signal)
  exact (attempts_of_signalled delayed signalled behind).trans first

/-- Time passes for ever, but only while the supervisor has nothing to do. -/
structure Prompt (course : Course σ) : Prop where
  ordered : ∀ beat, course.instant beat ≤ course.instant (beat + 1)
  endless : ∀ instant, ∃ beat, instant ≤ course.instant beat
  idle : ∀ beat time, course.instant beat ≤ time →
    time < course.instant (beat + 1) →
    (course.before (beat + 1)).supervise time = course.before (beat + 1)

namespace Prompt

theorem instant_mono (prompt : course.Prompt) (le : beat ≤ later) :
    course.instant beat ≤ course.instant later :=
  monotone_nat_of_le_succ prompt.ordered le

theorem next_le (prompt : course.Prompt) {time : Nat}
    (le : course.instant beat ≤ time)
    (due : (course.before (beat + 1)).phase.due time = true) :
    course.instant (beat + 1) ≤ time := by
  by_contra late
  have idle := prompt.idle beat time le (Nat.lt_of_not_le late)
  exact phase_supervise_ne due (congrArg Port.phase idle)

theorem exists_leaving (prompt : course.Prompt) {first time : Nat}
    (le : course.instant first ≤ time)
    (due : (course.before (first + 1)).phase.due time = true) :
    ∃ last, first < last ∧ course.instant last ≤ time ∧
      (∀ between, first < between → between ≤ last →
        (course.before between).phase = (course.before (first + 1)).phase) ∧
      (course.before (last + 1)).phase ≠
        (course.before (first + 1)).phase := by
  by_contra never
  push Not at never
  -- The phase would last for ever, and hold up time.
  have endures : ∀ last, first < last → course.instant last ≤ time ∧
      ∀ between, first < between → between ≤ last →
        (course.before between).phase =
          (course.before (first + 1)).phase := by
    intro last behind
    induction last, behind using Nat.le_induction with
    | base =>
        refine ⟨prompt.next_le le due, ?_⟩
        intro between behind upTo
        rw [Nat.le_antisymm upTo behind]
    | succ last behind induction =>
        obtain ⟨timely, same⟩ := induction
        have next := never last behind timely same
        refine ⟨prompt.next_le timely (by rwa [next]), ?_⟩
        intro between after upTo
        rcases Nat.le_or_eq_of_le_succ upTo with earlier | rfl
        · exact same between after earlier
        · exact next
  obtain ⟨far, late⟩ := prompt.endless (time + 1)
  have past := (endures (max far (first + 1)) (by omega)).1
  have before := prompt.instant_mono (Nat.le_max_left far (first + 1))
  omega

end Prompt

/-- From a beat on, the next attempt begins at a given instant, or a signal by
then keeps every attempt from beginning. -/
inductive Resumes (course : Course σ) (beat due : Nat) : Prop where
  | reopens (next : Nat) :
      beat ≤ next → course.instant next = due →
      (∀ between, beat ≤ between → between ≤ next →
        (course.before between).attempts = (course.before beat).attempts) →
      (course.before (next + 1)).attempts =
        (course.before beat).attempts + 1 →
      Resumes course beat due
  | givesUp (signal : Nat) :
      (course.action signal).isSignal = true →
      course.instant signal ≤ due →
      (∀ later, beat ≤ later →
        (course.before later).attempts = (course.before beat).attempts) →
      Resumes course beat due

/-- Trouble at a beat: the line could not be opened, or a session that had to
end because of the hardware was torn down. -/
inductive Troubled (course : Course σ) (beat : Nat) : Prop where
  | refused (trouble : OpenStage × Failure) :
      (course.before beat).phase = .opening →
      course.action beat = .answerOpen (some trouble) →
      Troubled course beat
  | tornDown :
      (course.before beat).EndsByHardware →
      (course.before (beat + 1)).phase.inSession = false →
      Troubled course beat

theorem Resumes.sooner {due : Nat} (resumes : course.Resumes later due)
    (le : beat ≤ later)
    (same : ∀ between, beat ≤ between → between ≤ later →
      (course.before between).attempts = (course.before beat).attempts) :
    course.Resumes beat due := by
  have upTo := same later le (Nat.le_refl later)
  cases resumes with
  | reopens next behind instant kept more =>
      refine .reopens next (Nat.le_trans le behind) instant ?_
        (by rw [more, upTo])
      intro between after before
      rcases Nat.le_total between later with early | late
      · exact same between after early
      · rw [kept between late before, upTo]
  | givesUp signal signals timely kept =>
      refine .givesUp signal signals timely ?_
      intro between after
      rcases Nat.le_total between later with early | late
      · exact same between after early
      · rw [kept between late, upTo]

/-- A signal that was given before a beat rules out further attempts. -/
theorem Resumes.of_signalled (delayed : 0 < course.reopenDelay)
    (prompt : course.Prompt) {due : Nat}
    (signalled : (course.before beat).Signalled)
    (timely : course.instant beat ≤ due) : course.Resumes beat due := by
  obtain ⟨signal, behind, signals⟩ := exists_signal signalled
  refine .givesUp signal signals ?_ ?_
  · exact (prompt.instant_mono (Nat.le_of_lt behind)).trans timely
  · intro later le
    exact attempts_of_signalled delayed signalled le

theorem attempts_of_phase (delayed : 0 < course.reopenDelay) {first last : Nat}
    {phase : Phase}
    (same : ∀ between, first ≤ between → between ≤ last →
      (course.before between).phase = phase) :
    ∀ between, first ≤ between → between ≤ last →
      (course.before between).attempts = (course.before first).attempts := by
  intro between after
  induction between, after using Nat.le_induction with
  | base => exact fun _ => rfl
  | succ between after induction =>
      intro upTo
      have before := same between after (by omega)
      have next := same (between + 1) (by omega) upTo
      have proceeds := proceeds_before delayed between
      rw [proceeds.attempts_of_phase (next.trans before.symm)]
      exact induction (by omega)

/-- A pause is as long as it was meant to be. -/
theorem Prompt.resumes_of_pausing (prompt : course.Prompt)
    (delayed : 0 < course.reopenDelay) {first deadline : Nat}
    (pausing : (course.before (first + 1)).phase = .pausing deadline)
    (timely : course.instant first ≤ deadline) :
    course.Resumes (first + 1) deadline := by
  obtain ⟨last, behind, early, same, leaves⟩ :=
    prompt.exists_leaving timely (by rw [pausing]; simp [Phase.due])
  rw [pausing] at same leaves
  have kept := attempts_of_phase delayed same
  have still := same last behind (Nat.le_refl last)
  rw [← still] at leaves
  rcases (proceeds_before delayed last).of_pausing still leaves with
    ⟨due, more⟩ | ⟨signalled, _⟩
  · refine .reopens last behind (Nat.le_antisymm early due) kept ?_
    rw [more, kept last behind (Nat.le_refl last)]
  · exact (Resumes.of_signalled delayed prompt signalled early).sooner behind
      kept

/-- A port that leaves its trouble at a beat opens its line again. -/
theorem Prompt.resumes_of_trouble (prompt : course.Prompt)
    (delayed : 0 < course.reopenDelay)
    (trouble : (course.before beat).InTrouble)
    (leaves : (course.before (beat + 1)).phase ≠ (course.before beat).phase)
    (outside : (course.before beat).EndsByHardware →
      (course.before (beat + 1)).phase.inSession = false) :
    course.Resumes beat (course.instant beat + course.reopenDelay) := by
  have proceeds := proceeds_before delayed beat
  obtain ⟨attempts, pausing | signalled⟩ :=
    proceeds.of_trouble trouble leaves outside
  · rw [reopenDelay_before] at pausing
    apply (prompt.resumes_of_pausing delayed pausing
      (Nat.le_add_right _ _)).sooner (Nat.le_succ beat)
    intro between after upTo
    rcases Nat.le_or_eq_of_le_succ upTo with early | rfl
    · rw [Nat.le_antisymm early after]
    · exact attempts
  · exact .of_signalled delayed prompt signalled (Nat.le_add_right _ _)

theorem Prompt.resumes_of_troubled (prompt : course.Prompt)
    (delayed : 0 < course.reopenDelay) (troubled : course.Troubled beat) :
    course.Resumes beat (course.instant beat + course.reopenDelay) := by
  cases troubled with
  | refused trouble opening answer =>
      have opened : (course.before (beat + 1)).phase =
          .opened (some trouble) := by
        rw [before_succ, answer]
        exact phase_answerOpen opening _
      have attempts : (course.before (beat + 1)).attempts =
          (course.before beat).attempts := by
        rw [before_succ, answer]
        exact attempts_answerOpen _ _
      -- The supervisor looks at the answer while it is still the same instant.
      obtain ⟨last, behind, early, same, leaves⟩ :=
        prompt.exists_leaving (Nat.le_refl (course.instant beat))
          (by rw [opened]; rfl)
      rw [opened] at same leaves
      have kept := attempts_of_phase delayed same
      have still := same last behind (Nat.le_refl last)
      have now : course.instant last = course.instant beat :=
        Nat.le_antisymm early (prompt.instant_mono (Nat.le_of_lt behind))
      have resumes := prompt.resumes_of_trouble delayed
        (.inl ⟨trouble, still⟩) (by rwa [still])
        (by simp [EndsByHardware, still, Phase.faulted])
      rw [now] at resumes
      apply resumes.sooner (Nat.le_of_lt behind)
      intro between after upTo
      rcases Nat.eq_or_lt_of_le after with rfl | later
      · rfl
      · exact (kept between later upTo).trans attempts
  | tornDown ends outside =>
      refine prompt.resumes_of_trouble delayed (.inr ends) ?_ fun _ => outside
      intro same
      rw [same, ends.inSession] at outside
      cases outside

/-- Every attempt to open the line fails, and fails at once. -/
structure FailsAtOnce (course : Course σ) : Prop where
  fails : ∀ beat fault, (course.before beat).phase = .opening →
    course.action beat = .answerOpen fault → fault ≠ none
  atOnce : ∀ beat, (course.before (beat + 1)).phase = .opening →
    course.instant (beat + 1) = course.instant beat

theorem Prompt.endures (prompt : course.Prompt) (fails : course.FailsAtOnce)
    (beat : Nat) :
    (course.before (beat + 1)).phase.Endures (course.instant beat)
      (course.instant (beat + 1)) where
  ordered := prompt.ordered beat
  due _ le due := prompt.next_le le due
  opening opening := fails.atOnce beat opening

/-- An attempt to open the line begins at a beat. -/
def OpensAt (course : Course σ) (beat : Nat) : Prop :=
  (course.before beat).Opens (course.before (beat + 1))

instance (course : Course σ) : DecidablePred course.OpensAt :=
  fun beat => inferInstanceAs
    (Decidable ((course.before beat).Opens (course.before (beat + 1))))

theorem attempts_before (delayed : 0 < course.reopenDelay) (beat : Nat) :
    (course.before beat).attempts =
      UInt64.ofNat (Nat.count course.OpensAt beat) := by
  induction beat with
  | zero => rfl
  | succ beat induction =>
      rw [Nat.count_succ]
      rcases (proceeds_before delayed beat).opens_iff with
        ⟨opens, more⟩ | ⟨still, same⟩
      · have opens : course.OpensAt beat := opens
        rw [more, induction, if_pos opens]
        exact (UInt64.ofNat_add _ 1).symm
      · have still : ¬course.OpensAt beat := still
        rw [same, induction, if_neg still, Nat.add_zero]

/-- The rhythm of a course, right behind a beat. -/
theorem rhythm_behind (delayed : 0 < course.reopenDelay)
    (prompt : course.Prompt) (fails : course.FailsAtOnce)
    (calm : ∀ earlier ≤ beat, (course.action earlier).isSignal = false) :
    Rhythm (course.instant 0) (Nat.count course.OpensAt (beat + 1))
      (course.before (beat + 1)) (course.instant beat) := by
  have proceed : ∀ beat, (∀ earlier ≤ beat,
      (course.action earlier).isSignal = false) →
      Rhythm (course.instant 0) (Nat.count course.OpensAt beat)
        (course.before beat) (course.instant beat) →
      Rhythm (course.instant 0) (Nat.count course.OpensAt (beat + 1))
        (course.before (beat + 1)) (course.instant beat) := by
    intro beat calm rhythm
    rw [Nat.count_succ]
    refine rhythm.proceed (proceeds_before delayed beat) ?_ ?_ ?_
    · rw [reopenDelay_before, reopenDelay_before]
    · intro signalled
      obtain ⟨signal, behind, signals⟩ := exists_signal signalled
      exact Bool.false_ne_true
        ((calm signal (Nat.le_of_lt behind)).symm.trans signals)
    · intro opening answer
      exact fails.fails beat none opening answer rfl
  induction beat with
  | zero =>
      exact proceed 0 calm (Rhythm.fresh course.settings course.reopenDelay
        course.state (course.instant 0))
  | succ beat induction =>
      apply proceed (beat + 1) calm
      apply Rhythm.pass _ (prompt.endures fails beat)
      exact induction fun earlier le => calm earlier (Nat.le_succ_of_le le)

/-- The port before the next beat is the one at this time. -/
def HoldsAt (course : Course σ) (beat time : Nat) : Prop :=
  course.instant beat ≤ time ∧ time ≤ course.instant (beat + 1)

theorem Prompt.exists_holdsAt (prompt : course.Prompt) {time : Nat}
    (begun : course.instant 0 ≤ time) : ∃ beat, course.HoldsAt beat time := by
  by_contra never
  have early : ∀ beat, course.instant beat ≤ time := by
    intro beat
    induction beat with
    | zero => exact begun
    | succ beat induction =>
        by_contra late
        exact never ⟨beat, induction, Nat.le_of_not_le late⟩
  obtain ⟨beat, late⟩ := prompt.endless (time + 1)
  exact Nat.not_succ_le_self time (late.trans (early beat))

/-- No attempt to open the line begins behind a signal.  And a port whose
supervisor gets its turns in time opens its line again exactly a reopen delay
after the line could not be opened, or after a session that the hardware ended
was torn down, unless it was cancelled or disposed of by then; if every attempt
fails at once, then one is made at the start, and another one whenever a reopen
delay is over.  The port counts its attempts in sixty-four bits. -/
theorem reopened_after_delay (course : Course σ)
    (delayed : 0 < course.reopenDelay) :
    (∀ signal later, (course.action signal).isSignal = true →
      signal < later →
      (course.before later).attempts = (course.before signal).attempts) ∧
    (course.Prompt →
      (∀ beat, course.Troubled beat →
        course.Resumes beat (course.instant beat + course.reopenDelay)) ∧
      (course.FailsAtOnce → ∀ elapsed, ¬course.reopenDelay ∣ elapsed →
        let time := course.instant 0 + elapsed
        (∃ beat, course.HoldsAt beat time) ∧
        ∀ beat, course.HoldsAt beat time →
          (∀ earlier ≤ beat, (course.action earlier).isSignal = false) →
          Nat.count course.OpensAt (beat + 1) =
            elapsed / course.reopenDelay + 1)) ∧
    ∀ beat, (course.before beat).attempts =
      UInt64.ofNat (Nat.count course.OpensAt beat) := by
  refine ⟨?_, ?_, attempts_before delayed⟩
  · intro signal later signals behind
    exact attempts_of_signal delayed signals behind
  · intro prompt
    refine ⟨fun beat => prompt.resumes_of_troubled delayed, ?_⟩
    intro fails elapsed between time
    refine ⟨prompt.exists_holdsAt (Nat.le_add_right _ _), ?_⟩
    rintro beat ⟨since, upTo⟩ calm
    have rhythm := rhythm_behind delayed prompt fails calm
    have counted := rhythm.made_eq (prompt.endures fails beat) since upTo
    rw [reopenDelay_before] at counted
    exact counted between

end Course

namespace Refusals

def refusal : OpenFault :=
  some (.open, .portInUse "p" "locked")

/-- Every five seconds the supervisor runs, the line refuses to be opened, and
the supervisor runs again. -/
def course : Course EchoLine :=
  { settings := PortSettings.named "p"
    reopenDelay := 5000
    line := EchoLine.interface
    state := EchoLine.fresh
    beats := fun beat =>
      (beat / 3 * 5000,
        if beat % 3 = 1 then .answerOpen refusal else .supervise) }

def waiting : Nat → Phase
  | 0 => .starting
  | round + 1 => .pausing ((round + 1) * 5000)

def shows (port : Port EchoLine) (phase : Phase) : Prop :=
  port.phase = phase ∧ port.cancelSignal = false ∧
    port.disposeSignal = false ∧ port.reopenDelay = 5000

variable {port : Port EchoLine} {round now : Nat}

theorem shows_begin (shown : shows port (waiting round)) :
    shows (port.supervise (round * 5000)) .opening := by
  obtain ⟨phase, going, used, delay⟩ := shown
  cases round <;>
    simp [waiting] at phase <;>
    simp [shows, supervise, begin, phase, going, used, delay]

theorem shows_refusal (shown : shows port .opening) :
    shows (port.answerOpen refusal) (.opened refusal) := by
  obtain ⟨phase, going, used, delay⟩ := shown
  simp [shows, answerOpen, refusal, record, phase, going, used, delay]

theorem shows_pause (shown : shows port (.opened refusal)) (now : Nat) :
    shows (port.supervise now) (.pausing (now + 5000)) := by
  obtain ⟨phase, going, used, delay⟩ := shown
  simp [shows, supervise, phase, refusal, resume, openFailed, note, pause,
    going, used, delay]

theorem action_eq (round : Nat) :
    course.action (3 * round) = .supervise ∧
      course.action (3 * round + 1) = .answerOpen refusal ∧
      course.action (3 * round + 2) = .supervise := by
  simp [Course.action, course]

theorem instant_eq (round place : Nat) (inside : place < 3) :
    course.instant (3 * round + place) = round * 5000 := by
  have same : (3 * round + place) / 3 = round := by omega
  simp [Course.instant, course, same]

theorem shows_before (round : Nat) :
    shows (course.before (3 * round)) (waiting round) ∧
      shows (course.before (3 * round + 1)) .opening ∧
      shows (course.before (3 * round + 2)) (.opened refusal) := by
  have beats : ∀ round, shows (course.before (3 * round)) (waiting round) →
      shows (course.before (3 * round + 1)) .opening ∧
        shows (course.before (3 * round + 2)) (.opened refusal) ∧
        shows (course.before (3 * (round + 1))) (waiting (round + 1)) := by
    intro round waits
    obtain ⟨first, second, third⟩ := action_eq round
    have opening : shows (course.before (3 * round + 1)) .opening := by
      rw [Course.before_succ, first, ← Nat.add_zero (3 * round),
        instant_eq round 0 (by decide)]
      exact shows_begin waits
    have opened : shows (course.before (3 * round + 2)) (.opened refusal) := by
      rw [Course.before_succ, second]
      exact shows_refusal opening
    refine ⟨opening, opened, ?_⟩
    rw [show 3 * (round + 1) = 3 * round + 2 + 1 from rfl, Course.before_succ,
      third, instant_eq round 2 (by decide)]
    have pauses := shows_pause opened (round * 5000)
    rwa [← Nat.succ_mul] at pauses
  induction round with
  | zero =>
      have first : shows (course.before (3 * 0)) (waiting 0) :=
        ⟨rfl, rfl, rfl, rfl⟩
      exact ⟨first, (beats 0 first).1, (beats 0 first).2.1⟩
  | succ round induction =>
      have waits := (beats round induction.1).2.2
      have next := beats (round + 1) waits
      exact ⟨waits, next.1, next.2.1⟩

theorem prompt : course.Prompt where
  ordered beat := by
    simp only [Course.instant, course]
    omega
  endless instant := by
    refine ⟨3 * instant + 0, ?_⟩
    rw [instant_eq instant 0 (by decide)]
    omega
  idle beat time le early := by
    -- Time passes only from the last beat of a round to the next round.
    obtain ⟨round, rfl⟩ : ∃ round, beat = 3 * round + 2 := by
      refine ⟨beat / 3, ?_⟩
      simp only [Course.instant, course] at le early
      omega
    rw [show 3 * round + 2 + 1 = 3 * (round + 1) + 0 from rfl,
      instant_eq _ 0 (by decide)] at early
    obtain ⟨phase, going, used, _⟩ := (shows_before (round + 1)).1
    exact supervise_of_waits (.pausing _ phase going used early)

theorem failsAtOnce : course.FailsAtOnce where
  fails beat fault _ answer := by
    simp only [Course.action, course] at answer
    split at answer
    · rw [← Action.answerOpen.inj answer]
      exact Option.some_ne_none _
    · cases answer
  atOnce beat opening := by
    simp only [Course.instant, course]
    obtain ⟨waits, _, opened⟩ := shows_before ((beat + 1) / 3)
    have place : beat + 1 = 3 * ((beat + 1) / 3) ∨
        beat + 1 = 3 * ((beat + 1) / 3) + 1 ∨
        beat + 1 = 3 * ((beat + 1) / 3) + 2 := by omega
    rcases place with first | second | third
    · rw [first, waits.1] at opening
      generalize (beat + 1) / 3 = round at opening
      cases round <;> cases opening
    · omega
    · rw [third, opened.1] at opening
      cases opening

theorem calm (beat : Nat) : (course.action beat).isSignal = false := by
  simp only [Course.action, course]
  split <;> rfl

end Refusals

namespace Unplugged

/-- A session begins, the hardware fails a second later, and the line is opened
again after five more. -/
def beats : List (Nat × Action) :=
  [(0, .supervise), (0, .answerOpen none), (0, .supervise),
    (1000, .raise (.hardwareFault "unplugged")), (1000, .supervise),
    (1000, .work), (1000, .supervise), (6000, .supervise)]

def course : Course EchoLine :=
  { settings := PortSettings.named "p"
    reopenDelay := 5000
    line := EchoLine.interface
    state := EchoLine.fresh
    beats := fun beat => beats.getD beat (6000 + beat, .supervise) }

theorem instant_of_past {beat : Nat} (past : 8 ≤ beat) :
    course.instant beat = 6000 + beat := by
  have none : beats[beat]? = none := List.getElem?_eq_none past
  simp [Course.instant, course, List.getD_eq_getElem?_getD, none]

theorem opening {beat : Nat} (past : 8 ≤ beat) :
    (course.before beat).phase = .opening := by
  induction beat, past using Nat.le_induction with
  | base => decide
  | succ beat past induction =>
      have none : beats[beat]? = none := List.getElem?_eq_none past
      have turn : course.action beat = .supervise := by
        simp [Course.action, course, List.getD_eq_getElem?_getD, none]
      rw [Course.before_succ, turn, perform, supervise, induction]
      exact induction

theorem prompt : course.Prompt where
  ordered beat := by
    rcases Nat.lt_or_ge beat 8 with inside | past
    · interval_cases beat <;> decide
    · rw [instant_of_past past, instant_of_past (Nat.le_succ_of_le past)]
      omega
  endless instant := by
    refine ⟨8 + instant, ?_⟩
    rw [instant_of_past (Nat.le_add_right _ _)]
    omega
  idle beat time le early := by
    apply supervise_of_waits
    rcases Nat.lt_or_ge beat 7 with inside | past
    · have gap : beat = 2 ∨ beat = 6 := by
        interval_cases beat <;> simp [Course.instant, course, beats] at le early ⊢
        all_goals omega
      rcases gap with rfl | rfl
      · exact .serving (by decide) (by decide)
      · exact .pausing 6000 (by decide) (by decide) (by decide) early
    · exact .opening (opening (Nat.succ_le_succ past))

end Unplugged

/-- A line that is in use elsewhere is tried twelve times in fifty-nine
seconds, and one that is lost after a second is opened again after six. -/
theorem lines_opened_again :
    let refused := Refusals.course
    let unplugged := Unplugged.course
    refused.Troubled 1 ∧ refused.Resumes 1 5000 ∧
      refused.HoldsAt 35 59000 ∧ Nat.count refused.OpensAt 36 = 12 ∧
      (refused.before 36).attempts = 12 ∧
      unplugged.Troubled 6 ∧ unplugged.Resumes 6 6000 := by
  intro refused unplugged
  obtain ⟨_, behaved, recorded⟩ := refused.reopened_after_delay (by decide)
  obtain ⟨resumes, counted⟩ := behaved Refusals.prompt
  have start : ∀ place < 3, refused.instant place = 0 := by
    intro place inside
    have first := Refusals.instant_eq 0 place inside
    rwa [Nat.mul_zero, Nat.zero_add] at first
  have delay : refused.reopenDelay = 5000 := rfl
  have troubled : refused.Troubled 1 :=
    .refused _ (Refusals.shows_before 0).2.1.1 (Refusals.action_eq 0).2.1
  have resumed := resumes 1 troubled
  rw [start 1 (by decide), delay, Nat.zero_add] at resumed
  have holds : refused.HoldsAt 35 59000 := by
    constructor <;> decide
  have elapsed := counted Refusals.failsAtOnce 59000 (by decide)
  rw [start 0 (by decide), delay, Nat.zero_add] at elapsed
  have twelve := elapsed.2 35 holds fun earlier _ => Refusals.calm earlier
  have shown := recorded 36
  rw [twelve] at shown
  have tornDown : unplugged.Troubled 6 :=
    .tornDown (.inl (by decide)) (by decide)
  have reopened := ((unplugged.reopened_after_delay (by decide)).2.1
    Unplugged.prompt).1 6 tornDown
  exact ⟨troubled, resumed, holds, twelve, shown, tornDown, reopened⟩

end Port

end MeterLine
