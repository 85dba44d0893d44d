import MeterLine.Port.Worker

/-!
# A worker on its own

The rig runs a worker without a port around it.  Signals are prepared for given
instants.  Time moves only when the worker waits: to the instant at which the
worker has something to do, or to the next signal if that comes first.
-/

namespace MeterLine.Bench

inductive Signal where
  | event (event : PortEvent)
  | stop
  deriving Repr, DecidableEq, Inhabited

/-- A worker, its line, the time, and signals in the order of their
instants. -/
structure WorkerRig (σ : Type) where
  settings : PortSettings
  line : Line σ
  worker : Worker
  wire : Wire σ
  now : Nat
  signals : List (Nat × Signal)
  answers : List CommandAnswer

def patience : Nat := 0x1000000000000000

namespace WorkerRig

/-- Insert a signal behind those of the same or an earlier instant. -/
def insertSignal (signal : Nat × Signal) :
    List (Nat × Signal) → List (Nat × Signal)
  | [] => [signal]
  | next :: later =>
      if signal.1 < next.1 then signal :: next :: later
      else next :: insertSignal signal later

def fresh (settings : PortSettings) (line : Line σ) (wire : Wire σ)
    (signals : List (Nat × Signal)) : WorkerRig σ :=
  { settings := settings
    line := line
    worker := Worker.fresh
    wire := wire
    now := 0
    signals := signals.foldl (fun known signal =>
      insertSignal signal known) []
    answers := [] }

def signal (rig : WorkerRig σ) : Signal → WorkerRig σ
  | .event event => { rig with wire := rig.wire.hear event }
  | .stop => { rig with worker := { rig.worker with stopping := true } }

def enqueue (rig : WorkerRig σ) (command : Command) : WorkerRig σ :=
  { rig with worker := rig.worker.enqueue command }

def sleepUntil (rig : WorkerRig σ) (instant : Nat) : WorkerRig σ :=
  let due := rig.signals.takeWhile fun entry => entry.1 < instant
  let later := rig.signals.dropWhile fun entry => entry.1 < instant
  { due.foldl (fun rig entry => rig.signal entry.2) rig with
    now := max rig.now instant
    signals := later }

/-- Whether the worker has nothing to do until it is told something. -/
def isQuiet (rig : WorkerRig σ) : Bool :=
  rig.worker.stage == .stopped ||
    (rig.worker.stage == .idle && rig.worker.queue.isEmpty &&
      !rig.worker.stopping && !rig.worker.closed)

def await (rig : WorkerRig σ) (wake : Option Nat) : Option (WorkerRig σ) :=
  match rig.signals, wake with
  | [], none => none
  | [], some wake => some { rig with now := max rig.now wake }
  | (instant, signal) :: later, wake =>
      let first : Bool :=
        match wake with
        | some wake => instant < wake
        | none => true
      if first then
        some
          ({ rig with
              now := max rig.now instant
              signals := later }.signal signal)
      else
        some { rig with now := max rig.now (wake.getD instant) }

def run (untilStopped : Bool) : Nat → WorkerRig σ → WorkerRig σ
  | 0, rig => rig
  | fuel + 1, rig =>
      let quiet := rig.isQuiet
      if rig.worker.isStopped || (quiet && !untilStopped) then rig
      else
        let progress :=
          rig.worker.step rig.settings rig.line rig.now rig.wire
        let stepped :=
          { rig with
            worker := progress.worker
            wire := progress.wire
            answers := progress.answers.reverse ++ rig.answers }
        if progress.more || progress.worker.isStopped then
          run untilStopped fuel stepped
        else
          match stepped.await progress.wake with
          | some later => run untilStopped fuel later
          | none => stepped

/-- After a pause, let the worker serve one command; its answer, and the
milliseconds that it took, come with the rig. -/
def serve (rig : WorkerRig σ) (delay : Nat) (command : Command) :
    WorkerRig σ × Option CommandAnswer × Nat :=
  let rested := rig.sleepUntil (rig.now + delay)
  let served := ({ rested with answers := [] }.enqueue command).run false
    patience
  (served, served.answers.head?, served.now - rested.now)

/-- Let the worker serve queued commands until it stops.  Unless it is told to
stop from outside, it does so after the last command. -/
def serveAll (rig : WorkerRig σ) (commands : List Command)
    (stop : Option Nat) : WorkerRig σ :=
  let queued := commands.foldl enqueue rig
  { queued with
    worker :=
      { queued.worker with
        closed := stop.isNone
        stopping := stop == some 0 } }.run true patience

end WorkerRig

end MeterLine.Bench
