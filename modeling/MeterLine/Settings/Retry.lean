/-!
# Retry settings

How often a request whose reply was damaged or foreign is repeated, how long to
pause before each repetition, and how long a whole execution may take.
-/

namespace MeterLine

/-- Retries of one execution.  Times are whole milliseconds, and of any
length. -/
structure RetryPolicy where
  maxRetries : UInt32
  /-- The pause before a repetition. -/
  delay : Nat
  /-- How long the whole execution may take. -/
  deadline : Nat
  deriving Repr, DecidableEq, Inhabited

/-- Two retries a tenth of a second apart, five seconds in all. -/
def RetryPolicy.standard : RetryPolicy :=
  { maxRetries := 2
    delay := 100
    deadline := 5000 }

def standardReopenDelay : Nat := 5000

end MeterLine
