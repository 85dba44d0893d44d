import MeterLine.Failure
import MeterLine.Port.Event
import MeterLine.Bytes

/-!
# Lines

A line is the stream of octets behind an open port.  It is given by what it
answers, in any state of its own, to four questions: how many octets are
buffered, and what comes of a read, a write and a flush.  An answer may come
with events, which reach the listener before the answer does.  All times are
milliseconds since a common start.
-/

namespace MeterLine

inductive Poll (α : Type) where
  | ready (value : α)
  /-- Not yet; asking again is of use from the instant `wake` on, if ever. -/
  | pending (wake : Option Nat)
  deriving Repr, DecidableEq

/-- What a line answers, and what becomes of it. -/
structure LineAnswer (σ α : Type) where
  value : α
  line : σ
  events : List PortEvent

/-- A line with states of type `σ`. -/
structure Line (σ : Type) where
  available : Nat → σ → LineAnswer σ (Except Failure Nat)
  read : Nat → Nat → σ → LineAnswer σ (Poll (Except StreamFault Bytes))
  /-- A write; the answer is the number of octets taken. -/
  write : Nat → Bytes → σ → LineAnswer σ (Poll (Except StreamFault Nat))
  flush : Nat → σ → LineAnswer σ (Poll (Except StreamFault Unit))

end MeterLine
