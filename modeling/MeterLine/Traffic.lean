import MeterLine.Json

/-!
# Counting traffic

`Traffic` counts what one port does.  A `Ledger` keeps totals by name, of ports
and of functions, for whoever watches the adapter from outside.  All counters
have sixty-four bits and start over from zero when they overflow.
-/

namespace MeterLine

/-- Counters of one port. -/
structure Traffic where
  commandsSent : UInt64
  repliesReceived : UInt64
  errors : UInt64
  timeouts : UInt64
  octetsSent : UInt64
  octetsReceived : UInt64
  deriving Repr, DecidableEq, Inhabited

namespace Traffic

def zero : Traffic :=
  ⟨0, 0, 0, 0, 0, 0⟩

def sent (traffic : Traffic) (count : Nat) : Traffic :=
  { traffic with
    commandsSent := traffic.commandsSent + 1
    octetsSent := traffic.octetsSent + UInt64.ofNat count }

def received (traffic : Traffic) (count : Nat) : Traffic :=
  { traffic with
    repliesReceived := traffic.repliesReceived + 1
    octetsReceived := traffic.octetsReceived + UInt64.ofNat count }

def failed (traffic : Traffic) : Traffic :=
  { traffic with errors := traffic.errors + 1 }

def expired (traffic : Traffic) : Traffic :=
  { traffic with timeouts := traffic.timeouts + 1 }

def toJson (traffic : Traffic) : Json :=
  .record
    [("commands_sent", .natural traffic.commandsSent.toNat),
      ("responses_received", .natural traffic.repliesReceived.toNat),
      ("errors", .natural traffic.errors.toNat),
      ("timeouts", .natural traffic.timeouts.toNat),
      ("bytes_sent", .natural traffic.octetsSent.toNat),
      ("bytes_received", .natural traffic.octetsReceived.toNat)]

end Traffic

/-- Totals of one port as seen from outside. -/
structure PortTotals where
  octetsWritten : UInt64
  octetsRead : UInt64
  running : Bool
  deriving Repr, DecidableEq, Inhabited

/-- The totals of a port that nothing was told of. -/
def PortTotals.none : PortTotals :=
  ⟨0, 0, false⟩

def PortTotals.toJson (totals : PortTotals) : Json :=
  .record
    [("bytes_written", .natural totals.octetsWritten.toNat),
      ("bytes_read", .natural totals.octetsRead.toNat),
      ("running", .bool totals.running)]

structure FunctionTotals where
  succeeded : UInt64
  failed : UInt64
  deriving Repr, DecidableEq, Inhabited

def FunctionTotals.toJson (totals : FunctionTotals) : Json :=
  .record
    [("succeeded", .natural totals.succeeded.toNat),
      ("failed", .natural totals.failed.toNat)]

/-- Totals by name. -/
structure Ledger where
  ports : List (String × PortTotals)
  functions : List (String × FunctionTotals)
  deriving Repr, DecidableEq, Inhabited

namespace Ledger

def empty : Ledger :=
  { ports := []
    functions := [] }

def find (fallback : α) (name : String) : List (String × α) → α
  | [] => fallback
  | entry :: entries =>
      if entry.1 = name then entry.2 else find fallback name entries

/-- Change the entry of a name, beginning with a fallback. -/
def change (fallback : α) (name : String) (update : α → α) :
    List (String × α) → List (String × α)
  | [] => [(name, update fallback)]
  | entry :: entries =>
      if entry.1 = name then (name, update entry.2) :: entries
      else entry :: change fallback name update entries

theorem find_change (fallback : α) (name : String) (update : α → α)
    (entries : List (String × α)) :
    find fallback name (change fallback name update entries) =
      update (find fallback name entries) := by
  induction entries with
  | nil => simp [find, change]
  | cons entry entries induction =>
      by_cases same : entry.1 = name <;> simp [find, change, same, induction]

theorem find_change_of_ne (fallback : α) {name other : String}
    (update : α → α) (entries : List (String × α)) (different : other ≠ name) :
    find fallback other (change fallback name update entries) =
      find fallback other entries := by
  induction entries with
  | nil => simp [find, change, different.symm]
  | cons entry entries induction =>
      by_cases same : entry.1 = name
      · have notOther : entry.1 ≠ other := fun equal =>
          different (equal.symm.trans same)
        simp [find, change, same, different.symm]
      · by_cases here : entry.1 = other <;>
          simp [find, change, same, here, different, induction]

def port (ledger : Ledger) (name : String) : PortTotals :=
  find PortTotals.none name ledger.ports

def function (ledger : Ledger) (name : String) : FunctionTotals :=
  find ⟨0, 0⟩ name ledger.functions

def changePort (ledger : Ledger) (name : String)
    (update : PortTotals → PortTotals) : Ledger :=
  { ledger with ports := change PortTotals.none name update ledger.ports }

def written (ledger : Ledger) (name : String) (count : Nat) : Ledger :=
  ledger.changePort name fun totals =>
    { totals with octetsWritten := totals.octetsWritten + UInt64.ofNat count }

def read (ledger : Ledger) (name : String) (count : Nat) : Ledger :=
  ledger.changePort name fun totals =>
    { totals with octetsRead := totals.octetsRead + UInt64.ofNat count }

def running (ledger : Ledger) (name : String) (value : Bool) : Ledger :=
  ledger.changePort name fun totals => { totals with running := value }

def completed (ledger : Ledger) (name : String) (success : Bool) : Ledger :=
  { ledger with
    functions :=
      change ⟨0, 0⟩ name
        (fun totals =>
          if success then { totals with succeeded := totals.succeeded + 1 }
          else { totals with failed := totals.failed + 1 })
        ledger.functions }

end Ledger

end MeterLine
