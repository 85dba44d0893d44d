import MeterLine.Bench.MeterBus
import MeterLine.Bench.ScriptedLine
import MeterLine.Failure.Kind
import MeterLine.Json.Access

/-!
# Scripts as documents

Plans of scripted lines, meters on buses, and the failures and events in them
are read from documents.  Whatever is left out of a document is as it is in a
plan in which all goes well.
-/

namespace MeterLine

theorem Json.sizeOf_field {name : String} {document field : Json}
    (found : document.field? name = some field) :
    sizeOf field < sizeOf document := by
  match document with
  | .record fields =>
      have inside : ∀ fields : List Json.Field,
          Json.lookup name fields = some field →
          sizeOf field < sizeOf fields := by
        intro fields
        induction fields with
        | nil => simp [Json.lookup]
        | cons first others induction =>
            intro found
            obtain ⟨key, value⟩ := first
            by_cases same : key = name
            · simp [Json.lookup, same] at found
              subst found
              simp
              omega
            · simp [Json.lookup, same] at found
              have smaller := induction found
              simp
              omega
      have smaller := inside fields found
      simp
      omega
  | .null => simp [Json.field?] at found
  | .bool _ => simp [Json.field?] at found
  | .number _ => simp [Json.field?] at found
  | .text _ => simp [Json.field?] at found
  | .list _ => simp [Json.field?] at found

def Json.octets (document : Json) (name : String) : Bytes :=
  Bytes.ofCompact (document.string name)

def StreamFault.Kind.ofName (name : String) : StreamFault.Kind :=
  (StreamFault.Kind.ofName? name).getD .other

def StreamFault.ofJson (document : Json) : StreamFault :=
  let kind := StreamFault.Kind.ofName (document.string "io")
  { kind := kind
    text := (document.get "message").stringOr kind.text }

def SerialFault.ofJson (document : Json) : SerialFault :=
  { kind :=
      match document.string "serial" with
      | "NoDevice" => .noDevice
      | "InvalidInput" => .invalidInput
      | "Unknown" => .unknown
      | name => .stream (StreamFault.Kind.ofName name)
    text := document.string "message" }

/-- A failure: a fault of the stream or of the backend, or a kind of failure
with what belongs to it. -/
def Failure.ofJson (document : Json) : Failure :=
  let message := document.string "message"
  let port := document.string "port"
  if document.has "io" then (StreamFault.ofJson document).toFailure
  else if document.has "serial" then
    (SerialFault.ofJson document).toFailure
  else
    match document.string "kind" with
    | "Io" => .io message
    | "Connection" => .connection message
    | "Timeout" =>
        .timeout (document.string "operation") (document.nat "timeout_ms")
    | "Protocol" => .protocol message
    | "InvalidData" => .invalidData message
    | "Configuration" => .configuration message
    | "InvalidArgument" => .invalidArgument message
    | "CrcCheck" => .checkMismatch
    | "DeviceIdMismatch" =>
        .deviceMismatch (UInt8.ofNat (document.nat "expected"))
          (UInt8.ofNat (document.nat "actual"))
    | "NotRunning" => .notRunning port (.ofNat (document.nat "command_id"))
    | "PortNotFound" => .portNotFound port
    | "PortInUse" => .portInUse port message
    | "HardwareError" => .hardware port message
    | _ =>
        match _found : document.field? "source" with
        | some cause =>
            .retriesExhausted (UInt32.ofNat (document.nat "attempts"))
              (ofJson cause)
        | none => .protocol message
  termination_by sizeOf document
  decreasing_by exact Json.sizeOf_field ‹_›

def PortEvent.ofJson (document : Json) : PortEvent :=
  if document.has "hardware" then
    .hardwareFault (document.string "hardware")
  else .dataAvailable (document.flag "new") (document.flag "old")

/-- An event that tells whether data are available, and whether they were. -/
def PortEvent.ofPair? : List Json → Option PortEvent
  | [now, before] =>
      some (.dataAvailable (now.flagOr false) (before.flagOr false))
  | _ => none

def OpenFault.ofJson (document : Json) : OpenFault :=
  let stage := fun (name : String) (stage : OpenStage) =>
    (document.field? name).map fun failure => (stage, Failure.ofJson failure)
  stage "open" .open <|> stage "configure" .configure <|>
    stage "io" .stream <|> stage "listen" .listen

namespace Bench

def Conduct.ofJson (document : Json) : Conduct :=
  match document with
  | .text "pending" => .stuck
  | .text "zero" => .nothing
  | .record _ =>
      .faulty (StreamFault.ofJson document) (document.nat "after")
  | _ => .smooth

def Plan.ofJson (document : Json) : Plan :=
  { write := Conduct.ofJson (document.get "write")
    chunk := (document.get "chunk").nat?
    flush := Conduct.ofJson (document.get "flush")
    arrivals := (document.itemsOf "arrivals").map fun arrival =>
      { delay := arrival.nat "after_ms"
        octets := arrival.octets "hex"
        event := PortEvent.ofPair? (arrival.itemsOf "event") }
    extra := document.nat "extra"
    lookFailure := (document.field? "avail_error").map fun failing =>
      (failing.nat "call", Failure.ofJson (failing.get "error"))
    read := Conduct.ofJson (document.get "read")
    readLimit := (document.get "max_read").nat? }

def ScriptedLine.ofJson (document : Json) : ScriptedLine :=
  let initial := document.get "initial"
  ScriptedLine.fresh (Plan.ofJson initial)
    ((document.itemsOf "exchanges").map Plan.ofJson)
    (Plan.ofJson (document.get "default")) (initial.octets "inbox")
    ((document.itemsOf "opens").map OpenFault.ofJson)

namespace MeterBus

def change (document : Json) (bus : MeterBus) : MeterBus :=
  let held := (document.itemsOf "set").foldl
    (fun (bus : MeterBus) cell => bus.hold
      { address := UInt8.ofNat (cell.nat "id")
        register := UInt8.ofNat (cell.nat "register")
        data := cell.octets "hex" }) bus
  let kept :=
    match (document.get "detach").nat? with
    | some address => held.detach (UInt8.ofNat address)
    | none => held
  { kept with
    interferences := kept.interferences ++
      (document.itemsOf "faults").map fun fault =>
        Interference.ofName (fault.stringOr "")
    latency := (document.get "latency_ms").natOr kept.latency
    announcing := (document.get "event").flagOr kept.announcing }

def ofJson (buses : Json) (name : String) : MeterBus :=
  match buses.field? name with
  | some document =>
      { change document empty with
        openings := (document.itemsOf "opens").map OpenFault.ofJson }
  | none => { empty with missing := some name }

end MeterBus

end Bench

end MeterLine
