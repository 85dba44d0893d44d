import MeterLine.Bytes

/-!
# Payload logs

Every reply that reaches the function layer is shown to a logger, together with
the request and a context.  A logger drops payloads, writes them as lines of
hexadecimal pairs, or hands them on.
-/

namespace MeterLine

/-- A request and its reply, as shown to a logger. -/
structure Payload where
  context : String
  request : Bytes
  reply : Bytes
  deriving Repr, DecidableEq, Inhabited

def Payload.line (payload : Payload) : String :=
  s!"{payload.context} request: [{payload.request.dump}]" ++
    s!" response: [{payload.reply.dump}]"

inductive PayloadLogger where
  | silent
  | tracing
  | handingOn
  deriving Repr, DecidableEq, Inhabited

namespace PayloadLogger

def describe : PayloadLogger → String
  | .silent => "NoopCommunicationLogger"
  | .tracing => "TracingCommunicationLogger"
  | .handingOn => "CallbackLogger \x7b .. \x7d"

def lines (logger : PayloadLogger) (payloads : List Payload) : List String :=
  match logger with
  | .tracing => payloads.map Payload.line
  | _ => []

def handedOn (logger : PayloadLogger) (payloads : List Payload) :
    List Payload :=
  match logger with
  | .handingOn => payloads
  | _ => []

end PayloadLogger

end MeterLine
