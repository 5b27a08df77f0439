import PointRelay.Point.Encoding
import PointRelay.Time.Span

/-!
# Failures

What a connection answers when an operation on it does not succeed, and what the output reports
to its callers. A failure of a connection belongs to one of three classes; only a missing database
is worth an attempt at repair.
-/

namespace PointRelay

open Time

inductive ConnectionError where
  | schemaMissing (endpoint database : String)
  | alreadyExists (endpoint database : String)
  | timeout (endpoint : String) (after : Span)
  | rejected (endpoint : String) (status : Nat) (message : String)
  | unreachable (endpoint message : String)
  | unsupported (endpoint operation : String)
  | closed (endpoint : String)
  | io (endpoint message : String)
deriving DecidableEq, Repr

inductive FailureClass where
  | schemaMissing
  | transport
  | rejected
deriving DecidableEq, Repr

def FailureClass.text : FailureClass → String
  | schemaMissing => "schema_missing"
  | transport => "transport"
  | rejected => "rejected"

namespace ConnectionError

def endpoint : ConnectionError → String
  | schemaMissing e _ | alreadyExists e _ | timeout e _ | rejected e _ _ | unreachable e _
  | unsupported e _ | closed e | io e _ => e

def failureClass : ConnectionError → FailureClass
  | schemaMissing _ _ => .schemaMissing
  | rejected _ _ _ | unsupported _ _ => .rejected
  | _ => .transport

def message : ConnectionError → String
  | schemaMissing e database => "database '" ++ database ++ "' not found on " ++ e
  | alreadyExists e database => "database '" ++ database ++ "' already exists on " ++ e
  | timeout e after => "request to " ++ e ++ " timed out after " ++ after.brief
  | rejected e status message =>
    e ++ " rejected request with status " ++ toString status ++ ": " ++ message
  | unreachable e message => "connection to " ++ e ++ " failed: " ++ message
  | unsupported e operation => e ++ " does not support " ++ operation
  | closed e => "connection to " ++ e ++ " is closed"
  | io e message => "io error on " ++ e ++ ": " ++ message

/-- What lies behind an error, nearest first. -/
def causes : ConnectionError → List String
  | io _ message => [message]
  | _ => []

end ConnectionError

inductive OutputError where
  | config (url message : String)
  | connect (endpoint : String) (source : ConnectionError)
  | encoding (refusal : Refusal)
  | poolExhausted (attempted poolSize : Nat)
  | close (failures : List ConnectionError)
deriving DecidableEq, Repr

namespace OutputError

def message : OutputError → String
  | config url message => "invalid endpoint '" ++ url ++ "': " ++ message
  | connect endpoint source =>
    "failed to open connection to '" ++ endpoint ++ "': " ++ source.message
  | encoding refusal => refusal.message
  | poolExhausted attempted poolSize =>
    "could not write to any endpoint in the pool (" ++ toString attempted ++ " of " ++
      toString poolSize ++ " attempted)"
  | close failures =>
    "failed to close " ++ toString failures.length ++ " connection(s): " ++
      String.intercalate "; " (failures.map ConnectionError.message)

/-- What lies behind an error, nearest first. -/
def causes : OutputError → List String
  | connect _ source => source.message :: source.causes
  | encoding refusal => [refusal.fault.message]
  | config _ _ | poolExhausted _ _ | close _ => []

end OutputError

end PointRelay
