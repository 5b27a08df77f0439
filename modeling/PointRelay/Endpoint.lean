import PointRelay.Config.Validation
import PointRelay.Failure
import PointRelay.Point

/-!
# Endpoints

An endpoint is a configured URL together with what a connection to it needs: whether lines go to it
in datagrams or as a stream of requests, the credentials of requests, the user agent, the timeout,
and the payload of datagrams.
-/

namespace PointRelay

open Time

structure Credentials where
  username : Option String
  password : Option String
deriving DecidableEq, Repr

inductive EndpointKind where
  | datagram (payload : Nat)
  | stream (credentials : Credentials)
deriving DecidableEq, Repr

structure Endpoint where
  /-- The URL as configured, by which the endpoint is known. -/
  name : String
  url : Url
  kind : EndpointKind
  userAgent : String
  timeout : Span
deriving DecidableEq, Repr

namespace Endpoint

/-- Resolve a configured URL. -/
def resolve (o : Config.Output) (raw : String) : Except OutputError Endpoint :=
  match Url.read raw with
  | .error f => .error (.config raw f.message)
  | .ok u =>
    if Config.isDatagramScheme u.scheme then
      if (u.hostText.filter (· ≠ "")).isNone then .error (.config raw "datagram url has no host")
      else if u.port.isNone then .error (.config raw "datagram url has no port")
      else .ok ⟨raw, u, .datagram o.effectivePayload, o.userAgent, o.timeout⟩
    else if u.isOpaque then .error (.config raw "url cannot carry an api path")
    else .ok ⟨raw, u, .stream ⟨o.username, o.password⟩, o.userAgent, o.timeout⟩

/-- Resolve all configured URLs in order. -/
def resolveAll (o : Config.Output) : Except OutputError (List Endpoint) :=
  o.endpoints.mapM (resolve o)

/-- The address to which datagrams go. -/
def socketAddress (e : Endpoint) : Option String := do
  some ((← e.url.hostText) ++ ":" ++ toString (← e.url.port))

/-- The URL of a resource of the store. -/
def api (e : Endpoint) (resource : String) : Url := e.url.resource resource

end Endpoint

/-- The settings under which batches of an output are written. -/
def Config.Output.settings (o : Config.Output) : Settings :=
  ⟨o.database, o.retentionPolicy, o.writeConsistency⟩

end PointRelay
