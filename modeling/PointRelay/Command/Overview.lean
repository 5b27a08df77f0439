import PointRelay.Command.Setup
import PointRelay.Endpoint
import PointRelay.Json.Writer

/-!
# The overview of a configuration

Where batches will go: the settings of writes and the resolved endpoints.
-/

namespace PointRelay.Command

structure Overview where
  blueprint : Config.Blueprint
  endpoints : List Endpoint

namespace Overview

/-- Where an endpoint is reached. -/
def address (e : Endpoint) : String :=
  match e.kind with
  | .datagram _ => e.socketAddress.getD ""
  | .stream _ => (e.api "write").text

def kindText : EndpointKind → String
  | .datagram _ => "datagram"
  | .stream _ => "stream"

def isAuthenticated : EndpointKind → Bool
  | .datagram _ => false
  | .stream c => c.username.isSome

def endpointJson (e : Endpoint) : Json :=
  .obj ([("url", .str e.name), ("kind", .str (kindText e.kind)), ("address", .str (address e))] ++
    (match e.kind with
      | .datagram payload => [("payload_size", .nat payload)]
      | .stream _ => [("timeout", .str e.timeout.brief)]) ++
    [("authenticated", .bool (isAuthenticated e.kind))])

def json (v : Overview) : Json :=
  let o := v.blueprint.output
  .obj ([("version", .str v.blueprint.version.text), ("database", .str o.database)] ++
    (if o.retentionPolicy = "" then [] else [("retention_policy", .str o.retentionPolicy)]) ++
    [("write_consistency", .str o.writeConsistency),
      ("endpoints", .array (v.endpoints.map endpointJson))])

/-- The lines of an endpoint in the tree of endpoints. -/
def endpointLines (last : Bool) (e : Endpoint) : List String :=
  let child := "   " ++ (if last then "   " else "│  ") ++ "  "
  ("   " ++ (if last then "└─ " else "├─ ") ++ e.name ++ " (" ++ kindText e.kind ++ ")") ::
    (child ++ "├─ Address: " ++ address e) ::
    match e.kind with
    | .datagram payload => [child ++ "└─ Max payload: " ++ toString payload ++ " bytes"]
    | .stream _ =>
      [child ++ "├─ Timeout: " ++ e.timeout.brief,
        child ++ "└─ Basic auth: " ++ if isAuthenticated e.kind then "true" else "false"]

def endpointTree : List Endpoint → List String
  | [] => []
  | [e] => endpointLines true e
  | e :: rest => endpointLines false e ++ endpointTree rest

def text (v : Overview) : String :=
  let o := v.blueprint.output
  let policy := if o.retentionPolicy = "" then "(default)" else o.retentionPolicy
  String.join (([
    "╔══════════════════════════════════════════════════════════════╗",
    "║               Metric Relay Configuration                     ║",
    "╚══════════════════════════════════════════════════════════════╝",
    "",
    "🗄  Target",
    "   ├─ Version: " ++ v.blueprint.version.text,
    "   ├─ Database: " ++ o.database,
    "   ├─ Retention policy: " ++ policy,
    "   └─ Write consistency: " ++ o.writeConsistency,
    "",
    "📤 Endpoints (" ++ toString v.endpoints.length ++ ")"] ++ endpointTree v.endpoints ++
    [""]).map (· ++ "\n"))

/-- The overview of the configuration under a path. -/
def load (s : Surroundings) (path : String) : Except Failure Overview := do
  let b ← loadConfig s path
  match Endpoint.resolveAll b.output with
  | .ok endpoints => return ⟨b, endpoints⟩
  | .error e => throw (.ofOutput "Failed to resolve endpoints" e)

/-- Print the overview of a configuration. -/
def run (s : Surroundings) (path : String) (asJson : Bool) : Outcome :=
  match load s path with
  | .ok v => ⟨0, if asJson then v.json.pretty 0 ++ "\n" else v.text, ""⟩
  | .error f => ⟨1, "", f.text⟩

end Overview

end PointRelay.Command
