import PointRelay.Config.Reader
import PointRelay.Url.Reader

/-!
# Validating a configuration

A configuration needs a database, a payload that a datagram can carry, and endpoints: URLs with a
host, and with a port where datagrams go. What is odd but works is a warning.
-/

namespace PointRelay.Config

/-- Endpoints of schemes that begin so get datagrams. -/
def isDatagramScheme (scheme : String) : Bool := "udp".toList.isPrefixOf scheme.toList

/-- What is wrong with an endpoint. -/
def endpointFault? (raw : String) : Option String :=
  match Url.read raw with
  | .error f => some ("invalid url '" ++ raw ++ "': " ++ f.message)
  | .ok u =>
    if (u.hostText.filter (· ≠ "")).isNone then some ("url '" ++ raw ++ "' has no host")
    else if isDatagramScheme u.scheme && u.port.isNone then
      some ("udp url '" ++ raw ++ "' requires an explicit port")
    else none

/-- The first faulty endpoint, counted from an index. -/
def endpointsFault? (index : Nat) : List String → Option Fault
  | [] => none
  | raw :: r =>
    match endpointFault? raw with
    | some message => some (.validation ("output.urls[" ++ toString index ++ "]") message)
    | none => endpointsFault? (index + 1) r

/-- What is wrong with an output section. -/
def Output.fault? (o : Output) : Option Fault :=
  if o.database = "" then some (.validation "output.database" "database cannot be empty")
  else if maxPayload < o.payload then
    some (.validation "output.udp_payload" "udp_payload exceeds the UDP datagram limit")
  else if o.endpoints.isEmpty then
    some (.validation "output.urls" "at least one endpoint url is required")
  else endpointsFault? 0 o.endpoints

/-- The levels of consistency that the store is known to have. -/
def knownConsistencies : List String := ["any", "one", "quorum", "all"]

def Output.warnings (o : Output) : List String :=
  (if (o.url.filter (· ≠ "")).isSome then
    ["output.url is deprecated - list endpoints in output.urls"] else []) ++
  (if o.precision.isSome then
    ["output.precision is ignored - points are always written with ns precision"] else []) ++
  (if o.writeConsistency ≠ "" && !knownConsistencies.contains o.writeConsistency then
    ["output.write_consistency '" ++ o.writeConsistency ++
      "' is not one of [\"any\", \"one\", \"quorum\", \"all\"] - passed to the store unchanged"]
    else []) ++
  (if o.timeout = .zero then
    ["output.timeout is 0s - stream writes will never time out"] else [])

/-- Read and validate a configuration. -/
def Blueprint.load (format : Format) (s : String) : Except Fault Blueprint := do
  let b ← Blueprint.read format s
  match b.output.fault? with
  | some f => throw f
  | none => return b

/-- What is found under a path. -/
inductive FileContent where
  | missing
  | directory
  | bytes (content : List UInt8)

namespace FileContent

def isMissing : String := "No such file or directory (os error 2)"

def isDirectory : String := "Is a directory (os error 21)"

end FileContent

/-- Load a file. Its name is looked at before its content. -/
def Blueprint.loadFile (path : String) (content : FileContent) : Except Fault Blueprint :=
  match extension? path with
  | none => .error (.parse "cannot determine file format from extension")
  | some ext =>
    match Format.ofExtension? ext with
    | none => .error (.parse ("unsupported config format: ." ++ ext))
    | some format =>
      match content with
      | .missing => .error (.io FileContent.isMissing)
      | .directory => .error (.io FileContent.isDirectory)
      | .bytes bytes =>
        match Text.Utf8.toString? bytes with
        | none => .error (.io "stream did not contain valid UTF-8")
        | some s => Blueprint.load format s

end PointRelay.Config
