import PointRelay.Config.Format
import PointRelay.Time.Span

/-!
# Configuration

A blueprint says where batches go: the endpoints of a store, the database and the settings of its
writes. A blueprint has a version, of which there is one.
-/

namespace PointRelay.Config

open Time

inductive Version where
  | v1
deriving DecidableEq, Repr, Inhabited

def Version.text : Version → String
  | v1 => "V1"

/-- The payload of a datagram when none is configured. -/
def defaultPayload : Nat := 512

/-- The largest payload of a datagram. -/
def maxPayload : Nat := 65507

def defaultUserAgent : String := "metric-relay"
def defaultConsistency : String := "any"
def defaultTimeout : Span := .seconds 5

/-- The output section. A zero timeout means none, a zero payload the default one; `url` is an
endpoint from before there was a list of them. -/
structure Output where
  urls : List String
  url : Option String
  username : Option String
  password : Option String
  database : String
  userAgent : String
  retentionPolicy : String
  writeConsistency : String
  timeout : Span
  payload : Nat
  precision : Option String
deriving DecidableEq, Repr

/-- The defaults for a database. -/
def Output.new (database : String) : Output :=
  ⟨[], none, none, none, database, defaultUserAgent, "", defaultConsistency, defaultTimeout, 0,
    none⟩

/-- The endpoints: those of the list, then the single one unless it is empty. -/
def Output.endpoints (o : Output) : List String :=
  o.urls ++ (o.url.filter (· ≠ "")).toList

def Output.effectivePayload (o : Output) : Nat :=
  if o.payload = 0 then defaultPayload else o.payload

structure Blueprint where
  version : Version
  output : Output
deriving DecidableEq, Repr

/-- Why a configuration is refused. -/
inductive Fault where
  | parse (message : String)
  /-- The text is not written in the format. What is wrong with it is not told. -/
  | malformed (format : Format)
  | validation (field message : String)
  | io (message : String)
  | other (message : String)
deriving DecidableEq, Repr

def Fault.message : Fault → String
  | parse message => "config parse error: " ++ message
  | malformed format => "config parse error: " ++ format.name ++ " parse error: "
  | validation field message => "config validation error at '" ++ field ++ "': " ++ message
  | io message => "io error: " ++ message
  | other message => message

/-- What lies behind a fault, nearest first. -/
def Fault.causes : Fault → List String
  | malformed _ => [""]
  | io message => [message]
  | parse _ | validation _ _ | other _ => []

end PointRelay.Config
