import PointRelay.Url.Address

/-!
# URLs

The parts of a parsed URL, each already in the form in which it is written. A URL without
authority whose path does not begin with a slash has an opaque path, to which nothing can be
appended.
-/

namespace PointRelay

namespace Url

inductive Host where
  | name (text : String)
  | ipv4 (address : Nat)
  | ipv6 (groups : List Nat)
deriving DecidableEq, Repr

def Host.text : Host → String
  | name s => s
  | ipv4 a => Address.ipv4Text a
  | ipv6 gs => "[" ++ Address.ipv6Text gs ++ "]"

/-- What stands between the two slashes and the path. A port that the scheme implies is absent. -/
structure Authority where
  username : String
  password : Option String
  host : Option Host
  port : Option Nat
deriving DecidableEq, Repr

def Authority.credentials (a : Authority) : String :=
  match a.password with
  | some p => a.username ++ ":" ++ p ++ "@"
  | none => if a.username = "" then "" else a.username ++ "@"

def Authority.location (a : Authority) : String :=
  (a.host.map Host.text).getD "" ++
    match a.port with
    | some p => ":" ++ toString p
    | none => ""

/-- Why a text is no URL. -/
inductive Fault where
  | relative
  | emptyHost
  | invalidPort
  | invalidIpv4
  | invalidIpv6
  | invalidName
  | invalidHostCharacter
deriving DecidableEq, Repr

def Fault.message : Fault → String
  | relative => "relative URL without a base"
  | emptyHost => "empty host"
  | invalidPort => "invalid port number"
  | invalidIpv4 => "invalid IPv4 address"
  | invalidIpv6 => "invalid IPv6 address"
  | invalidName => "invalid international domain name"
  | invalidHostCharacter => "invalid domain character"

/-- Schemes whose URLs always have a host and a path, and the ports they imply. -/
def impliedPort? : String → Option Nat
  | "http" | "ws" => some 80
  | "https" | "wss" => some 443
  | "ftp" => some 21
  | _ => none

def isSpecial (scheme : String) : Bool := (impliedPort? scheme).isSome || scheme == "file"

end Url

structure Url where
  scheme : String
  authority : Option Url.Authority
  /-- Whether `/.` stands before a path whose two leading slashes would read as an authority. -/
  guarded : Bool
  path : List Char
  query : Option String
  fragment : Option String
deriving DecidableEq, Repr

namespace Url

def host (u : Url) : Option Host := u.authority.bind (·.host)

/-- The text of the host. -/
def hostText (u : Url) : Option String := u.host.map Host.text

def port (u : Url) : Option Nat := u.authority.bind (·.port)

/-- The path is a text of its own to which no segment can be appended. -/
def isOpaque (u : Url) : Bool := u.authority.isNone && u.path.head? != some '/' && !u.guarded

private def lead (mark : String) (part : Option String) : String :=
  match part with
  | some s => mark ++ s
  | none => ""

private def written (u : Url) (credentials : Bool) (fragment : Bool) : String :=
  u.scheme ++ ":" ++
    (match u.authority with
      | some a => "//" ++ (if credentials then a.credentials else "") ++ a.location
      | none => "") ++
    (if u.guarded then "/." else "") ++ String.ofList u.path ++ lead "?" u.query ++
    (if fragment then lead "#" u.fragment else "")

/-- The whole URL. -/
def text (u : Url) : String := u.written true true

/-- The URL as a request names it: without credentials and fragment. -/
def requestText (u : Url) : String := u.written false false

/-- The path with one more segment behind it, in place of an empty last one. -/
def appended (path segment : List Char) : List Char :=
  let base :=
    match path with
    | [] => []
    | c :: r => if r.getLast? = some '/' then c :: r.dropLast else c :: r
  (if base.length = 1 then base else base ++ ['/']) ++ segment

/-- The URL of a resource under this one. The query is dropped. -/
def resource (u : Url) (segment : String) : Url :=
  if u.isOpaque then { u with query := none }
  else { u with path := appended u.path segment.toList, query := none }

end Url

end PointRelay
