import PointRelay.Dict
import PointRelay.Net
import PointRelay.Text.Utf8

/-!
# A loopback network

A network in which every host plays a script: each request takes the next answer that the host has
for its resource. It keeps the requests and datagrams that came in. Unplugged, it lets nothing
through.
-/

namespace PointRelay

namespace Loopback

/-- How an answer goes wrong, if it does. -/
inductive Mode where
  | whole
  /-- The connection ends without an answer. -/
  | drop
  /-- No answer ever comes. -/
  | hang
  /-- The body ends too early. -/
  | truncate
deriving DecidableEq, Repr

structure Answer where
  status : Nat
  body : List UInt8
  mode : Mode
deriving DecidableEq, Repr

/-- The answers that a host still has. -/
structure Host where
  write : List Answer
  query : List Answer
deriving DecidableEq, Repr

end Loopback

structure Loopback where
  plugged : Bool
  hosts : Dict Loopback.Host
  /-- The requests that came in, newest first. -/
  requests : List Request
  /-- The datagrams that came in with their addresses, newest first. -/
  datagrams : List (String × List UInt8)

namespace Loopback

/-- The largest payload of a datagram. -/
def largestDatagram : Nat := 65507

def writeDone : Answer := ⟨204, [], .whole⟩

def queryDone : Answer :=
  ⟨200, Text.Utf8.ofString "\x7b\"results\":[\x7b\"statement_id\":0\x7d]\x7d", .whole⟩

/-- Whether a request asks for the query resource. -/
def isQuery (u : Url) : Bool := "/query".toList.isSuffixOf u.path

/-- Take the next answer of a host. -/
def Host.next (query : Bool) (h : Host) : Answer × Host :=
  if query then (h.query.headD queryDone, { h with query := h.query.tail })
  else (h.write.headD writeDone, { h with write := h.write.tail })

/-- Responses to which no body belongs. -/
def isBodiless (status : Nat) : Bool := status == 204 || status == 304

def Answer.reply (a : Answer) : Reply :=
  match a.mode with
  | .drop => .failed
  | .hang => .timedOut
  | .whole => .response ⟨a.status, if isBodiless a.status then [] else a.body, true⟩
  | .truncate => .response ⟨a.status, a.body, false⟩

/-- The host and port of a URL. -/
def location (u : Url) : String := (u.authority.map Url.Authority.location).getD ""

def request (r : Request) (n : Loopback) : Reply × Loopback :=
  if !n.plugged || r.url.scheme == "https" then (.failed, n)
  else
    let key := location r.url
    let (a, h) := ((n.hosts.find? key).getD ⟨[], []⟩).next (isQuery r.url)
    (a.reply, { n with hosts := n.hosts.insert key h, requests := r :: n.requests })

def connect (_address : String) (n : Loopback) : Except String Unit × Loopback :=
  (if n.plugged then .ok () else .error "Network is unreachable (os error 101)", n)

def send (address : String) (bytes : List UInt8) (n : Loopback) :
    Except String Unit × Loopback :=
  if largestDatagram < bytes.length then (.error "Message too long (os error 90)", n)
  else (.ok (), { n with datagrams := (address, bytes) :: n.datagrams })

instance : Net Loopback where
  request := request
  connect := connect
  send := send

end Loopback

end PointRelay
