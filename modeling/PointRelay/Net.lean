import PointRelay.Time.Span
import PointRelay.Url.Basic

/-!
# Networks

What connections need of a network: an answer to a request, a way to an address, and the sending of
one datagram. Each is a step on the network.
-/

namespace PointRelay

open Time

/-- A request to the store. All requests post a body, which may be empty. -/
structure Request where
  /-- Where it goes, without credentials. -/
  url : Url
  userAgent : String
  /-- The values of the authorization header, in order. -/
  authorization : List String
  body : String
  /-- How long to wait for the answer, if not for ever. -/
  timeout : Option Span
deriving DecidableEq, Repr

structure Response where
  status : Nat
  body : List UInt8
  /-- Whether the body came to its announced end. -/
  complete : Bool
deriving DecidableEq, Repr

/-- What comes of a request. -/
inductive Reply where
  | response (r : Response)
  | timedOut
  /-- Nothing came back. -/
  | failed
deriving DecidableEq, Repr

class Net (ω : Type) where
  request : Request → ω → Reply × ω
  /-- Find a way for datagrams to an address, or tell why there is none. -/
  connect : String → ω → Except String Unit × ω
  /-- Send one datagram to an address, or tell why it did not leave. -/
  send : String → List UInt8 → ω → Except String Unit × ω

end PointRelay
