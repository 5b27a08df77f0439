import PointRelay.Dict
import PointRelay.Json.Basic
import PointRelay.Time.Instant

/-!
# Metric records

One sample of a measurement as the collector delivers it: a name, string tags, fields of any JSON
kind, and a time. Records are not checked here; encoding a batch does that.
-/

namespace PointRelay

open Decimal Time

/-- The value of a field as it was delivered. -/
inductive Value where
  | null
  | bool (b : Bool)
  | integer (n : Int)
  | double (v : Double)
  | string (s : String)
  | array (items : List Value)
  | object (members : List (String × Value))
deriving Repr, Inhabited

structure Record where
  name : String
  tags : Dict String
  fields : Dict Value
  timestamp : Instant
deriving Inhabited

namespace Record

/-- A record without tags and fields. -/
def new (name : String) (timestamp : Instant) : Record := ⟨name, .empty, .empty, timestamp⟩

def withTag (r : Record) (key value : String) : Record := { r with tags := r.tags.insert key value }

def withField (r : Record) (key : String) (value : Value) : Record :=
  { r with fields := r.fields.insert key value }

end Record

end PointRelay
