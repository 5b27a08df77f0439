import PointRelay.Dict
import PointRelay.Decimal.Double

/-!
# Points

A point is a record that passed all checks: its fields have one of the four kinds that the store
knows, and its time is a count of nanoseconds. A batch is a list of points with the settings they
are written under.
-/

namespace PointRelay

open Decimal

inductive FieldValue where
  | integer (n : Int)
  | float (v : Double)
  | string (s : String)
  | boolean (b : Bool)
deriving DecidableEq, Repr, Inhabited

structure Point where
  measurement : String
  tags : Dict String
  fields : Dict FieldValue
  timestampNs : Int
deriving DecidableEq, Repr, Inhabited

/-- Where in the store points go and how many of its nodes have to confirm them. -/
structure Settings where
  database : String
  retentionPolicy : String
  writeConsistency : String
deriving DecidableEq, Repr, Inhabited

structure Batch where
  settings : Settings
  points : List Point
deriving DecidableEq, Repr, Inhabited

namespace Batch

def size (b : Batch) : Nat := b.points.length

def isEmpty (b : Batch) : Bool := b.points.isEmpty

end Batch

end PointRelay
