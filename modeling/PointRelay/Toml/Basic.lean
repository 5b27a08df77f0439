import PointRelay.Decimal.Double

/-!
# TOML

Values of a TOML document. Tables keep their entries in the order written, each key once.
-/

namespace PointRelay

inductive Toml where
  | string (s : String)
  | integer (n : Int)
  | float (v : Decimal.Double)
  | boolean (b : Bool)
  | time (text : String)
  | array (items : List Toml)
  | table (entries : List (String × Toml))
deriving Repr, Inhabited

end PointRelay
