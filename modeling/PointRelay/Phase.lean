/-!
# The phases of a connection

A fresh connection is unconnected. In a pool it is ready; while its database is created anew it is
recovering, and when that failed it is degraded and still tried. Closed is for good.
-/

namespace PointRelay

inductive Phase where
  | unconnected
  | ready
  | recovering
  | degraded
  | closed
deriving DecidableEq, Repr, Inhabited

def Phase.text : Phase → String
  | unconnected => "unconnected"
  | ready => "ready"
  | recovering => "recovering"
  | degraded => "degraded"
  | closed => "closed"

end PointRelay
