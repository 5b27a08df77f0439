import PointRelay.Command.Failure
import PointRelay.Command.Surroundings

/-!
# Loading the configuration of a run
-/

namespace PointRelay.Command

/-- The configuration under a path. A missing file is told apart from one that cannot be used. -/
def loadConfig (s : Surroundings) (path : String) : Except Failure Config.Blueprint :=
  match s.file path with
  | .missing => .error (.plain ("Configuration file not found: " ++ path))
  | content =>
    match Config.Blueprint.loadFile path content with
    | .ok b => .ok b
    | .error f => .error (.ofConfig ("Failed to load config from " ++ path) f)

end PointRelay.Command
