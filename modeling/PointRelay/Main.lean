import PointRelay.Command.Run
import PointRelay.Net.Loopback

/-!
# The program

The surroundings of a run are taken from the process. There are no sockets here: the network is an
unplugged one, on which every endpoint is out of reach.
-/

namespace PointRelay.Command

/-- The variables that a run looks at. -/
def knownVariables : List String :=
  ["METRIC_RELAY_VERBOSE", "METRIC_RELAY_LOG_FORMAT", "METRIC_RELAY_METRICS_PORT",
    "METRIC_RELAY_CONFIG", "METRIC_RELAY_BATCH_SIZE"]

def readEnvironment : IO Environment := do
  let found ← knownVariables.filterMapM fun name => do
    return (← IO.getEnv name).map fun value => (name, value)
  return .ofList found

def readPath (path : String) : IO Config.FileContent := do
  try
    return .bytes (← IO.FS.readBinFile path).toList
  catch
    | .noFileOrDirectory .. => return .missing
    | _ => return .directory

/-- The paths that a task looks at. -/
def Task.paths : Task → List String
  | write config input _ => [config, input]
  | validate config _ | info config _ => [config]
  | sampleConfig => []

/-- What is found under some paths. -/
def readPaths (paths : List String) : IO (String → Config.FileContent) := do
  let found ← paths.mapM fun path => do return (path, ← readPath path)
  return fun path => ((found.find? fun f => f.1 == path).map Prod.snd).getD .missing

/-- The time, as a file tells it that is made now. -/
def readClock : IO Time.Instant :=
  IO.FS.withTempFile fun handle path => do
    handle.putStr "now"
    handle.flush
    let t := (← path.metadata).modified
    return ⟨t.sec, t.nsec.toNat⟩

partial def readAll (stream : IO.FS.Stream) (bytes : List UInt8) : IO (List UInt8) := do
  let chunk ← stream.read 65536
  if chunk.isEmpty then return bytes else readAll stream (bytes ++ chunk.toList)

def readStdin : Task → IO (List UInt8)
  | .write _ "-" _ => do readAll (← IO.getStdin) []
  | _ => return []

def readSurroundings (args : List String) : IO Surroundings := do
  let early : Surroundings :=
    ⟨args, ← readEnvironment, ← readPaths [Surroundings.variablesFile], [], ⟨0, 0⟩, [], none⟩
  match Invocation.read early.settled args with
  | .error _ => return early
  | .ok i =>
    return { early with
      file := ← readPaths (Surroundings.variablesFile :: i.task.paths)
      stdin := ← readStdin i.task
      now := ← readClock }

end PointRelay.Command

open PointRelay in
def main (args : List String) : IO UInt32 := do
  let unplugged : Loopback := ⟨false, .empty, [], []⟩
  let (outcome, _) := Command.run (← Command.readSurroundings args) unplugged
  IO.print outcome.stdout
  IO.eprint outcome.stderr
  return outcome.exit.toUInt32
