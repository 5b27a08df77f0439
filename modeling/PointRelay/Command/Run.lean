import PointRelay.Command.Checkup
import PointRelay.Command.Example
import PointRelay.Command.Help
import PointRelay.Command.Overview
import PointRelay.Command.Session

/-!
# Runs

A run of the program from its surroundings to its outcome.
-/

namespace PointRelay.Command

variable {ω : Type} [Net ω]

/-- What a command line without a task leads to. -/
def Stop.outcome (env : Environment) : Stop → Outcome
  | usage => ⟨2, "", Scope.program.usage ++ "\n"⟩
  | help scope detail => ⟨0, scope.helpText env detail, ""⟩
  | helpOnHelp => ⟨0, helpOnHelpText, ""⟩
  | version => ⟨0, versionText, ""⟩

/-- Do a task. -/
def Task.run (s : Surroundings) (net : ω) : Task → Outcome × ω
  | write config input batchSize => Session.run s net config input batchSize
  | validate config json => (Checkup.run s config json, net)
  | info config json => (Overview.run s config json, net)
  | sampleConfig => (⟨0, exampleConfig, ""⟩, net)

/-- Run the program. What becomes of the network is given back. -/
def run (s : Surroundings) (net : ω) : Outcome × ω :=
  match Invocation.read s.settled s.args with
  | .error stop => (stop.outcome s.settled, net)
  | .ok i => i.task.run s net

end PointRelay.Command
