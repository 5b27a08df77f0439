import PointRelay.Command.Setup
import PointRelay.Json.Writer

/-!
# The checkup of a configuration

Whether a configuration can be used, with a summary and warnings if it can and the reason if not.
-/

namespace PointRelay.Command

structure Checkup where
  path : String
  result : Except Failure Config.Blueprint

namespace Checkup

def json (c : Checkup) : Json :=
  let head (valid : Bool) : List (String × Json) :=
    [("valid", .bool valid), ("config_path", .str c.path)]
  match c.result with
  | .error f => .obj (head false ++ [("error", .str f.line)])
  | .ok b =>
    let o := b.output
    let warnings := o.warnings.map Json.str
    .obj (head true ++
      (if warnings.isEmpty then [] else [("warnings", .array warnings)]) ++
      [("summary", .obj
        [("version", .str b.version.text),
          ("database", .str o.database),
          ("endpoint_count", .nat o.endpoints.length),
          ("retention_policy", .str o.retentionPolicy),
          ("write_consistency", .str o.writeConsistency)])])

/-- Lines, each with a line break. -/
def ofLines (lines : List String) : String := String.join (lines.map (· ++ "\n"))

def text (c : Checkup) : String :=
  match c.result with
  | .error f => ofLines ["✗ Configuration is invalid: " ++ c.path, "", "  Error: " ++ f.line]
  | .ok b =>
    let o := b.output
    ofLines (["✓ Configuration is valid: " ++ c.path, "",
        "  Version: " ++ b.version.text,
        "  Database: " ++ o.database,
        "  Endpoints: " ++ toString o.endpoints.length] ++
      (if o.retentionPolicy = "" then [] else ["  Retention policy: " ++ o.retentionPolicy]) ++
      ["  Write consistency: " ++ o.writeConsistency] ++
      (if o.warnings.isEmpty then [] else "" :: "⚠ Warnings:" :: o.warnings.map ("  - " ++ ·)))

/-- Check a configuration and print what was found. -/
def run (s : Surroundings) (path : String) (asJson : Bool) : Outcome :=
  let c : Checkup := ⟨path, loadConfig s path⟩
  let printed := if asJson then c.json.pretty 0 ++ "\n" else c.text
  match c.result with
  | .ok _ => ⟨0, printed, ""⟩
  | .error _ => ⟨1, printed, (Failure.plain "Configuration validation failed").text⟩

end Checkup

end PointRelay.Command
