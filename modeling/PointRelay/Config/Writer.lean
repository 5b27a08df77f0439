import PointRelay.Config.Basic
import PointRelay.Config.Format
import PointRelay.Json.Writer
import PointRelay.Toml.Writer

/-!
# Writing a configuration

All settings in their order, except optional ones that are absent.
-/

namespace PointRelay.Config

/-- The member of a setting that may be absent. -/
def optional {α : Type} (key : String) (f : String → α) (v : Option String) :
    List (String × α) :=
  (v.map fun s => (key, f s)).toList

def Output.toToml (o : Output) : List (String × Toml) :=
  [("urls", .array (o.urls.map .string))] ++ optional "url" .string o.url ++
    optional "username" .string o.username ++ optional "password" .string o.password ++
    [("database", .string o.database), ("user_agent", .string o.userAgent),
      ("retention_policy", .string o.retentionPolicy),
      ("write_consistency", .string o.writeConsistency),
      ("timeout", .string o.timeout.words), ("udp_payload", .integer o.payload)] ++
    optional "precision" .string o.precision

def Output.toJson (o : Output) : List (String × Json) :=
  [("urls", .array (o.urls.map .str))] ++ optional "url" .str o.url ++
    optional "username" .str o.username ++ optional "password" .str o.password ++
    [("database", .str o.database), ("user_agent", .str o.userAgent),
      ("retention_policy", .str o.retentionPolicy),
      ("write_consistency", .str o.writeConsistency),
      ("timeout", .str o.timeout.words), ("udp_payload", .nat o.payload)] ++
    optional "precision" .str o.precision

/-- The text of a blueprint. -/
def Blueprint.write (b : Blueprint) : Format → String
  | .toml =>
    Toml.documentText
      [("version", .string b.version.text), ("output", .table b.output.toToml)]
  | .json =>
    (Json.obj [("version", .str b.version.text), ("output", .obj b.output.toJson)]).pretty 0

end PointRelay.Config
