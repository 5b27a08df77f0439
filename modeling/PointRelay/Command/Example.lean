/-!
# An example configuration

The text of a configuration that names every key, with what the key means above it.
-/

namespace PointRelay.Command

def exampleLines : List String := [
    "# metric-relay configuration",
    "version = \"V1\"",
    "",
    "[output]",
    "## Endpoints of one store cluster. Each write goes to a single endpoint,",
    "## chosen at random; the next one is tried when it fails.",
    "## UDP: \"udp://127.0.0.1:8089\", HTTP: \"http://127.0.0.1:8086\"",
    "urls = [\"http://127.0.0.1:8086\"]",
    "",
    "## Target database, created on connect if missing",
    "database = \"telegraf\"",
    "",
    "## Retention policy to write to. Empty uses the database default.",
    "retention_policy = \"\"",
    "",
    "## Write consistency for clustered stores: any, one, quorum, all",
    "write_consistency = \"any\"",
    "",
    "## Request timeout for HTTP endpoints (\"0s\" disables it)",
    "timeout = \"5s\"",
    "",
    "## HTTP basic auth",
    "# username = \"relay\"",
    "# password = \"metricsmetricsmetricsmetrics\"",
    "",
    "## HTTP User-Agent",
    "# user_agent = \"metric-relay\"",
    "",
    "## Maximum UDP payload size in bytes (0 means 512)",
    "# udp_payload = 512"]

def exampleConfig : String := String.join (exampleLines.map (· ++ "\n"))

end PointRelay.Command
