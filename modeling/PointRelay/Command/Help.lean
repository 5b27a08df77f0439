import PointRelay.Command.Arguments

/-!
# Help

What the program and its tasks are for, and the options that they take. Options are listed in the
order of their scope, with the variables and values that stand in for them below. Lines are broken
so that they fit a terminal.
-/

namespace PointRelay.Command

def programName : String := "metric-relay"

def versionText : String := programName ++ " 0.1.0\n"

/-! ## Lines -/

/-- Columns of a terminal. -/
def columns : Nat := 100

def blanks (n : Nat) : String := String.ofList (List.replicate n ' ')

/-- The words of a line, each with the number of blanks behind it. -/
def words : List Char → List (List Char × Nat)
  | [] => []
  | ' ' :: rest =>
    match words rest with
    | ([], n) :: r => ([], n + 1) :: r
    | r => ([], 1) :: r
  | c :: rest =>
    match words rest with
    | (w, n) :: r => (c :: w, n) :: r
    | [] => [([c], 0)]

/-- Break words into lines of a width, behind so many used columns and owed blanks. -/
def fold (width used gap : Nat) : List (List Char × Nat) → List Char
  | [] => []
  | (w, n) :: rest =>
    if used = 0 then w ++ fold width w.length n rest
    else if width < used + gap + w.length then '\n' :: w ++ fold width w.length n rest
    else List.replicate gap ' ' ++ w ++ fold width (used + gap + w.length) n rest

/-- Break the lines of a text to a width. -/
def wrapped (width : Nat) (s : String) : List String :=
  (s.splitOn "\n").flatMap fun line =>
    (String.ofList (fold width 0 0 (words line.toList))).splitOn "\n"

/-- Two columns. -/
def table (rows : List (String × String)) : List String :=
  let width := rows.foldl (fun w r => max w r.1.length) 0
  rows.map fun (left, right) => "  " ++ left ++ blanks (width - left.length + 2) ++ right

/-! ## Options -/

namespace Flag

/-- What an option is for. -/
def purpose (scope : Scope) (detail : Detail) : Flag → String
  | verbose => "Increase logging verbosity (-v for debug, -vv for trace)"
  | quiet => "Suppress all output except warnings and errors"
  | logFormat => "Log output format"
  | metricsPort => "Expose Prometheus metrics on this port"
  | config =>
    match scope with
    | .write => "Path to configuration file (TOML or JSON)"
    | .validate => "Path to configuration file to validate"
    | _ => "Path to configuration file"
  | input => "JSON-lines file with one record per line (\"-\" reads stdin)"
  | batchSize => "Records per write call"
  | json => if scope = .validate then "Output validation result as JSON" else "Output as JSON"
  | help =>
    match detail with
    | .brief => "Print help (see more with '--help')"
    | .full => "Print help (see a summary with '-h')"
  | version => "Print version"

/-- The value of an option that is not given. -/
def default? : Flag → Option String
  | logFormat => some "pretty"
  | config => some defaultConfig
  | input => some defaultInput
  | batchSize => some (toString defaultBatchSize)
  | verbose | quiet | metricsPort | json | help | version => none

/-- The values of an option that has a choice, and what they are for. -/
def choices : Flag → List (String × String)
  | logFormat =>
    [("json", "JSON structured logging"), ("pretty", "Human-readable pretty format"),
      ("compact", "Compact single-line format")]
  | verbose | quiet | metricsPort | config | input | batchSize | json | help | version => []

/-- The variable and the values that stand in for an option. -/
def notes (env : Environment) (scope : Scope) (detail : Detail) (f : Flag) : List String :=
  ((f.variableIn? scope).map fun x =>
    "[env: " ++ x ++ "=" ++ (env.find? x).getD "" ++ "]").toList ++
  (f.default?.map fun s => "[default: " ++ s ++ "]").toList ++
  (if detail = .brief ∧ !f.choices.isEmpty then
    ["[possible values: " ++ ", ".intercalate (f.choices.map (·.1)) ++ "]"] else [])

/-- How an option is written. -/
def spelling (f : Flag) : String :=
  (match f.short? with
    | some c => "-" ++ String.singleton c ++ ", "
    | none => "    ") ++
    "--" ++ f.long ++
    (if f.takesValue then
      " <" ++ String.ofList (f.long.toList.map fun c => if c = '-' then '_' else c.toUpper) ++ ">"
    else if f = .verbose then "..."
    else "")

/-- Columns that the text below an option is moved in by. -/
def indent : Nat := 10

/-- The lines that explain an option. A choice has a line for each of its values in the end. -/
def explanation (env : Environment) (scope : Scope) (detail : Detail) (f : Flag) : String :=
  let notes := f.notes env scope detail
  let text := f.purpose scope detail ++
    (if notes.isEmpty then ""
    else
      match detail with
      | .brief => " " ++ " ".intercalate notes
      | .full => "\n\n" ++ "\n".intercalate notes)
  let width := f.choices.foldl (fun w c => max w c.1.length) 0
  let choices :=
    if detail = .full ∧ !f.choices.isEmpty then
      "\n\n" ++ blanks indent ++ "Possible values:" ++
        String.join (f.choices.map fun (name, use) =>
          "\n" ++ blanks indent ++ "- " ++ name ++ ": " ++ blanks (width - name.length) ++ use)
    else ""
  ("\n" ++ blanks indent).intercalate (wrapped (columns - indent) text) ++ choices

/-- An option and what it is for. -/
def entry (env : Environment) (scope : Scope) (detail : Detail) (f : Flag) : String :=
  "  " ++ f.spelling ++ "\n" ++ blanks indent ++ f.explanation env scope detail

end Flag

/-! ## Scopes -/

/-- What asking for help is for. -/
def helpPurpose : String := "Print this message or the help of the given subcommand(s)"

namespace Scope

def name : Scope → String
  | program => programName
  | write => "write"
  | validate => "validate"
  | info => "info"
  | sampleConfig => "sample-config"

def purpose (detail : Detail) : Scope → String
  | program =>
    match detail with
    | .brief => "Relay metric records to InfluxDB endpoints with randomized failover"
    | .full => "Reads metric records, encodes them as line protocol and writes each batch\n" ++
        "to one endpoint of the configured pool (UDP or HTTP), failing over to\n" ++
        "the next endpoint in random order when a write fails."
  | write => "Write JSON-lines metric records to the configured endpoints"
  | validate => "Validate configuration file without writing"
  | info => "Display resolved endpoints and write settings"
  | sampleConfig => "Print an annotated sample configuration"

def tasks : List Scope := [write, validate, info, sampleConfig]

def usage (scope : Scope) : String :=
  "Usage: " ++ match scope with
    | program => programName ++ " [OPTIONS] <COMMAND>"
    | task => programName ++ " " ++ task.name ++ " [OPTIONS]"

/-- The help for the program or for a task. -/
def helpText (env : Environment) (detail : Detail) (scope : Scope) : String :=
  let commands :=
    if scope = .program then
      "Commands:" :: table (tasks.map (fun t => (t.name, t.purpose .brief)) ++
        [("help", helpPurpose)]) ++ [""]
    else []
  let gap := match detail with
    | .brief => "\n"
    | .full => "\n\n"
  let options := gap.intercalate (scope.flags.map (·.entry env scope detail))
  String.join (([scope.purpose detail, "", scope.usage, ""] ++ commands ++
    ["Options:", options]).map (· ++ "\n"))

end Scope

/-- The help on asking for help. -/
def helpOnHelpText : String :=
  String.join ([helpPurpose, "", "Usage: " ++ programName ++ " help [COMMAND]...", "",
    "Arguments:"].map (· ++ "\n") ++
    (table [("[COMMAND]...", "Print help for the subcommand(s)")]).map (· ++ "\n"))

end PointRelay.Command
