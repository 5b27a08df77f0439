/-!
# Configuration formats

The format of a file is told by its extension in any case. A name that only starts with a dot has
no extension.
-/

namespace PointRelay.Config

inductive Format where
  | toml
  | json
deriving DecidableEq, Repr

namespace Format

def ofExtension? (extension : String) : Option Format :=
  match String.ofList (extension.toList.map Char.toLower) with
  | "toml" => some toml
  | "json" => some json
  | _ => none

/-- How the format is called in messages. -/
def name : Format → String
  | toml => "TOML"
  | json => "JSON"

end Format

/-- The last component of a path. -/
def fileName (path : String) : List Char :=
  ((path.toList.reverse.dropWhile (· = '/')).takeWhile (· ≠ '/')).reverse

/-- What follows the last dot of a file's name, unless that dot starts it. -/
def extension? (path : String) : Option String :=
  let name := fileName path
  let back := name.reverse
  let ext := back.takeWhile (· ≠ '.')
  let stem := (back.drop ext.length).drop 1
  if !name.contains '.' || stem.isEmpty || name = ['.', '.'] then none
  else some (String.ofList ext.reverse)

end PointRelay.Config
