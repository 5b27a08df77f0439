import PointRelay.Config.Basic
import PointRelay.Config.Tree
import PointRelay.Json.Reader
import PointRelay.Toml.Reader

/-!
# Reading a configuration

Settings that are left out have their defaults; only the database has none. Members with other
names are skipped.
-/

namespace PointRelay.Config

open Time

/-- The name of the only version, or a group of that name with nothing in it. -/
def Version.ofTree? (format : Format) : Tree → Option Version
  | .text "V1" => some v1
  | .group [(some "V1", inner)] =>
    match format, inner with
    | .json, .absent | .toml, .list [] | .toml, .group [] => some v1
    | _, _ => none
  | _ => none

def outputFields : List String :=
  ["urls", "url", "username", "password", "database", "user_agent", "retention_policy",
    "write_consistency", "timeout", "udp_payload", "precision"]

/-- What a slot says, or the default of one that is left out. -/
def slotOr {α : Type} (slot : Option Tree) (default : α) (f : Tree → Option α) : Option α :=
  match slot with
  | none => some default
  | some t => f t

def Output.ofTree? (format : Format) (t : Tree) : Option Output := do
  match ← t.slots? format outputFields with
  | [urls, url, username, password, database, userAgent, retentionPolicy, writeConsistency,
      timeout, payload, precision] =>
    let urls ← slotOr urls [] Tree.texts?
    let url ← slotOr url none Tree.optionalText?
    let username ← slotOr username none Tree.optionalText?
    let password ← slotOr password none Tree.optionalText?
    let database ← (← database).text?
    let userAgent ← slotOr userAgent defaultUserAgent Tree.text?
    let retentionPolicy ← slotOr retentionPolicy "" Tree.text?
    let writeConsistency ← slotOr writeConsistency defaultConsistency Tree.text?
    let timeout ← slotOr timeout defaultTimeout fun t => do Span.read? (← t.text?)
    let payload ← slotOr payload 0 Tree.size?
    let precision ← slotOr precision none Tree.optionalText?
    some ⟨urls, url, username, password, database, userAgent, retentionPolicy, writeConsistency,
      timeout, payload, precision⟩
  | _ => none

def Blueprint.ofTree? (format : Format) (t : Tree) : Option Blueprint := do
  match ← t.slots? format ["version", "output"] with
  | [version, output] =>
    let version ← slotOr version .v1 (Version.ofTree? format)
    some ⟨version, ← Output.ofTree? format (← output)⟩
  | _ => none

/-- The value of a file's text. -/
def readTree? (format : Format) (s : String) : Option Tree :=
  match format with
  | .toml => (Toml.read? s).map .ofToml
  | .json => (Json.read? s).map .ofJson

def Blueprint.read (format : Format) (s : String) : Except Fault Blueprint :=
  match (readTree? format s).bind (Blueprint.ofTree? format) with
  | some b => .ok b
  | none => .error (.malformed format)

end PointRelay.Config
