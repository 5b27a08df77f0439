import PointRelay.Point
import PointRelay.Record

/-!
# Encoding records

A record becomes a point when it has no fault. Its faults are listed in the order in which they
are looked for: the name, then the tags and the fields in key order, then the time. A batch is
encoded as a whole or not at all, and the first fault of the first faulty record is reported.
-/

namespace PointRelay

open Time

/-- Why a record cannot become a point. -/
inductive Fault where
  | emptyName
  | noFields
  | emptyTagKey
  | emptyFieldKey
  | lineBreak (text : String)
  | trailingBackslash (text : String)
  | unsupportedKind (field kind : String)
  | integerOverflow (field : String) (value : Int)
  | timestampOutOfRange (time : Instant)
deriving DecidableEq, Repr

namespace Fault

def message : Fault → String
  | emptyName => "measurement name is empty"
  | noFields => "record has no fields"
  | emptyTagKey => "tag key is empty"
  | emptyFieldKey => "field key is empty"
  | lineBreak text => "'" ++ text ++ "' contains a line break"
  | trailingBackslash text => "'" ++ text ++ "' ends with a backslash"
  | unsupportedKind field kind => "field '" ++ field ++ "' has unsupported type " ++ kind
  | integerOverflow field value =>
    "field '" ++ field ++ "' value " ++ toString value ++ " exceeds the signed 64-bit integer range"
  | timestampOutOfRange time =>
    "timestamp " ++ time.text "+00:00" ++ " is outside the nanosecond range"

/-- An unquoted text stays on one line and does not escape the separator after it. -/
def ofText (s : String) : List Fault :=
  if s.toList.any fun c => c = '\n' || c = '\r' then [lineBreak s]
  else if s.toList.getLast? = some '\\' then [trailingBackslash s]
  else []

def ofTag (tag : String × String) : List Fault :=
  (if tag.1 = "" then [emptyTagKey] else []) ++ ofText tag.1 ++ ofText tag.2

def ofValue (field : String) : Value → List Fault
  | .null => [unsupportedKind field "null"]
  | .array _ => [unsupportedKind field "array"]
  | .object _ => [unsupportedKind field "object"]
  | .integer n => if 0x8000000000000000 ≤ n then [integerOverflow field n] else []
  | .double v => if v.isFinite then [] else [unsupportedKind field "number"]
  | .bool _ | .string _ => []

def ofField (field : String × Value) : List Fault :=
  (if field.1 = "" then [emptyFieldKey] else []) ++ ofText field.1 ++ ofValue field.1 field.2

def ofTime (t : Instant) : List Fault :=
  if t.nanos?.isSome then [] else [timestampOutOfRange t]

end Fault

/-- The value that a point carries for a field, if the store knows its kind. -/
def FieldValue.ofValue? : Value → Option FieldValue
  | .bool b => some (.boolean b)
  | .string s => some (.string s)
  | .integer n => some (.integer n)
  | .double v => some (.float v)
  | .null | .array _ | .object _ => none

namespace Record

/-- All faults, in the order in which they are looked for. -/
def faults (r : Record) : List Fault :=
  (if r.name = "" then [.emptyName] else []) ++
    (if r.fields.isEmpty then [.noFields] else []) ++
    Fault.ofText r.name ++
    r.tags.entries.flatMap Fault.ofTag ++
    r.fields.entries.flatMap Fault.ofField ++
    Fault.ofTime r.timestamp

/-- The point of a record without faults. A tag without a value is left out. -/
def toPoint (r : Record) : Point :=
  ⟨r.name, r.tags.filter fun tag => tag.2 ≠ "", r.fields.filterMap FieldValue.ofValue?,
    r.timestamp.toNanos⟩

def encode (r : Record) : Except Fault Point :=
  match r.faults with
  | [] => .ok r.toPoint
  | f :: _ => .error f

end Record

/-- The record that keeps a batch from being encoded. -/
structure Refusal where
  index : Nat
  name : String
  fault : Fault
deriving DecidableEq, Repr

namespace Refusal

def message (r : Refusal) : String :=
  "record " ++ toString r.index ++ " ('" ++ r.name ++ "') cannot be encoded: " ++ r.fault.message

end Refusal

namespace Batch

def encodeFrom (index : Nat) : List Record → Except Refusal (List Point)
  | [] => .ok []
  | r :: rest =>
    match r.encode with
    | .error f => .error ⟨index, r.name, f⟩
    | .ok p => (encodeFrom (index + 1) rest).map (p :: ·)

def encode (settings : Settings) (records : List Record) : Except Refusal Batch :=
  (encodeFrom 0 records).map fun points => ⟨settings, points⟩

end Batch

end PointRelay
