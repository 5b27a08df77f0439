import PointRelay.Endpoint
import PointRelay.Json.Members
import PointRelay.Json.Reader
import PointRelay.Net
import PointRelay.Point.Line
import PointRelay.Text.Base64
import PointRelay.Text.Blank
import PointRelay.Text.Form

/-!
# Stream connections

A stream connection posts each batch to the write resource of a store and asks for databases at its
query resource. A write is done when the store says so with its status; a creation only when the
body of the answer is a query response without an error as well.
-/

namespace PointRelay

open Time Text

/-! ## Requests -/

/-- The header value that proves who is asking. -/
def Credentials.basic (username : String) (password : Option String) : String :=
  "Basic " ++ String.ofList
    (Base64.encode (Utf8.ofString (username ++ ":" ++ password.getD "")))

namespace Url

/-- A part of the credentials, if it decodes to text. -/
private def decoded? (s : String) : Option String :=
  Utf8.toString? (Percent.decode (Utf8.ofString s))

/-- The credentials inside the URL. -/
def credentials? (u : Url) : Option (String × Option String) := do
  let a ← u.authority
  let username ← decoded? a.username
  let password := a.password.bind decoded?
  if username = "" ∧ password = none then none else some (username, password)

/-- The URL without credentials. -/
def anonymous (u : Url) : Url :=
  { u with authority := u.authority.map fun a => { a with username := "", password := none } }

/-- The longest URL that a request can have. -/
def longest : Nat := 65534

/-- Whether a request can be sent to the URL. -/
def isRequestable (u : Url) : Bool :=
  (u.scheme == "http" || u.scheme == "https") &&
    ((u.hostText.getD "").toList.all fun c => !("\"`\x7b\x7d".contains c)) &&
    u.text.utf8ByteSize ≤ longest

end Url

/-- Characters that may stand in the value of a header. -/
def isHeaderCharacter (c : Char) : Bool := c == '\t' || !Percent.controls c

structure Stream where
  name : String
  writeUrl : Url
  queryUrl : Url
  userAgent : String
  credentials : Credentials
  timeout : Span
  closed : Bool
deriving DecidableEq, Repr

namespace Stream

/-- A connection to an endpoint. Nothing is sent yet. -/
def dial (e : Endpoint) (credentials : Credentials) : Except ConnectionError Stream :=
  if e.userAgent.toList.all isHeaderCharacter then
    .ok ⟨e.name, e.api "write", e.api "query", e.userAgent, credentials, e.timeout, false⟩
  else .error (.unreachable e.name "builder error")

/-- The request to a resource. Credentials in the URL come before the configured ones. -/
def request (url : Url) (params : List (String × String)) (body : String) (s : Stream) :
    Request :=
  let own := url.credentials?
  let given := s.credentials.username.map fun user => (user, s.credentials.password)
  { url := { (if own.isSome then url.anonymous else url) with
      query := some (String.ofList (Form.encode params)) }
    userAgent := s.userAgent
    authorization := (own.toList ++ given.toList).map fun c => Credentials.basic c.1 c.2
    body
    timeout := if s.timeout = .zero then none else some s.timeout }

variable {ω : Type} [Net ω]

/-- Send a request and wait for the response. -/
def post (url : Url) (params : List (String × String)) (body : String) (s : Stream) (net : ω) :
    Except ConnectionError Response × ω :=
  let r := s.request url params body
  let unreachable (what : String) (u : Url) : Except ConnectionError Response :=
    .error (.unreachable s.name (what ++ " for url (" ++ u.text ++ ")"))
  if url.host.isNone then (unreachable "builder error" url, net)
  else if !r.url.isRequestable then (unreachable "builder error" r.url, net)
  else
    match Net.request r net with
    | (.response a, net) => (.ok a, net)
    | (.timedOut, net) => (.error (.timeout s.name s.timeout), net)
    | (.failed, net) => (unreachable "error sending request" r.url, net)

end Stream

/-! ## Responses -/

namespace Response

def isSuccess (r : Response) : Bool := 200 ≤ r.status && r.status < 300

/-- The text of the body, if all of it came. -/
def text? (r : Response) : Option String :=
  if r.complete then some (Utf8.toStringLossy r.body) else none

/-- The error that a body tells: a JSON structure with the field `error`. -/
def errorBody? (text : String) : Option String :=
  match (Json.read? text).bind (Json.slots? ["error"]) with
  | some [some error] => error.text?
  | _ => none

/-- What a response that is no success says. -/
def complaint (r : Response) : String :=
  let text := r.text?.getD ""
  (errorBody? text).getD (trimmed text)

end Response

/-- The errors in a response to a query. -/
structure QueryResponse where
  /-- For each statement its error, if any. -/
  results : List (Option String)
  error : Option String
deriving DecidableEq, Repr

namespace QueryResponse

/-- The error of one statement. -/
def statement? (j : Json) : Option (Option String) :=
  match Json.slots? ["error"] j with
  | some [none] => some none
  | some [some error] => error.optionalText?
  | _ => none

def results? : Option Json → Option (List (Option String))
  | none => some []
  | some (.array items) => items.mapM statement?
  | some _ => none

/-- Read a response; both fields may be left out. -/
def read? (text : String) : Option QueryResponse :=
  match (Json.read? text).bind (Json.slots? ["results", "error"]) with
  | some [results, error] => do
    let results ← results? results
    let error ← match error with
      | none => some none
      | some e => e.optionalText?
    some ⟨results, error⟩
  | _ => none

/-- The error that counts: that of the whole query, else the first of a statement. -/
def firstError (r : QueryResponse) : Option String := r.error <|> r.results.findSome? id

end QueryResponse

/-! ## Operations -/

namespace Stream

/-- The store's words for a database that is there already. -/
def alreadyExists : String := "database already exists"

/-- A database name between quotes, with a backslash before each quote and backslash. -/
def quoted (name : String) : List Char := '"' :: escaped Line.quotedSpecial name.toList ++ ['"']

def creation (database : String) : String :=
  "CREATE DATABASE " ++ String.ofList (quoted database)

/-- The parameters of a write. -/
def writeParams (s : Settings) : List (String × String) :=
  [("db", s.database), ("precision", "ns")] ++
    (if s.retentionPolicy = "" then [] else [("rp", s.retentionPolicy)]) ++
    (if s.writeConsistency = "" then [] else [("consistency", s.writeConsistency)])

/-- What a response says about a write. -/
def written (database : String) (s : Stream) (r : Response) : Except ConnectionError Unit :=
  if r.isSuccess then .ok ()
  else if r.status = 404 then .error (.schemaMissing s.name database)
  else .error (.rejected s.name r.status r.complaint)

/-- What a response says about the creation of a database. -/
def created (database : String) (s : Stream) (r : Response) : Except ConnectionError Unit :=
  if !r.isSuccess then .error (.rejected s.name r.status r.complaint)
  else
    match r.text? with
    | none => .error (.unreachable s.name "error decoding response body")
    | some text =>
      match QueryResponse.read? text with
      | none => .error (.rejected s.name r.status (trimmed text))
      | some q =>
        match q.firstError with
        | none => .ok ()
        | some message =>
          if message = alreadyExists then .error (.alreadyExists s.name database)
          else .error (.rejected s.name r.status message)

variable {ω : Type} [Net ω]

def write (b : Batch) (s : Stream) (net : ω) : Except ConnectionError Unit × ω :=
  if s.closed then (.error (.closed s.name), net)
  else
    match s.post s.writeUrl (writeParams b.settings) b.body net with
    | (.error e, net) => (.error e, net)
    | (.ok r, net) => (s.written b.settings.database r, net)

def create (database : String) (s : Stream) (net : ω) : Except ConnectionError Unit × ω :=
  if s.closed then (.error (.closed s.name), net)
  else
    match s.post s.queryUrl [("q", creation database)] "" net with
    | (.error e, net) => (.error e, net)
    | (.ok r, net) => (s.created database r, net)

def close (s : Stream) : Stream := { s with closed := true }

end Stream

end PointRelay
