import PointRelay.Member
import PointRelay.Proofs.Line.Parts
import PointRelay.Proofs.Text.Form
import PointRelay.Stream

/-!
# What a stream connection asks

A write and a creation make one request or fail without one. Of a request its receiver sees the
resource and the form in the query. Read as a form, the query of a write gives the settings of its
batch, and that of a creation one statement, which creates the database and says nothing else: the
name ends at the quote that closes it, whatever quotes and backslashes it holds.
-/

namespace PointRelay

open Text

/-- A network with the requests that were made on it, newest first. -/
structure Traced (ω : Type) where
  net : ω
  requests : List Request

instance {ω : Type} [Net ω] : Net (Traced ω) where
  request r n :=
    let (reply, net) := Net.request r n.net
    (reply, ⟨net, r :: n.requests⟩)
  connect address n :=
    let (answer, net) := Net.connect address n.net
    (answer, ⟨net, n.requests⟩)
  send address bytes n :=
    let (answer, net) := Net.send address bytes n.net
    (answer, ⟨net, n.requests⟩)

namespace Request

/-- The form in the query. -/
def form (r : Request) : List (String × String) :=
  (r.url.query.map fun q => Form.decode q.toList).getD []

/-- The resource that is asked, without credentials and query. -/
def resource (r : Request) : Url := { r.url.anonymous with query := none }

end Request

namespace Stream

/-- The name between quotes that makes up some text, where a backslash before a quote or another
backslash stands for it. -/
def identifier? : List Char → Option String
  | '"' :: behind =>
    match Line.quoted? behind with
    | some (name, []) => some (String.ofList name)
    | _ => none
  | _ => none

/-- The database that a statement creates: behind the words stands its name, and then nothing. -/
def creates? (statement : String) : Option String :=
  (statement.toList.dropPrefix? "CREATE DATABASE ".toList).bind identifier?

theorem identifier?_quoted (name : String) : identifier? (quoted name) = some name := by
  rw [quoted, List.cons_append, identifier?, Line.quoted?_escaped]
  exact congrArg some String.ofList_toList

theorem dropPrefix?_append (words behind : List Char) :
    (words ++ behind).dropPrefix? words = some behind :=
  List.dropPrefix?_eq_some_iff.mpr ⟨words, rfl, BEq.rfl⟩

/-- No name ends its quotes early or adds to the statement. -/
theorem creates?_creation (database : String) : creates? (creation database) = some database := by
  unfold creates? creation
  rw [String.toList_append, dropPrefix?_append, Option.bind_some, String.toList_ofList,
    identifier?_quoted]

theorem form_request (url : Url) (params : List (String × String)) (body : String) (s : Stream) :
    (s.request url params body).form = params := by
  rw [Request.form, request]
  simp only [Option.map_some, Option.getD_some, String.toList_ofList]
  exact Form.decode_encode params

theorem anonymous_anonymous (u : Url) : u.anonymous.anonymous = u.anonymous := by
  unfold Url.anonymous
  cases u.authority <;> rfl

theorem resource_request (url : Url) (params : List (String × String)) (body : String)
    (s : Stream) :
    (s.request url params body).resource = { url.anonymous with query := none } := by
  rw [Request.resource, request]
  split
  · exact congrArg (fun u : Url => { u with query := none }) (anonymous_anonymous url)
  · rfl

/-- The request of a write. -/
def writing (b : Batch) (s : Stream) : Request :=
  s.request s.writeUrl (writeParams b.settings) b.body

/-- The request of a creation. -/
def creating (database : String) (s : Stream) : Request :=
  s.request s.queryUrl [("q", creation database)] ""

/-- What a post makes of the reply to its request. -/
def heard (r : Request) (s : Stream) : Reply → Except ConnectionError Response
  | .response a => .ok a
  | .timedOut => .error (.timeout s.name s.timeout)
  | .failed =>
    .error (.unreachable s.name ("error sending request" ++ " for url (" ++ r.url.text ++ ")"))

/-- A request to a resource can be made: the resource has a host, and the request a URL that can
be requested. -/
structure Requestable (url : Url) (r : Request) : Prop where
  host : url.host.isSome = true
  url : r.url.isRequestable = true

variable {ω : Type} [Net ω]

/-- A post is answered as its request is. -/
theorem post_of_requestable {url : Url} {params : List (String × String)} {body : String}
    {s : Stream} (asked : Requestable url (s.request url params body)) (net : ω) :
    s.post url params body net =
      (Net.request (s.request url params body) net).map
        (s.heard (s.request url params body)) id := by
  have hosted : ¬ url.host.isNone = true := by
    rw [← Option.not_isSome, asked.host]
    exact Bool.false_ne_true
  have sendable : ¬ (!(s.request url params body).url.isRequestable) = true := by
    rw [asked.url]
    exact Bool.false_ne_true
  refine ((if_neg hosted).trans (if_neg sendable)).trans ?_
  rcases Net.request (s.request url params body) net with ⟨reply, after⟩
  cases reply <;> rfl

/-- A post that cannot be made fails without a request. -/
theorem post_of_not_requestable {url : Url} {params : List (String × String)} {body : String}
    {s : Stream} (barred : ¬ Requestable url (s.request url params body)) :
    ∃ what, ∀ net : ω, s.post url params body net = (.error (.unreachable s.name what), net) := by
  by_cases hostless : url.host.isNone
  · exact ⟨_, fun net => if_pos hostless⟩
  · by_cases refused : !(s.request url params body).url.isRequestable
    · exact ⟨_, fun net => (if_neg hostless).trans (if_pos refused)⟩
    · exact absurd ⟨by simpa [Option.isSome_iff_ne_none] using hostless, by simpa using refused⟩
        barred

/-- A post is answered as its request is, or fails without one. -/
theorem post_cases (url : Url) (params : List (String × String)) (body : String) (s : Stream) :
    (∃ what, ∀ net : ω, s.post url params body net = (.error (.unreachable s.name what), net)) ∨
      ∀ net : ω, s.post url params body net =
        (Net.request (s.request url params body) net).map
          (s.heard (s.request url params body)) id := by
  by_cases asked : Requestable url (s.request url params body)
  · exact Or.inr (post_of_requestable asked)
  · exact Or.inl (post_of_not_requestable asked)

/-- A write of the connection is asked for: the connection is open, and the request can be made. -/
structure Asks (b : Batch) (s : Stream) : Prop where
  opened : s.closed = false
  requestable : Requestable s.writeUrl (s.writing b)

theorem write_of_asks {b : Batch} {s : Stream} (asks : s.Asks b) (net : ω) :
    s.write b net = (Net.request (s.writing b) net).map
      (fun reply => (s.heard (s.writing b) reply).bind (s.written b.settings.database)) id := by
  have posted := post_of_requestable asks.requestable net
  rw [write, if_neg (by simp [asks.opened]), posted, ← writing]
  rcases Net.request (s.writing b) net with ⟨reply, after⟩
  cases reply <;> rfl

theorem write_of_not_asks {b : Batch} {s : Stream} (silent : ¬ s.Asks b) :
    ∃ e, ∀ net : ω, s.write b net = (.error e, net) := by
  by_cases closed : s.closed
  · exact ⟨_, fun net => if_pos closed⟩
  · obtain ⟨what, refused⟩ := post_of_not_requestable (ω := ω) fun asked =>
      silent ⟨Bool.eq_false_iff.mpr closed, asked⟩
    refine ⟨.unreachable s.name what, fun net => (if_neg closed).trans ?_⟩
    rw [refused]

/-- A write is answered as its request is, or fails without one. -/
theorem write_cases (b : Batch) (s : Stream) :
    (∃ e, ∀ net : ω, s.write b net = (.error e, net)) ∨
      ∃ answer : Reply → Except ConnectionError Unit, ∀ net : ω,
        s.write b net = (Net.request (s.writing b) net).map answer id := by
  by_cases asks : s.Asks b
  · exact Or.inr ⟨_, write_of_asks asks⟩
  · exact Or.inl (write_of_not_asks asks)

/-- A creation is answered as its request is, or fails without one, and then the database is not
there. -/
theorem create_cases (database : String) (s : Stream) :
    (∃ e, Focus.ensured (.error e) = .error e ∧
      ∀ net : ω, s.create database net = (.error e, net)) ∨
      ∃ answer : Reply → Except ConnectionError Unit, ∀ net : ω,
        s.create database net = (Net.request (s.creating database) net).map answer id := by
  by_cases closed : s.closed
  · exact Or.inl ⟨_, rfl, fun net => if_pos closed⟩
  · rcases s.post_cases (ω := ω) s.queryUrl [("q", creation database)] "" with
      ⟨what, refused⟩ | posted
    · refine Or.inl ⟨.unreachable s.name what, rfl, fun net => (if_neg closed).trans ?_⟩
      rw [refused]
    · refine Or.inr ⟨fun reply => (s.heard (s.creating database) reply).bind
        (s.created database), fun net => (if_neg closed).trans ?_⟩
      rw [posted, ← creating]
      rcases Net.request (s.creating database) net with ⟨reply, after⟩
      cases reply <;> rfl

end Stream

end PointRelay
