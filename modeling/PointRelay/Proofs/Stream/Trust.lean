import Mathlib
import PointRelay.Connection
import PointRelay.Net.Loopback
import PointRelay.Proofs.Stream.Requests

/-!
# Which responses are trusted with a database

The response to a creation may carry many errors, one of the whole query and one of each statement.
Only one of them is looked at: the first. That the database is already there is an error as well,
though it is what was wanted, and when it comes first it covers whatever comes behind it. So making
sure of a database succeeds for the responses that hold no other error, and for those that hide one.
-/

namespace PointRelay

open Text

namespace QueryResponse

/-- All errors of a response, that of the whole query first. -/
def errors (q : QueryResponse) : List String := q.error.toList ++ q.results.filterMap id

theorem head?_errors (q : QueryResponse) : q.errors.head? = q.firstError := by
  obtain ⟨results, error⟩ := q
  cases error with
  | some e => rfl
  | none => exact List.head?_filterMap

end QueryResponse

namespace Response

/-- The query response that the body holds, if all of it came. -/
def query? (r : Response) : Option QueryResponse := r.text?.bind QueryResponse.read?

/-- A success without any error but that the database is already there. -/
def Grants (r : Response) : Prop :=
  r.isSuccess = true ∧ ∃ q, r.query? = some q ∧ ∀ e ∈ q.errors, e = Stream.alreadyExists

/-- A success with another error behind the one that the database is already there. -/
def Masks (r : Response) : Prop :=
  r.isSuccess = true ∧ ∃ q, r.query? = some q ∧ q.errors.head? = some Stream.alreadyExists ∧
    ∃ e ∈ q.errors, e ≠ Stream.alreadyExists

theorem not_grants_of_mem {r : Response} {q : QueryResponse} {e : String}
    (query : r.query? = some q) (mem : e ∈ q.errors) (other : e ≠ Stream.alreadyExists) :
    ¬ r.Grants := by
  rintro ⟨-, q', query', all⟩
  obtain rfl := Option.some.inj (query.symm.trans query')
  exact other (all e mem)

theorem Masks.not_grants {r : Response} (masks : r.Masks) : ¬ r.Grants := by
  obtain ⟨-, q, query, -, e, mem, other⟩ := masks
  exact not_grants_of_mem query mem other

/-- The first error decides between the responses that are trusted and the others. -/
theorem grants_or_masks {r : Response} {q : QueryResponse} (success : r.isSuccess = true)
    (query : r.query? = some q) :
    r.Grants ∨ r.Masks ↔ ∀ e, q.errors.head? = some e → e = Stream.alreadyExists := by
  constructor
  · rintro (⟨-, q', query', all⟩ | ⟨-, q', query', first, -⟩) e head
    · obtain rfl := Option.some.inj (query.symm.trans query')
      exact all e (List.mem_of_head? head)
    · obtain rfl := Option.some.inj (query.symm.trans query')
      exact Option.some.inj (head.symm.trans first)
  · intro first
    by_cases all : ∀ e ∈ q.errors, e = Stream.alreadyExists
    · exact .inl ⟨success, q, query, all⟩
    · push Not at all
      obtain ⟨e, mem, other⟩ := all
      have head := List.head?_eq_some_head (List.ne_nil_of_mem mem)
      exact .inr ⟨success, q, query, by rw [head, first _ head], e, mem, other⟩

end Response

namespace Stream

variable {r : Response} {q : QueryResponse}

theorem created_of_query (database : String) (t : Stream) (success : r.isSuccess = true)
    (query : r.query? = some q) :
    t.created database r =
      match q.errors.head? with
      | none => .ok ()
      | some message =>
        if message = alreadyExists then .error (.alreadyExists t.name database)
        else .error (.rejected t.name r.status message) := by
  obtain ⟨text, body, read⟩ := Option.bind_eq_some_iff.mp query
  rw [QueryResponse.head?_errors]
  simp only [created, success, body, read]
  rfl

theorem created_of_failure (database : String) (t : Stream) (failure : r.isSuccess = false) :
    t.created database r = .error (.rejected t.name r.status r.complaint) := by
  simp only [created, failure]
  rfl

theorem created_of_unread (database : String) (t : Stream) (success : r.isSuccess = true)
    (complete : r.complete = true) (unread : r.query? = none) :
    t.created database r =
      .error (.rejected t.name r.status (trimmed (Utf8.toStringLossy r.body))) := by
  have body : r.text? = some (Utf8.toStringLossy r.body) := if_pos complete
  rw [Response.query?, body, Option.bind_some] at unread
  simp only [created, success, body, unread]
  rfl

theorem created_of_cut (database : String) (t : Stream) (success : r.isSuccess = true)
    (cut : r.complete = false) :
    t.created database r = .error (.unreachable t.name "error decoding response body") := by
  have body : r.text? = none := if_neg (by rw [cut]; exact Bool.false_ne_true)
  simp only [created, success, body]
  rfl

/-- A response that came whole and is not trusted is refused with its status. If it holds errors,
the first of them is the one that is told. -/
theorem ensured_created (database : String) (t : Stream) (complete : r.complete = true) :
    Focus.ensured (t.created database r) = .ok () ∧ (r.Grants ∨ r.Masks) ∨
      (∃ message,
        Focus.ensured (t.created database r) = .error (.rejected t.name r.status message) ∧
        (r.isSuccess = true → ∀ q, r.query? = some q → q.errors.head? = some message)) ∧
        ¬ (r.Grants ∨ r.Masks) := by
  cases success : r.isSuccess with
  | false =>
    right
    refine ⟨⟨_, by rw [created_of_failure database t success]; rfl, nofun⟩, ?_⟩
    rintro (⟨trusted, -⟩ | ⟨trusted, -⟩) <;> cases success.symm.trans trusted
  | true =>
    cases query : r.query? with
    | none =>
      right
      refine ⟨⟨_, by rw [created_of_unread database t success complete query]; rfl, nofun⟩, ?_⟩
      rintro (⟨-, q, read, -⟩ | ⟨-, q, read, -⟩) <;> cases query.symm.trans read
    | some q =>
      rw [created_of_query database t success query, Response.grants_or_masks success query]
      cases first : q.errors.head? with
      | none => exact .inl ⟨rfl, nofun⟩
      | some message =>
        by_cases there : message = alreadyExists
        · left
          refine ⟨?_, fun e head => (Option.some.inj head).symm.trans there⟩
          simp only [if_pos there, Focus.ensured]
        · right
          refine ⟨⟨message, ?_, ?_⟩, fun only => there (only message rfl)⟩
          · simp only [if_neg there, Focus.ensured]
          · rintro - q' read
            obtain rfl := Option.some.inj read
            exact first

end Stream

variable {ω : Type} [Net ω]

/-- An open connection answers a creation with what its response says. -/
theorem ensure_of_response {s : Focus (Connection ω) ω} {t : Stream} {database : String}
    {r : Response} (stream : s.member.transport = .stream t) (opened : t.closed = false)
    (posted : (t.post t.queryUrl [("q", Stream.creation database)] "" s.net).1 = .ok r) :
    (s.ensure database).1 = Focus.ensured (t.created database r) := by
  have created : (t.create database s.net).1 = t.created database r := by
    rw [Stream.create, opened, if_neg Bool.false_ne_true]
    rcases post : t.post t.queryUrl [("q", Stream.creation database)] "" s.net with ⟨answer, net⟩
    rw [post] at posted
    obtain rfl := posted
    rfl
  have answer : (Transport.create database s.member.transport s.net).answer =
      (t.create database s.net).1 := by
    rw [stream]
    rfl
  exact congrArg Focus.ensured (answer.trans created)

/-- Whatever response comes to the creation of an open connection, a database is trusted to be there
on a success that grants it and on one that masks an error, and masking is all that parts this from
trusting the granting ones alone. Every other response is refused with its status, and with its
first error if it holds any. A success whose body is cut short is no whole response: it counts as
a store out of reach. -/
theorem ensure_trusts_first_error {s : Focus (Connection ω) ω} {t : Stream} {database : String}
    {r : Response} (stream : s.member.transport = .stream t) (opened : t.closed = false)
    (posted : (t.post t.queryUrl [("q", Stream.creation database)] "" s.net).1 = .ok r) :
    (r.complete = true →
      ((s.ensure database).1 = .ok () ↔ r.Grants ∨ r.Masks) ∧
      (¬ r.Grants → ¬ r.Masks → ∃ message,
        (s.ensure database).1 = .error (.rejected t.name r.status message) ∧
        (r.isSuccess = true → ∀ q, r.query? = some q → q.errors.head? = some message)) ∧
      (((s.ensure database).1 = .ok () ↔ r.Grants) ↔ ¬ r.Masks)) ∧
    (r.isSuccess = false →
      (s.ensure database).1 = .error (.rejected t.name r.status r.complaint)) ∧
    (r.isSuccess = true → r.complete = false →
      (s.ensure database).1 = .error (.unreachable t.name "error decoding response body")) := by
  have answer := ensure_of_response stream opened posted
  refine ⟨fun complete => ?_, fun failure => ?_, fun success cut => ?_⟩
  · rw [answer]
    rcases Stream.ensured_created database t complete with
      ⟨ok, trusted⟩ | ⟨⟨message, refused, first⟩, distrusted⟩
    · refine ⟨iff_of_true ok trusted, fun denied unmasked => ?_, ?_⟩
      · exact absurd trusted (not_or_intro denied unmasked)
      · rw [iff_true_left ok]
        exact ⟨fun granted masks => masks.not_grants granted, trusted.resolve_right⟩
    · obtain ⟨denied, unmasked⟩ := not_or.mp distrusted
      have refusal : Focus.ensured (t.created database r) ≠ .ok () := by
        rw [refused]
        exact nofun
      exact ⟨iff_of_false refusal distrusted, fun _ _ => ⟨message, refused, first⟩,
        iff_of_true (iff_of_false refusal denied) unmasked⟩
  · rw [answer, Stream.created_of_failure database t failure]
    rfl
  · rw [answer, Stream.created_of_cut database t success cut]
    rfl

/-! ## A store with a full disk -/

def asker : Stream :=
  ⟨"http://db:1",
    ⟨"http", some ⟨"", none, some (.name "db"), some 1⟩, false, "/write".toList, none, none⟩,
    ⟨"http", some ⟨"", none, some (.name "db"), some 1⟩, false, "/query".toList, none, none⟩,
    "metric-relay", ⟨none, none⟩, .seconds 5, false⟩

/-- A success with a text as its body. -/
def Response.saying (text : String) : Response := ⟨200, Utf8.ofString text, true⟩

/-- A member whose connection is about to hear that success. -/
def hearing (text : String) : Focus (Connection Loopback) Loopback :=
  ⟨⟨"http://db:1", .stream asker, .ready, .zero⟩,
    ⟨true, Dict.ofList [("db:1", ⟨[], [⟨200, Utf8.ofString text, .whole⟩]⟩)], [], []⟩, []⟩

theorem post_hearing (text : String) :
    (asker.post asker.queryUrl [("q", Stream.creation "m")] "" (hearing text).net).1 =
      .ok (Response.saying text) := by
  rw [hearing, Response.saying]
  generalize Utf8.ofString text = body
  cbv

theorem query?_saying (text : String) :
    (Response.saying text).query? = QueryResponse.read? text := by
  have body : (Response.saying text).text? = some text :=
    congrArg some (Utf8.toStringLossy_ofString text)
  rw [Response.query?, body, Option.bind_some]

def failureFirst : String :=
  "\x7b\"results\":[\x7b\"error\":\"disk full\"\x7d,\x7b\"error\":\"database already exists\"\x7d]\x7d"

theorem failure_before_existing_database_is_told :
    (asker.post asker.queryUrl [("q", Stream.creation "m")] "" (hearing failureFirst).net).1 =
      .ok (Response.saying failureFirst) ∧
    ((hearing failureFirst).ensure "m").1 = .error (.rejected "http://db:1" 200 "disk full") := by
  have query : (Response.saying failureFirst).query? =
      some ⟨[some "disk full", some "database already exists"], none⟩ := by
    rw [query?_saying]
    cbv
  have denied : ¬ (Response.saying failureFirst).Grants :=
    Response.not_grants_of_mem query List.mem_cons_self (by decide)
  have unmasked : ¬ (Response.saying failureFirst).Masks := by
    rintro ⟨-, q, read, first, -⟩
    obtain rfl := Option.some.inj (query.symm.trans read)
    exact absurd first (by decide)
  have posted := post_hearing failureFirst
  obtain ⟨-, refusal, -⟩ :=
    (ensure_trusts_first_error (s := hearing failureFirst) rfl rfl posted).1 rfl
  obtain ⟨message, refused, first⟩ := refusal denied unmasked
  obtain rfl : "disk full" = message := Option.some.inj (first rfl _ query)
  exact ⟨posted, refused⟩

def failureBehind : String :=
  "\x7b\"results\":[\x7b\"error\":\"database already exists\"\x7d,\x7b\"error\":\"disk full\"\x7d]\x7d"

/-- The disk is full, and nobody is told. -/
theorem failure_behind_existing_database_is_lost :
    (asker.post asker.queryUrl [("q", Stream.creation "m")] "" (hearing failureBehind).net).1 =
      .ok (Response.saying failureBehind) ∧
    (Response.saying failureBehind).query? =
      some ⟨[some "database already exists", some "disk full"], none⟩ ∧
    ¬ (Response.saying failureBehind).Grants ∧ ((hearing failureBehind).ensure "m").1 = .ok () := by
  have query : (Response.saying failureBehind).query? =
      some ⟨[some "database already exists", some "disk full"], none⟩ := by
    rw [query?_saying]
    cbv
  have posted := post_hearing failureBehind
  refine ⟨posted, query, ?_, ?_⟩
  · exact Response.not_grants_of_mem (e := "disk full") query (by decide) (by decide)
  · rw [ensure_of_response (s := hearing failureBehind) rfl rfl posted,
      Stream.created_of_query "m" asker rfl query]
    rfl

end PointRelay
