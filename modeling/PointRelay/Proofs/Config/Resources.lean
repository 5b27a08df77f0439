import PointRelay.Endpoint
import PointRelay.Proofs.Url.Slash

/-!
# Resources under a configured URL

Requests go to two resources, whose URLs are made of the configured one. Its path is the prefix
under which the store is served, so all of it is kept but for a slash at the end, and whether that
slash was written makes no difference.
-/

namespace PointRelay

namespace Endpoint

/-- The resources to which requests go. -/
def resources : List String := ["write", "query"]

theorem single_of_mem_resources {p : String} (mem : p ∈ resources) : '/' ∉ p.toList := by
  simp only [resources, List.mem_cons, List.not_mem_nil, or_false] at mem
  rcases mem with rfl | rfl <;> decide

/-- Streams come of URLs that are not opaque. -/
theorem resolve_stream {o : Config.Output} {raw : String} {e : Endpoint} {c : Credentials}
    (resolved : resolve o raw = .ok e) (stream : e.kind = .stream c) :
    Url.read raw = .ok e.url ∧ Config.isDatagramScheme e.url.scheme = false ∧
      e.url.isOpaque = false ∧
      e = ⟨raw, e.url, .stream ⟨o.username, o.password⟩, o.userAgent, o.timeout⟩ := by
  unfold resolve at resolved
  split at resolved
  · cases resolved
  · rename_i u read
    by_cases datagram : Config.isDatagramScheme u.scheme = true
    · rw [if_pos datagram] at resolved
      split at resolved
      · cases resolved
      · split at resolved
        · cases resolved
        · obtain rfl := Except.ok.inj resolved
          cases stream
    · rw [if_neg datagram] at resolved
      split at resolved
      · cases resolved
      · rename_i opened
        obtain rfl := Except.ok.inj resolved
        exact ⟨read, by simpa using datagram, by simpa using opened, rfl⟩

theorem resolve_of_opened {o : Config.Output} {raw : String} {u : Url}
    (read : Url.read raw = .ok u) (stream : Config.isDatagramScheme u.scheme = false)
    (opened : u.isOpaque = false) :
    resolve o raw =
      .ok ⟨raw, u, .stream ⟨o.username, o.password⟩, o.userAgent, o.timeout⟩ := by
  simp [resolve, read, stream, opened]

/-- Whether a slash stands at the end of the path makes no difference to the resources. -/
theorem api_slashed {e e' : Endpoint} (rooted : Url.Rooted e.url.path)
    (opened : e.url.isOpaque = false) (url : e'.url = e.url.slashed) (p : String) :
    e'.api p = e.api p := by
  obtain ⟨rooted', opened'⟩ := rooted.slashed
  rw [api, api, url, Url.resource_eq rooted' opened', Url.resource_eq rooted opened, Url.slashed,
    Url.bare_closed]

/-- The resources stand under the configured URL. -/
structure Bases (raw : String) (e : Endpoint) : Prop where
  read : Url.read raw = .ok e.url
  /-- A resource has a path of its own and no query, and the rest is kept. -/
  api : ∀ p ∈ resources, e.api p =
    { e.url with path := Url.bare e.url.path ++ '/' :: p.toList, query := none }
  /-- The segments of the prefix stand in front, but for an empty one at its end. -/
  segments : ∃ kept,
    (Url.segments e.url.path = kept ∨ Url.segments e.url.path = kept ++ [[]] ∨
      Url.segments e.url.path = [[], []] ∧ kept = []) ∧
    ∀ p ∈ resources, Url.segments (e.api p).path = kept ++ [p.toList]
  /-- Only their paths tell the resources apart. -/
  apart : { e.api "write" with path := (e.api "query").path } = e.api "query"

theorem bases_of_resolve {o : Config.Output} {raw : String} {e : Endpoint} {c : Credentials}
    (resolved : resolve o raw = .ok e) (stream : e.kind = .stream c) : Bases raw e := by
  obtain ⟨read, -, opened, -⟩ := resolve_stream resolved stream
  have rooted := Url.rooted_of_not_isOpaque read opened
  have known : ∀ p, e.api p =
      { e.url with path := Url.bare e.url.path ++ '/' :: p.toList, query := none } :=
    fun p => Url.resource_eq rooted opened p
  refine ⟨read, fun p _ => known p, ?_, ?_⟩
  · refine ⟨_, Url.segments_bare rooted, fun p mem => ?_⟩
    rw [known]
    exact Url.segments_append (Url.rooted_bare rooted) (single_of_mem_resources mem)
  · rw [known, known]

/-- What is read with a slash more in its text is resolved to the same resources. -/
theorem resolve_of_closes {o : Config.Output} {raw raw' : String} {e : Endpoint}
    {c : Credentials} {lone : Prop} (resolved : resolve o raw = .ok e) (stream : e.kind = .stream c)
    (closes : Url.Closes lone e.url (Url.read raw')) :
    (¬lone → ∃ e', resolve o raw' = .ok e' ∧ e'.kind = e.kind ∧ ∀ p, e'.api p = e.api p) ∧
      (lone → resolve o raw' = .error (.config raw' Url.Fault.emptyHost.message)) := by
  obtain ⟨read, other, opened, known⟩ := resolve_stream resolved stream
  have rooted := Url.rooted_of_not_isOpaque read opened
  refine ⟨fun proper => ?_, fun here => by simp [resolve, closes.lost here]⟩
  refine ⟨_, resolve_of_opened (closes.kept proper) other rooted.slashed.2, ?_,
    api_slashed rooted opened rfl⟩
  rw [known]

end Endpoint

/-- Requests go to resources under the configured URL, whose prefix, credentials and place they
keep. A slash at the end of the path makes no difference, in the URL as in its text. Only a text
whose authority is a lone sign is refused with a slash more. -/
theorem resources_keep_base {o : Config.Output} {raw : String} {e : Endpoint} {c : Credentials}
    (resolved : Endpoint.resolve o raw = .ok e) (stream : e.kind = .stream c) :
    Endpoint.Bases raw e ∧
      (∀ e' : Endpoint, e.url.path.getLast? ≠ some '/' →
        e'.url = { e.url with path := e.url.path ++ ['/'] } →
        ∀ p ∈ Endpoint.resources, e'.api p = e.api p) ∧
      ∀ raw' : String, Url.AddsSlash e.url raw raw' →
        (¬Url.Lone e.url.scheme raw → ∃ e', Endpoint.resolve o raw' = .ok e' ∧
          e'.kind = e.kind ∧ ∀ p ∈ Endpoint.resources, e'.api p = e.api p) ∧
        (Url.Lone e.url.scheme raw →
          Endpoint.resolve o raw' = .error (.config raw' Url.Fault.emptyHost.message)) := by
  obtain ⟨read, -, opened, -⟩ := Endpoint.resolve_stream resolved stream
  refine ⟨Endpoint.bases_of_resolve resolved stream, fun e' bare url p _ => ?_,
    fun raw' added => ?_⟩
  · refine Endpoint.api_slashed (Url.rooted_of_not_isOpaque read opened) opened ?_ p
    rw [url, Url.slashed, Url.closed, if_neg bare]
  · obtain ⟨kept, lost⟩ := Endpoint.resolve_of_closes resolved stream
      (Url.read_closing read opened added)
    refine ⟨fun proper => ?_, lost⟩
    obtain ⟨e', found, kind, same⟩ := kept proper
    exact ⟨e', found, kind, fun p _ => same p⟩

/-- An endpoint under a prefix with an encoded slash and an empty segment. -/
def prefixed : Endpoint :=
  ⟨"http://u:p@[::1]:8086/a%2Fb//i?x=1",
    ⟨"http", some ⟨"u", some "p", some (.ipv6 [0, 0, 0, 0, 0, 0, 0, 1]), some 8086⟩, false,
      "/a%2Fb//i".toList, some "x=1", none⟩,
    .stream ⟨none, none⟩, "metric-relay", .seconds 5⟩

theorem prefixed_resources_keep_base :
    Endpoint.resolve (Config.Output.new "d") prefixed.name = .ok prefixed ∧
      Endpoint.resources.map (fun p => (prefixed.api p).text) =
        ["http://u:p@[::1]:8086/a%2Fb//i/write", "http://u:p@[::1]:8086/a%2Fb//i/query"] ∧
      ∃ e, Endpoint.resolve (Config.Output.new "d") "http://u:p@[::1]:8086/a%2Fb//i/?x=1" =
          .ok e ∧
        ∀ p ∈ Endpoint.resources, e.api p = prefixed.api p := by
  have resolved : Endpoint.resolve (Config.Output.new "d") prefixed.name = .ok prefixed := by cbv
  have added : Url.AddsSlash prefixed.url prefixed.name
      "http://u:p@[::1]:8086/a%2Fb//i/?x=1" := by
    refine ⟨"http://u:p@[::1]:8086/a%2Fb//i".toList, "?x=1".toList, by cbv, by cbv, ?_, ?_⟩
    · exact ⟨by simp [Url.endsPath], by simp [Url.endsPath]⟩
    · exact Or.inl (by decide)
  have proper : ¬Url.Lone "http" prefixed.name := fun lone => absurd lone.1 (by decide)
  obtain ⟨bases, -, spelled⟩ := resources_keep_base resolved rfl
  refine ⟨resolved, ?_, ?_⟩
  · simp only [Endpoint.resources, List.map_cons, List.map_nil]
    rw [bases.api "write" (by decide), bases.api "query" (by decide)]
    cbv
  · obtain ⟨e, found, -, same⟩ := (spelled _ added).1 proper
    exact ⟨e, found, same⟩

/-- A lone sign is accepted as the base of a stream, and with a slash more it is refused. -/
theorem lone_sign_refuses_slash :
    ∃ e, Endpoint.resolve (Config.Output.new "d") "s://@" = .ok e ∧
      e.kind = .stream ⟨none, none⟩ ∧ e.url.path.getLast? ≠ some '/' ∧
      (e.api "write").text = "s:///write" ∧
      Url.AddsSlash e.url "s://@" "s://@/" ∧
      Endpoint.resolve (Config.Output.new "d") "s://@/" =
        .error (.config "s://@/" Url.Fault.emptyHost.message) := by
  refine ⟨⟨"s://@", ⟨"s", some ⟨"", none, none, none⟩, false, [], none, none⟩,
    .stream ⟨none, none⟩, "metric-relay", .seconds 5⟩, by cbv, rfl, by simp, by cbv, ?_, by cbv⟩
  exact ⟨"s://@".toList, [], by cbv, by cbv, ⟨by simp [Url.endsPath], by simp⟩,
    Or.inl (by decide)⟩

end PointRelay
