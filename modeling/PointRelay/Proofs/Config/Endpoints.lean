import Mathlib
import PointRelay.Command.Overview
import PointRelay.Proofs.Url.Path
import PointRelay.Resolver

/-!
# What is loaded can be resolved

The endpoints of a configuration are looked at twice: when it is loaded, and when they are resolved
for use. The conditions are not the same, but whatever the first look lets pass the second does too.
-/

namespace PointRelay

namespace Config

/-- An endpoint without fault is a URL with a host, and with a port where datagrams go. -/
theorem endpointFault?_eq_none {raw : String} (faultless : endpointFault? raw = none) :
    ∃ u host, Url.read raw = .ok u ∧ u.hostText = some host ∧ host ≠ "" ∧
      (isDatagramScheme u.scheme = true → ∃ port, u.port = some port) := by
  unfold endpointFault? at faultless
  cases read : Url.read raw with
  | error f => simp [read] at faultless
  | ok u =>
    simp only [read] at faultless
    cases text : u.hostText with
    | none => simp [text] at faultless
    | some host =>
      by_cases empty : host = ""
      · simp [text, empty] at faultless
      · refine ⟨u, host, rfl, text, empty, fun datagram => ?_⟩
        cases port : u.port with
        | none => simp [text, empty, datagram, port] at faultless
        | some p => exact ⟨p, rfl⟩

theorem endpointsFault?_eq_none {index : Nat} {raws : List String}
    (faultless : endpointsFault? index raws = none) : ∀ raw ∈ raws, endpointFault? raw = none := by
  induction raws generalizing index with
  | nil => exact fun _ mem => nomatch mem
  | cons raw rest ih =>
    unfold endpointsFault? at faultless
    cases first : endpointFault? raw with
    | some message => simp [first] at faultless
    | none =>
      rw [first] at faultless
      exact List.forall_mem_cons.mpr ⟨first, ih faultless⟩

/-- What the validation of an output lets pass. -/
structure Output.Valid (o : Output) : Prop where
  database : o.database ≠ ""
  payload : o.payload ≤ maxPayload
  some_endpoint : o.endpoints ≠ []
  endpoints : ∀ raw ∈ o.endpoints, endpointFault? raw = none

theorem Output.valid_of_faultless {o : Output} (faultless : o.fault? = none) : o.Valid := by
  unfold Output.fault? at faultless
  by_cases database : o.database = ""
  · simp [database] at faultless
  · rw [if_neg database] at faultless
    by_cases payload : maxPayload < o.payload
    · simp [payload] at faultless
    · rw [if_neg payload] at faultless
      cases endpoints : o.endpoints with
      | nil => simp [endpoints] at faultless
      | cons raw rest =>
        rw [endpoints, if_neg (by simp)] at faultless
        refine ⟨database, Nat.le_of_not_lt payload, by simp [endpoints], ?_⟩
        rw [endpoints]
        exact endpointsFault?_eq_none faultless

/-- What is loaded is what is read and found without fault. -/
theorem Blueprint.load_eq_ok_iff {format : Format} {s : String} {b : Blueprint} :
    Blueprint.load format s = .ok b ↔
      Blueprint.read format s = .ok b ∧ b.output.fault? = none := by
  unfold Blueprint.load
  cases read : Blueprint.read format s with
  | error f =>
    constructor
    · rintro ⟨⟩
    · rintro ⟨⟨⟩, -⟩
  | ok found =>
    simp only [bind, Except.bind]
    cases faultless : found.output.fault? with
    | some f =>
      constructor
      · rintro ⟨⟩
      · rintro ⟨⟨⟩, none⟩
        rw [faultless] at none
        cases none
    | none =>
      constructor
      · rintro ⟨⟩
        exact ⟨rfl, faultless⟩
      · rintro ⟨⟨⟩, -⟩
        rfl

/-- A loaded configuration is read from the text and valid. -/
theorem Blueprint.of_load {format : Format} {s : String} {b : Blueprint}
    (loaded : Blueprint.load format s = .ok b) :
    Blueprint.read format s = .ok b ∧ b.output.Valid := by
  obtain ⟨read, faultless⟩ := Blueprint.load_eq_ok_iff.mp loaded
  exact ⟨read, Output.valid_of_faultless faultless⟩

theorem Output.effectivePayload_bounds {o : Output} (bounded : o.payload ≤ maxPayload) :
    1 ≤ o.effectivePayload ∧ o.effectivePayload ≤ maxPayload := by
  unfold Output.effectivePayload
  split
  · decide
  · omega

end Config

namespace Endpoint

/-- An endpoint resolved from a configured URL can be used: datagrams have an address and a payload
to go to it, requests have URLs and the configured credentials. -/
structure Ready (o : Config.Output) (raw : String) (e : Endpoint) : Prop where
  name : e.name = raw
  url : Url.read raw = .ok e.url
  datagram : ∀ payload, e.kind = .datagram payload →
    (1 ≤ payload ∧ payload ≤ Config.maxPayload) ∧
      ∃ host port, host ≠ "" ∧ e.socketAddress = some (host ++ ":" ++ toString (port : Nat))
  stream : ∀ credentials, e.kind = .stream credentials →
    credentials = ⟨o.username, o.password⟩ ∧
      ∀ resource : String, '/' ∉ resource.toList →
        (e.api resource).lastSegment = resource ∧ (e.api resource).hostText = e.url.hostText

/-- What validation finds no fault with is resolved. -/
theorem resolve_of_faultless {o : Config.Output} {raw : String}
    (bounded : o.payload ≤ Config.maxPayload) (faultless : Config.endpointFault? raw = none) :
    ∃ e, resolve o raw = .ok e ∧ e.Ready o raw := by
  obtain ⟨u, host, read, text, something, ports⟩ := Config.endpointFault?_eq_none faultless
  have located : u.authority ≠ none := by
    intro none
    simp [Url.hostText, Url.host, none] at text
  have opened : u.isOpaque = false := Url.isOpaque_of_located located
  by_cases datagram : Config.isDatagramScheme u.scheme = true
  · obtain ⟨port, there⟩ := ports datagram
    have found : resolve o raw =
        .ok ⟨raw, u, .datagram o.effectivePayload, o.userAgent, o.timeout⟩ := by
      simp [resolve, read, datagram, text, something, there]
    refine ⟨_, found, rfl, read, ?_, fun _ kind => nomatch kind⟩
    rintro payload kind
    obtain rfl := EndpointKind.datagram.inj kind
    refine ⟨Config.Output.effectivePayload_bounds bounded, host, port, something, ?_⟩
    simp [socketAddress, text, there]
  · have found : resolve o raw =
        .ok ⟨raw, u, .stream ⟨o.username, o.password⟩, o.userAgent, o.timeout⟩ := by
      simp [resolve, read, datagram, opened]
    refine ⟨_, found, rfl, read, fun _ kind => (nomatch kind), ?_⟩
    rintro credentials kind
    obtain rfl := EndpointKind.stream.inj kind
    refine ⟨rfl, fun resource single => ?_⟩
    have rooted := Url.rooted_of_read read located
    refine ⟨Url.lastSegment_resource rooted located single, ?_⟩
    simp [api, Url.resource, opened, Url.hostText, Url.host]

theorem resolveAll_of_valid {o : Config.Output} (valid : o.Valid) :
    ∃ endpoints, resolveAll o = .ok endpoints ∧
      List.Forall₂ (Ready o) o.endpoints endpoints := by
  have bounded := valid.payload
  have faultless := valid.endpoints
  unfold resolveAll
  generalize o.endpoints = raws at faultless
  induction raws with
  | nil => exact ⟨[], rfl, .nil⟩
  | cons raw rest ih =>
    obtain ⟨first, later⟩ := List.forall_mem_cons.mp faultless
    obtain ⟨e, resolved, ready⟩ := resolve_of_faultless bounded first
    obtain ⟨es, others, all⟩ := ih later
    refine ⟨e :: es, ?_, .cons ready all⟩
    rw [List.mapM_cons, resolved, others]
    rfl

end Endpoint

/-- Whatever is loaded can be resolved, endpoint by endpoint in order: outputs are made of it, and
its overview is shown. -/
theorem loaded_configuration_resolves {format : Config.Format} {s : String}
    {b : Config.Blueprint} (loaded : Config.Blueprint.load format s = .ok b) :
    ∃ endpoints, Endpoint.resolveAll b.output = .ok endpoints ∧
      List.Forall₂ (Endpoint.Ready b.output)
        (b.output.urls ++ (b.output.url.filter (· ≠ "")).toList) endpoints ∧
      (∀ (τ ω : Type) (net : ω) (orders : List (List Nat)),
        (Output.ofConfig b.output net orders : Except OutputError (Output (Resolver τ) τ ω)) =
          .ok (.new b.output.settings ⟨b.output.database, endpoints⟩ net orders)) ∧
      ∀ (surroundings : Command.Surroundings) (path : String),
        Command.loadConfig surroundings path = .ok b →
        Command.Overview.load surroundings path = .ok ⟨b, endpoints⟩ := by
  obtain ⟨-, valid⟩ := Config.Blueprint.of_load loaded
  obtain ⟨endpoints, resolved, ready⟩ := Endpoint.resolveAll_of_valid valid
  refine ⟨endpoints, resolved, ready, fun τ ω net orders => ?_, fun surroundings path found => ?_⟩
  · simp only [Output.ofConfig, Resolver.ofConfig, resolved, Except.map]
  · unfold Command.Overview.load
    rw [found]
    simp only [bind, Except.bind, resolved]
    rfl

/-- A configuration with an endpoint of either kind, one of them in the old place. -/
def mixedText : String := "[output]\nurls=['udp://h:1']\nurl='tcp://h'\ndatabase='d'"

def mixed : Config.Blueprint :=
  ⟨.v1, { Config.Output.new "d" with urls := ["udp://h:1"], url := some "tcp://h" }⟩

theorem mixed_configuration_resolves :
    Config.Blueprint.load .toml mixedText = .ok mixed ∧
      ∃ endpoints, Endpoint.resolveAll mixed.output = .ok endpoints ∧
        List.Forall₂ (Endpoint.Ready mixed.output) ["udp://h:1", "tcp://h"] endpoints := by
  have loaded : Config.Blueprint.load .toml mixedText = .ok mixed := by cbv
  obtain ⟨endpoints, resolved, ready, -⟩ := loaded_configuration_resolves loaded
  exact ⟨loaded, endpoints, resolved, ready⟩

end PointRelay
