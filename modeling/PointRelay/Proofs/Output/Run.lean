import PointRelay.Output.Call
import PointRelay.Proofs.Fleet.Closing
import PointRelay.Proofs.Output.Building

/-!
# Runs of an output

Connecting, writing and closing are done one after another. What each of them can do to an output is
said once, as a step; what holds in every run is proved step by step.
-/

namespace PointRelay

/-- What a caller can ask of an output. -/
inductive Action where
  | connect
  | write (records : List Record)
  | close

variable {φ τ ω : Type}

namespace Output

theorem conclude_snd (points : Nat) (v : Verdict) (o : Output φ τ ω) :
    ∃ n, (o.conclude points v).2 = o.note n := by
  cases v with
  | delivered endpoint attempts => exact ⟨_, rfl⟩
  | exhausted attempted poolSize => exact ⟨_, rfl⟩

theorem sound_new (settings : Settings) (factory : φ) (net : ω) (orders : List (List Nat)) :
    (new settings factory net orders : Output φ τ ω).Sound :=
  ⟨List.nodup_nil, by simp [new]⟩

/-- Note that members of a replaced pool could not be closed, if there are such. -/
def noteReplaced (failures : List ConnectionError) (o : Output φ τ ω) : Output φ τ ω :=
  match failures with
  | [] => o
  | failures => o.note (.replacedNotClosed (.close failures))

theorem noteReplaced_eq (failures : List ConnectionError) (o : Output φ τ ω) :
    ∃ journal, o.noteReplaced failures =
      { o with fleet := ⟨o.fleet.members, o.fleet.net, journal⟩ } := by
  cases failures with
  | nil => exact ⟨o.fleet.journal, rfl⟩
  | cons e rest => exact ⟨_, rfl⟩

variable [Transport τ ω]

/-- A dispatch tries the members of the pool in some order and leaves all but the fleet and the
orders to come. -/
theorem tried_dispatch {o : Output φ τ ω} (sound : o.Sound) (b : Batch) :
    ∃ places g orders, places.Perm o.pool ∧
      Fleet.Tried o.settings.database b o.pool.length 0 places o.fleet (o.dispatch b).1 g ∧
      (o.dispatch b).2 = { o with fleet := g, orders } := by
  unfold dispatch
  by_cases empty : o.pool = []
  · rw [if_pos empty]
    refine ⟨[], o.fleet, o.orders, by rw [empty], ?_, rfl⟩
    rw [empty]
    exact .exhausted (.nil o.fleet)
  · rw [if_neg empty]
    obtain ⟨places, perm, tried⟩ := Fleet.tried_dispatch o.settings.database b o.fleet
      (Order.perm_draw o.pool.length o.orders) sound.within
    exact ⟨places, _, _, perm, tried, rfl⟩

variable [Factory φ τ ω]

/-- Do what a caller asks for, and answer. -/
def perform (a : Action) (o : Output φ τ ω) : Answer × Output φ τ ω :=
  match a with
  | .connect => (.connected o.connect.1, o.connect.2)
  | .write records => (.written (o.write records).1, (o.write records).2)
  | .close => (.closed o.close.1, o.close.2)

/-- Do what callers ask for, one after another. -/
def run : List Action → Output φ τ ω → List Answer × Output φ τ ω
  | [], o => ([], o)
  | a :: rest, o =>
    ((o.perform a).1 :: (run rest (o.perform a).2).1, (run rest (o.perform a).2).2)

/-- The members that an action has built. -/
def intake (a : Action) (o : Output φ τ ω) : List (Member τ) :=
  match a with
  | .connect => o.handout
  | .write records => o.rebuilt records
  | .close => []

/-- The members that the actions of a run have built, in order. -/
def intakes : List Action → Output φ τ ω → List (Member τ)
  | [], _ => []
  | a :: rest, o => o.intake a ++ intakes rest (o.perform a).2

/-- What an action can do to a sound output. -/
inductive Step (o : Output φ τ ω) : Action → Answer → Output φ τ ω → Prop where
  | refused {e : OutputError} (failed : o.build.1 = .error e) :
      Step o .connect (.connected (.error e)) o.build.2
  | connected {pool : List Nat} {answers : List (Except ConnectionError Unit)} {g : Fleet τ ω}
      (built : o.build.1 = .ok pool)
      (asked : Fleet.Asked o.pool (o.build.2.fleet.note (.poolSize pool.length)) answers g) :
      Step o .connect (.connected (.ok ()))
        ({ o.build.2 with fleet := g, pool, closed := false }.noteReplaced
          (answers.filterMap failure?))
  | unencoded {records : List Record} {refusal : Refusal}
      (refused : Batch.encode o.settings records = .error refusal) :
      Step o (.write records) (.written (.error (.encoding refusal))) o
  | nothing : Step o (.write []) (.written (.ok ⟨none, 0, 0⟩)) o
  | written {records : List Record} {b : Batch} {places : List Nat} {v : Verdict}
      {g : Fleet τ ω} {orders : List (List Nat)}
      (encoded : Batch.encode o.settings records = .ok b) (something : records ≠ [])
      (order : places.Perm (o.readied b).pool)
      (tried : Fleet.Tried o.settings.database b (o.readied b).pool.length 0 places
        (o.readied b).fleet v g) :
      Step o (.write records)
        (.written ({ o.readied b with fleet := g, orders }.conclude b.size v).1)
        ({ o.readied b with fleet := g, orders }.conclude b.size v).2
  | closed {answers : List (Except ConnectionError Unit)} {g : Fleet τ ω}
      (asked : Fleet.Asked o.pool (o.fleet.note (.poolSize 0)) answers g) :
      Step o .close (.closed (closing (answers.filterMap failure?)))
        { o with fleet := g, pool := [], closed := true }

theorem connect_of_error {o : Output φ τ ω} {e : OutputError} (failed : o.build.1 = .error e) :
    o.connect = (.error e, o.build.2) := by
  unfold connect
  generalize o.build = result at failed ⊢
  obtain ⟨answer, p⟩ := result
  simp only at failed
  rw [failed]

theorem connect_of_ok {o : Output φ τ ω} {pool : List Nat} (built : o.build.1 = .ok pool) :
    o.connect = (.ok (),
      { o.build.2 with
        fleet := ((o.build.2.fleet.note (.poolSize pool.length)).closeAll o.pool).2
        pool, closed := false }.noteReplaced
          ((o.build.2.fleet.note (.poolSize pool.length)).closeAll o.pool).1) := by
  rw [show o.pool = o.build.2.pool by rw [build_eq]]
  unfold connect
  generalize o.build = result at built ⊢
  obtain ⟨answer, p⟩ := result
  simp only at built
  rw [built]
  simp only
  cases ((p.fleet.note (.poolSize pool.length)).closeAll p.pool).1 <;> rfl

/-- A connect succeeds just when its build does. -/
theorem connect_answer (o : Output φ τ ω) :
    o.connect.1 = (Factory.build o.factory o.fleet.net).answer.map fun _ => () := by
  have built : o.build.1 =
      (Factory.build o.factory o.fleet.net).answer.map fun _ => o.newPlaces := by
    rw [build_eq]
  cases answer : (Factory.build o.factory o.fleet.net).answer with
  | error e =>
    rw [answer] at built
    rw [connect_of_error built]
    rfl
  | ok ms =>
    rw [answer] at built
    rw [connect_of_ok built]
    rfl

theorem step_connect {o : Output φ τ ω} (sound : o.Sound) :
    Step o .connect (o.perform .connect).1 (o.perform .connect).2 := by
  simp only [perform]
  cases built : o.build.1 with
  | error e =>
    rw [connect_of_error built]
    exact .refused built
  | ok pool =>
    have within : ∀ i ∈ o.pool,
        i < (o.build.2.fleet.note (.poolSize pool.length)).members.length := by
      intro i mem
      have := sound.within i mem
      simp only [build_eq, Fleet.note, List.length_append]
      omega
    obtain ⟨answers, asked, failures⟩ := Fleet.asked_closeAll o.pool _ within
    rw [connect_of_ok built, failures]
    exact .connected built asked

theorem step_close {o : Output φ τ ω} (sound : o.Sound) :
    Step o .close (o.perform .close).1 (o.perform .close).2 := by
  obtain ⟨answers, asked, failures⟩ :=
    Fleet.asked_closeAll o.pool (o.fleet.note (.poolSize 0)) sound.within
  simp only [perform, close, failures]
  exact .closed asked

theorem write_of_encoded {o : Output φ τ ω} {records : List Record} {b : Batch}
    (encoded : Batch.encode o.settings records = .ok b) (something : b.isEmpty = false) :
    o.write records =
      ((o.readied b).dispatch b).2.conclude b.size ((o.readied b).dispatch b).1 := by
  simp [write, encoded, something, Output.readied]

theorem step_write {o : Output φ τ ω} (sound : o.Sound) (records : List Record) :
    Step o (.write records) (o.perform (.write records)).1 (o.perform (.write records)).2 := by
  simp only [perform]
  cases encoded : Batch.encode o.settings records with
  | error refusal =>
    have write : o.write records = (.error (.encoding refusal), o) := by
      simp [Output.write, encoded]
    rw [write]
    exact .unencoded encoded
  | ok b =>
    obtain ⟨rfl, -⟩ := Batch.encode_ok encoded
    cases records with
    | nil => exact .nothing
    | cons r rest =>
      rw [write_of_encoded encoded rfl]
      obtain ⟨places, g, orders, order, tried, left⟩ := tried_dispatch (sound.readied _) _
      rw [left]
      rw [settings_readied] at tried
      exact .written encoded (List.cons_ne_nil r rest) order tried

theorem step_perform {o : Output φ τ ω} (sound : o.Sound) (a : Action) :
    Step o a (o.perform a).1 (o.perform a).2 := by
  cases a with
  | connect => exact step_connect sound
  | write records => exact step_write sound records
  | close => exact step_close sound

theorem Sound.step {o p : Output φ τ ω} {a : Action} {answer : Answer} (sound : o.Sound)
    (step : Step o a answer p) : p.Sound := by
  cases step with
  | refused failed =>
    rw [build_eq]
    refine ⟨sound.distinct, fun i mem => ?_⟩
    have := sound.within i mem
    simp only [List.length_append]
    omega
  | @connected pool answers g built asked =>
    obtain ⟨journal, same⟩ := noteReplaced_eq (answers.filterMap failure?)
      { o.build.2 with fleet := g, pool, closed := false }
    obtain rfl := newPlaces_of_build built
    rw [same]
    refine ⟨o.nodup_newPlaces, fun i mem => ?_⟩
    have taken := asked.length_eq
    rw [build_eq] at taken
    simp only [Fleet.note, List.length_append] at taken
    exact taken ▸ (mem_newPlaces.mp mem).2
  | unencoded refused => exact sound
  | nothing => exact sound
  | @written records b places v g orders encoded something order tried =>
    obtain ⟨n, same⟩ := conclude_snd b.size v { o.readied b with fleet := g, orders }
    rw [same]
    have ready := sound.readied b
    exact ⟨ready.distinct, fun i mem => tried.length_eq ▸ ready.within i mem⟩
  | closed asked => exact ⟨List.nodup_nil, by simp⟩

theorem sound_run (actions : List Action) {o : Output φ τ ω} (sound : o.Sound) :
    (run actions o).2.Sound := by
  induction actions generalizing o with
  | nil => exact sound
  | cons a rest ih => exact ih (sound.step (step_perform sound a))

/-- What neither attempts nor closing change of a member, no action changes of any. -/
theorem Step.view_eq {α : Type} (view : Member τ → α)
    (attempted : ∀ {database : String} {b : Batch} {s t : Focus τ ω} {answer},
      s.attempt database b = (answer, t) → view t.member = view s.member)
    (asked : ∀ s : Focus τ ω, view s.close.2.member = view s.member)
    {o p : Output φ τ ω} {a : Action} {answer : Answer} (step : Step o a answer p) :
    p.fleet.members.map view = (o.fleet.members ++ o.intake a).map view := by
  refine List.ext_getElem? fun j => ?_
  simp only [List.getElem?_map]
  cases step with
  | refused failed => rw [build_eq]; rfl
  | @connected pool answers g built closed =>
    obtain ⟨journal, same⟩ := noteReplaced_eq (answers.filterMap failure?)
      { o.build.2 with fleet := g, pool, closed := false }
    have kept := closed.view_eq view asked j
    rw [build_eq] at kept
    rw [same]
    exact kept
  | unencoded refused =>
    rw [intake, rebuilt, if_neg (not_rebuilds_of_refusal refused), List.append_nil]
  | nothing => simp [intake, rebuilt, Rebuilds]
  | @written records b places v g orders encoded something order tried =>
    obtain ⟨n, same⟩ := conclude_snd b.size v { o.readied b with fleet := g, orders }
    rw [same, intake, ← members_readied encoded something]
    exact tried.view_eq view attempted j
  | closed closed =>
    rw [intake, List.append_nil]
    exact closed.view_eq view asked j

/-- What neither attempts nor closing change of a member is in every run as it was built. -/
theorem view_run {α : Type} (view : Member τ → α)
    (attempted : ∀ {database : String} {b : Batch} {s t : Focus τ ω} {answer},
      s.attempt database b = (answer, t) → view t.member = view s.member)
    (asked : ∀ s : Focus τ ω, view s.close.2.member = view s.member) (actions : List Action)
    {o : Output φ τ ω} (sound : o.Sound) :
    (run actions o).2.fleet.members.map view = (o.fleet.members ++ intakes actions o).map view := by
  induction actions generalizing o with
  | nil => rw [intakes, List.append_nil]; rfl
  | cons a rest ih =>
    have step := step_perform sound a
    have now := step.view_eq view attempted asked
    simp only [List.map_append] at now ih ⊢
    rw [run, ih (sound.step step), now, intakes, List.map_append, List.append_assoc]

/-- A fleet is made of the connections that were built, in order. -/
theorem endpoints_run (actions : List Action) {o : Output φ τ ω} (sound : o.Sound) :
    (run actions o).2.fleet.members.map Member.endpoint =
      (o.fleet.members ++ intakes actions o).map Member.endpoint :=
  view_run Member.endpoint Focus.attempt_endpoint (fun _ => rfl) actions sound

end Output

end PointRelay
