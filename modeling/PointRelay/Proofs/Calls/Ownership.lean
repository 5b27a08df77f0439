import PointRelay.Proofs.Calls.Steps
import PointRelay.Proofs.Fleet.Ownership

/-!
# Ownership under interleaving

However calls are interleaved, a connection that was handed out is in one place until it is closed:
in the pool that its connect has built, in the pool of the output, or among those that one call has
still to close. Outside of these it is closed, and was closed once.
-/

namespace PointRelay

variable {φ τ ω : Type}

namespace Fleet

variable [CountsCloses τ ω]

/-- The members of a fleet are those that were handed out. The ones at some places were not closed
since, all others once. -/
structure Accounted (handedOut : List (Member τ)) (places : List Nat) (members : List (Member τ)) :
    Prop where
  endpoints : members.map Member.endpoint = handedOut.map Member.endpoint
  distinct : places.Nodup
  within : ∀ i ∈ places, i < members.length
  closes : ∀ i m old, members[i]? = some m → handedOut[i]? = some old →
    m.closes = old.closes + if i ∈ places then 0 else 1

namespace Accounted

variable {handedOut members : List (Member τ)} {places others : List Nat}

theorem length_eq (accounted : Accounted handedOut places members) :
    members.length = handedOut.length := by
  have same := congrArg List.length accounted.endpoints
  rwa [List.length_map, List.length_map] at same

theorem perm (accounted : Accounted handedOut places members) (order : places.Perm others) :
    Accounted handedOut others members := by
  obtain ⟨endpoints, distinct, within, closes⟩ := accounted
  refine ⟨endpoints, order.nodup_iff.mp distinct, fun i mem => within i (order.mem_iff.mpr mem), ?_⟩
  intro i m old found before
  rw [closes i m old found before]
  simp only [order.mem_iff]

/-- New members are kept at new places. -/
theorem take (accounted : Accounted handedOut places members) (fresh : List (Member τ)) :
    Accounted (handedOut ++ fresh) (places ++ List.range' members.length fresh.length)
      (members ++ fresh) := by
  have whole := accounted.length_eq
  obtain ⟨endpoints, distinct, within, closes⟩ := accounted
  refine ⟨?_, ?_, ?_, ?_⟩
  · rw [List.map_append, endpoints, List.map_append]
  · refine List.nodup_append.mpr ⟨distinct, List.nodup_range', ?_⟩
    rintro i old _ new rfl
    have := within i old
    have := (List.mem_range'_1.mp new).1
    omega
  · intro i mem
    rw [List.length_append]
    rcases List.mem_append.mp mem with old | new
    · exact Nat.lt_add_right _ (within i old)
    · exact (List.mem_range'_1.mp new).2
  · intro i m old found before
    by_cases there : i < members.length
    · rw [List.getElem?_append_left there] at found
      rw [List.getElem?_append_left (whole ▸ there)] at before
      have old : i ∈ places ++ List.range' members.length fresh.length ↔ i ∈ places := by
        rw [List.mem_append, List.mem_range'_1]
        exact or_iff_left (by omega)
      rw [closes i m _ found before]
      simp only [old]
    · rw [List.getElem?_append_right (by omega)] at found
      rw [List.getElem?_append_right (by omega), ← whole] at before
      obtain rfl := Option.some.inj (found.symm.trans before)
      have upper : i - members.length < fresh.length := (List.getElem?_eq_some_iff.mp found).1
      have new : i ∈ places ++ List.range' members.length fresh.length :=
        List.mem_append_right _ (List.mem_range'_1.mpr (by omega))
      rw [if_pos new, Nat.add_zero]

/-- A member that is closed is kept no longer. -/
theorem close {f : Fleet τ ω} {i : Nat} {s : Focus τ ω}
    (accounted : Accounted handedOut (i :: places) f.members) (there : f.focus? i = some s) :
    Accounted handedOut places (f.put i s.close.2).members := by
  obtain ⟨endpoints, distinct, within, closes⟩ := accounted
  obtain ⟨gone, distinct⟩ := List.nodup_cons.mp distinct
  have found := (focus?_eq_some.mp there).1
  refine ⟨?_, distinct, ?_, ?_⟩
  · rw [← endpoints]
    refine List.ext_getElem? fun j => ?_
    have same : s.close.2.member.endpoint = s.member.endpoint := rfl
    rw [List.getElem?_map, List.getElem?_map]
    exact view_put there same j
  · intro j mem
    rw [length_put]
    exact within j (List.mem_cons_of_mem i mem)
  · intro j m old found' before
    by_cases same : j = i
    · subst same
      rw [members_put_self (within j List.mem_cons_self)] at found'
      obtain rfl := Option.some.inj found'
      rw [closes_close, closes j s.member old found before, if_pos List.mem_cons_self, if_neg gone]
    · rw [members_put_other _ _ same] at found'
      rw [closes j m old found' before]
      simp [same]

/-- Keeping is a matter of endpoints and counts alone. -/
theorem of_view_eq {after : List (Member τ)} (accounted : Accounted handedOut places members)
    (same : ∀ j : Nat, after[j]?.map (fun m => (m.endpoint, m.closes)) =
      members[j]?.map fun m => (m.endpoint, m.closes)) : Accounted handedOut places after := by
  obtain ⟨endpoints, distinct, within, closes⟩ := accounted
  have views : after.map (fun m => (m.endpoint, m.closes)) =
      members.map fun m => (m.endpoint, m.closes) := by
    refine List.ext_getElem? fun j => ?_
    rw [List.getElem?_map, List.getElem?_map]
    exact same j
  have whole : after.length = members.length := by
    have lengths := congrArg List.length views
    rwa [List.length_map, List.length_map] at lengths
  refine ⟨?_, distinct, fun i mem => whole ▸ within i mem, ?_⟩
  · have firsts := congrArg (List.map Prod.fst) views
    rw [List.map_map, List.map_map] at firsts
    exact firsts.trans endpoints
  · intro i m old found before
    have view := same i
    rw [found] at view
    obtain ⟨m', found', view⟩ := Option.map_eq_some_iff.mp view.symm
    rw [← closes i m' old found' before]
    exact (Prod.mk.inj view).2.symm

end Accounted

end Fleet

namespace Calls

/-- All places where connections are kept: the pool of the output, pools that are built and not yet
taken in, and what calls have still to close. -/
def held (s : Calls φ τ ω) : List Nat := s.output.pool ++ s.calls.flatMap Call.held

variable [Factory φ τ ω]

/-- A step of a call changes what the pool and the call keep, and nothing that others keep. -/
theorem held_step [Transport τ ω] {k : Nat} {s : Calls φ τ ω} {c : Call}
    (found : s.calls[k]? = some c) :
    ∃ others, s.held.Perm (s.output.pool ++ c.held ++ others) ∧
      (s.step k).held.Perm
        ((c.step s.output).2.pool ++ (c.step s.output).1.held ++ others) := by
  obtain ⟨others, before, after⟩ :=
    Fleet.perm_flatMap_set Call.held found (c.step s.output).1
  refine ⟨others, ?_, ?_⟩
  · rw [List.append_assoc]
    exact before.append_left _
  · rw [List.append_assoc, step_of_some found]
    exact after.append_left _

variable [CountsCloses τ ω]

/-- The connections that were handed out are kept in one place each, or were closed once since. -/
def Owned (handedOut : List (Member τ)) (s : Calls φ τ ω) : Prop :=
  Fleet.Accounted handedOut s.held s.output.fleet.members

theorem Owned.step {handedOut : List (Member τ)} {s : Calls φ τ ω} (owned : s.Owned handedOut)
    (sound : s.Sound) (k : Nat) : (s.step k).Owned (handedOut ++ s.intake k) := by
  cases found : s.calls[k]? with
  | none =>
    rw [step_of_none found, intake_of_none found, List.append_nil]
    exact owned
  | some c =>
    obtain ⟨others, before, after⟩ := held_step found
    have mine : Fleet.Accounted handedOut (s.output.pool ++ c.held ++ others)
        s.output.fleet.members := Fleet.Accounted.perm owned before
    have left : (s.step k).output.fleet.members = (c.step s.output).2.fleet.members := by
      rw [step_of_some found]
    unfold Owned
    rw [intake_of_some found, left]
    refine Fleet.Accounted.perm ?_ after.symm
    cases (sound.step_call found).effect with
    | takes members share idle =>
      rw [members]
      refine (mine.take (c.intake s.output)).perm ?_
      have regroup : (s.output.pool ++ c.held ++ others ++ c.newPlaces s.output).Perm
          (s.output.pool ++ c.held ++ c.newPlaces s.output ++ others) := by
        rw [List.append_assoc _ others, List.append_assoc _ (c.newPlaces s.output)]
        exact List.perm_append_comm.append_left _
      exact regroup.trans (share.symm.append_right others)
    | @closes i t none there members share idle =>
      rw [none, List.append_nil, members]
      exact (mine.perm (share.append_right others)).close there
    | goes_on call next step members pool | concludes call next step members pool =>
      have same := step.view_eq (fun e t => (e, CountsCloses.closes t))
        (fun b e t net => by rw [CountsCloses.closes_write])
        (fun database e t net => by rw [CountsCloses.closes_create])
      have none : c.intake s.output = [] := by
        rw [call]
        rfl
      have empty : c.held = [] := by
        rw [call]
        rfl
      rw [empty] at mine
      rw [none, List.append_nil, members, next, pool]
      exact mine.of_view_eq same

theorem Owned.run {handedOut : List (Member τ)} {s : Calls φ τ ω} (owned : s.Owned handedOut)
    (sound : s.Sound) (choices : List Nat) :
    (s.run choices).Owned (handedOut ++ s.intakes choices) := by
  induction choices generalizing s handedOut with
  | nil =>
    rw [intakes, List.append_nil]
    exact owned
  | cons k rest ih =>
    have later := ih (owned.step sound k) (sound.step k)
    rw [List.append_assoc] at later
    exact later

end Calls

/-- An output that was closed keeps no connection. -/
def Output.Emptied (o : Output φ τ ω) : Prop := o.closed = true → o.pool = []

namespace Call

variable [Transport τ ω] [Factory φ τ ω]

theorem Step.emptied {o p : Output φ τ ω} {c c' : Call} (step : Step o c c' p)
    (emptied : o.Emptied) : p.Emptied := by
  have prepared : o.prepare.Emptied := by
    rcases o.prepare_cases with ⟨-, opened, journal, same⟩ | ⟨-, same⟩
    · rw [same]
      intro closed
      exact absurd (opened.symm.trans closed) Bool.false_ne_true
    · rw [same]
      exact emptied
  cases step with
  | refused | built =>
    rw [Output.build_eq]
    exact emptied
  | installed pool => exact nofun
  | connected failures =>
    obtain ⟨journal, same⟩ := Output.noteReplaced_eq failures o
    rw [same]
    exact emptied
  | replaced | unencoded | nothing | waits | begun | dispatched | released | closed | stays =>
    exact emptied
  | exhausted | prepared => exact prepared
  | concluded step =>
    obtain ⟨n, same⟩ := Output.conclude_snd _ _ _
    rw [same]
    exact emptied
  | shut => exact fun _ => rfl

end Call

theorem Calls.emptied_run [Transport τ ω] [Factory φ τ ω] {s : Calls φ τ ω} (sound : s.Sound)
    (emptied : s.output.Emptied) (choices : List Nat) : (s.run choices).output.Emptied := by
  refine sound.keeps (R := fun s => s.output.Emptied) ?_ emptied choices
  intro s k c sound found emptied
  rw [step_of_some found]
  exact (sound.step_call found).emptied emptied

end PointRelay
