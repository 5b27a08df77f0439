import PointRelay.Config.Reader
import PointRelay.Config.Writer
import PointRelay.Proofs.Time.Words

/-!
# Settings in their slots

Members of a group go into the slots of their names. When each name is known and there once, a slot
holds what is found under its name, wherever it stands in the group. The settings of an output are
written under the names of its slots, so that each is found in its own, and one that was left out
leaves its slot to the default.
-/

namespace PointRelay.Json

variable {α : Type}

theorem position?_of_mem {name : String} {names : List String} (mem : name ∈ names) :
    ∃ i, position? name names = some i ∧ names[i]? = some name := by
  induction names with
  | nil => exact absurd mem List.not_mem_nil
  | cons n names ih =>
    by_cases same : n = name
    · subst same
      exact ⟨0, by rw [position?, if_pos rfl], rfl⟩
    · have later : name ∈ names := by
        rcases List.mem_cons.mp mem with rfl | later
        · exact absurd rfl same
        · exact later
      obtain ⟨i, found, there⟩ := ih later
      refine ⟨i + 1, ?_, there⟩
      rw [position?, if_neg same, found]
      rfl

/-- A slot of distinct names is set by changing what stands under its name. -/
theorem set_map_of_nodup {names : List String} (distinct : names.Nodup) {i : Nat} {name : String}
    (there : names[i]? = some name) (slots : String → Option α) (v : Option α) :
    (names.map slots).set i v = names.map fun n => if n = name then v else slots n := by
  induction names generalizing i with
  | nil => rfl
  | cons n names ih =>
    obtain ⟨new, distinct⟩ := List.nodup_cons.mp distinct
    cases i with
    | zero =>
      obtain rfl := Option.some.inj there
      have others : ∀ k ∈ names, slots k = if k = n then v else slots k := by
        intro k mem
        have other : k ≠ n := fun same => new (same ▸ mem)
        rw [if_neg other]
      rw [List.map_cons, List.set_cons_zero, List.map_cons, if_pos rfl, List.map_congr_left others]
    | succ i =>
      have other : n ≠ name := by
        rintro rfl
        exact new (List.mem_of_getElem? there)
      rw [List.map_cons, List.set_cons_succ, ih distinct there, List.map_cons, if_neg other]

theorem lookup_eq_none {members : List (String × α)} {name : String}
    (absent : name ∉ members.map Prod.fst) : members.lookup name = none := by
  rw [List.lookup_eq_none_iff]
  intro m mem
  apply bne_iff_ne.mpr
  rintro rfl
  exact absent (List.mem_map_of_mem mem)

/-- The induction runs over the members; the slots of those that are left are still empty. -/
theorem fill?_distinct {names : List String} (distinct : names.Nodup)
    {members : List (String × α)} (known : ∀ m ∈ members, m.1 ∈ names)
    (once : (members.map Prod.fst).Nodup) (slots : String → Option α)
    (free : ∀ m ∈ members, slots m.1 = none) :
    fill? names (names.map slots) (members.map fun m => (some m.1, m.2)) =
      some (names.map fun n => (members.lookup n).or (slots n)) := by
  induction members generalizing slots with
  | nil => simp [fill?]
  | cons m members ih =>
    obtain ⟨new, once⟩ := List.nodup_cons.mp once
    obtain ⟨i, found, there⟩ := position?_of_mem (known m List.mem_cons_self)
    have empty : (names.map slots)[i]? = some none := by
      rw [List.getElem?_map, there, Option.map_some, free m List.mem_cons_self]
    have later := ih (fun k mem => known k (List.mem_cons_of_mem m mem)) once
      (fun n => if n = m.1 then some m.2 else slots n) (by
        intro k mem
        have other : k.1 ≠ m.1 := fun same => new (same ▸ List.mem_map_of_mem mem)
        rw [if_neg other]
        exact free k (List.mem_cons_of_mem m mem))
    rw [List.map_cons, fill?, found]
    simp only [empty, set_map_of_nodup distinct there, later]
    congr 1
    apply List.map_congr_left
    intro n _
    by_cases same : n = m.1
    · subst same
      rw [if_pos rfl, lookup_eq_none new, List.lookup_cons_self]
      rfl
    · have different : (n == m.1) = false := beq_eq_false_iff_ne.mpr same
      rw [if_neg same, List.lookup_cons, different]

/-- Each slot holds what is found under its name. -/
theorem byName?_distinct {names : List String} (distinct : names.Nodup)
    {members : List (String × α)} (known : ∀ m ∈ members, m.1 ∈ names)
    (once : (members.map Prod.fst).Nodup) :
    byName? names (members.map fun m => (some m.1, m.2)) =
      some (names.map fun n => members.lookup n) := by
  rw [byName?, fill?_distinct distinct known once (fun _ => none) fun _ _ => rfl]
  simp

end PointRelay.Json

namespace PointRelay.Config

open Time

/-! ## The settings of an output -/

/-- The settings that are there, with their values as texts, lists of texts and numbers. -/
def Output.members {α : Type} (text : String → α) (texts : List String → α) (number : Nat → α)
    (o : Output) : List (String × α) :=
  [("urls", texts o.urls)] ++ optional "url" text o.url ++ optional "username" text o.username ++
    optional "password" text o.password ++
    [("database", text o.database), ("user_agent", text o.userAgent),
      ("retention_policy", text o.retentionPolicy),
      ("write_consistency", text o.writeConsistency), ("timeout", text o.timeout.words),
      ("udp_payload", number o.payload)] ++ optional "precision" text o.precision

variable {α : Type} {text : String → α} {texts : List String → α} {number : Nat → α}

theorem keys_optional (key : String) (f : String → α) (v : Option String) :
    ((optional key f v).map Prod.fst).Sublist [key] := by
  cases v with
  | none => exact List.nil_sublist _
  | some s => exact List.Sublist.refl _

/-- The settings are in the order of the fields. -/
theorem Output.keys_members (o : Output) :
    ((o.members text texts number).map Prod.fst).Sublist outputFields := by
  have fields : outputFields = ["urls"] ++ ["url"] ++ ["username"] ++ ["password"] ++
      ["database", "user_agent", "retention_policy", "write_consistency", "timeout",
        "udp_payload"] ++ ["precision"] := rfl
  rw [fields]
  simp only [members, List.map_append]
  apply List.Sublist.append _ (keys_optional _ _ _)
  apply List.Sublist.append _ (List.Sublist.refl _)
  apply List.Sublist.append _ (keys_optional _ _ _)
  apply List.Sublist.append _ (keys_optional _ _ _)
  exact List.Sublist.append (List.Sublist.refl _) (keys_optional _ _ _)

theorem outputFields_distinct : outputFields.Nodup := by decide

theorem Output.known_members (o : Output) :
    ∀ m ∈ o.members text texts number, m.1 ∈ outputFields := by
  intro m mem
  exact o.keys_members.subset (List.mem_map_of_mem mem)

theorem Output.distinct_members (o : Output) :
    ((o.members text texts number).map Prod.fst).Nodup :=
  outputFields_distinct.sublist o.keys_members

theorem lookup_optional (name key : String) (f : String → α) (v : Option String) :
    (optional key f v).lookup name = if name = key then v.map f else none := by
  cases v with
  | none => simp [optional]
  | some s =>
    by_cases same : name = key
    · simp [optional, same]
    · have different : (name == key) = false := beq_eq_false_iff_ne.mpr same
      simp [optional, List.lookup_cons, different, same]

/-- What is found under the names of the fields. -/
theorem Output.lookup_members (o : Output) :
    (outputFields.map fun n => (o.members text texts number).lookup n) =
      [some (texts o.urls), o.url.map text, o.username.map text, o.password.map text,
        some (text o.database), some (text o.userAgent), some (text o.retentionPolicy),
        some (text o.writeConsistency), some (text o.timeout.words), some (number o.payload),
        o.precision.map text] := by
  simp [outputFields, members, List.lookup_append, lookup_optional, List.lookup_cons]

theorem Output.toToml_eq (o : Output) :
    o.toToml = o.members .string (fun urls => .array (urls.map .string)) fun n => .integer n := rfl

theorem Output.toJson_eq (o : Output) :
    o.toJson = o.members .str (fun urls => .array (urls.map .str)) .nat := rfl

theorem map_optional {β : Type} {f : α → β} {text' : String → β} (same : ∀ s, f (text s) = text' s)
    (key : String) (v : Option String) :
    (optional key text v).map (fun m => (m.1, f m.2)) = optional key text' v := by
  cases v with
  | none => rfl
  | some s => simp [optional, same]

/-- Changing the values changes how texts, lists of texts and numbers are written. -/
theorem Output.map_members {β : Type} {f : α → β} {text' : String → β} {texts' : List String → β}
    {number' : Nat → β} {o : Output} (same_text : ∀ s, f (text s) = text' s)
    (same_texts : ∀ l, f (texts l) = texts' l)
    (same_number : f (number o.payload) = number' o.payload) :
    (o.members text texts number).map (fun m => (m.1, f m.2)) =
      o.members text' texts' number' := by
  simp [members, map_optional same_text, same_text, same_texts, same_number]

/-- What holds of texts, lists of texts and the number holds of all values. -/
theorem Output.forall_members {holds : α → Prop} {o : Output} (of_text : ∀ s, holds (text s))
    (of_texts : ∀ l, holds (texts l)) (of_number : holds (number o.payload)) :
    ∀ m ∈ o.members text texts number, holds m.2 := by
  have of_optional : ∀ key v, ∀ m ∈ optional key text v, holds m.2 := by
    intro key v m mem
    cases v with
    | none => exact absurd mem List.not_mem_nil
    | some s =>
      rw [List.mem_singleton.mp mem]
      exact of_text s
  intro m mem
  simp only [members, List.mem_append, List.mem_cons, List.not_mem_nil, or_false] at mem
  rcases mem with ((((rfl | mem) | mem) | mem) | rfl | rfl | rfl | rfl | rfl | rfl) | mem
  · exact of_texts o.urls
  · exact of_optional _ _ m mem
  · exact of_optional _ _ m mem
  · exact of_optional _ _ m mem
  · exact of_text _
  · exact of_text _
  · exact of_text _
  · exact of_text _
  · exact of_text _
  · exact of_number
  · exact of_optional _ _ m mem

/-! ## Reading them -/

/-- The settings as values of any format. -/
def Output.tree (o : Output) : Tree :=
  .group ((o.members .text (fun l => .list (l.map .text)) fun n => .whole n).map fun m =>
    (some m.1, m.2))

theorem texts?_texts (l : List String) : Tree.texts? (.list (l.map .text)) = some l := by
  have each : (l.map Tree.text).mapM Tree.text? = some l := by
    induction l with
    | nil => rfl
    | cons s l ih =>
      rw [List.map_cons, List.mapM_cons, ih]
      rfl
  exact each

theorem slotOr_some {β : Type} (t : Tree) (default : β) (f : Tree → Option β) :
    slotOr (some t) default f = f t := rfl

theorem slotOr_optional (v : Option String) :
    slotOr (v.map .text) none Tree.optionalText? = some v := by
  cases v with
  | none => rfl
  | some s => rfl

theorem size?_whole {n : Nat} (small : n < 0x10000000000000000) :
    Tree.size? (.whole n) = some n := by
  have range : 0 ≤ (n : Int) ∧ (n : Int) < 0x10000000000000000 := by omega
  rw [Tree.size?, if_pos range, Int.toNat_natCast]

/-- The settings of an output are read as that output. -/
theorem Output.ofTree?_tree {o : Output} (fits : o.timeout.Fits)
    (small : o.payload < 0x10000000000000000) (format : Format) :
    Output.ofTree? format o.tree = some o := by
  have slots : o.tree.slots? format outputFields = some
      [some (.list (o.urls.map .text)), o.url.map .text, o.username.map .text,
        o.password.map .text, some (.text o.database), some (.text o.userAgent),
        some (.text o.retentionPolicy), some (.text o.writeConsistency),
        some (.text o.timeout.words), some (.whole o.payload), o.precision.map .text] :=
    (Json.byName?_distinct outputFields_distinct o.known_members o.distinct_members).trans
      (congrArg some o.lookup_members)
  have timeout : Span.read? o.timeout.words = some o.timeout := Span.read?_words fits
  have urls : slotOr (some (.list (o.urls.map .text))) [] Tree.texts? = some o.urls :=
    texts?_texts o.urls
  have written : slotOr (some (.text o.timeout.words)) defaultTimeout
      (fun t => do Span.read? (← t.text?)) = some o.timeout := timeout
  have payload : slotOr (some (.whole o.payload)) 0 Tree.size? = some o.payload :=
    (slotOr_some _ _ _).trans (size?_whole small)
  apply Option.bind_eq_some_iff.mpr ⟨_, slots, _⟩
  simp only [slotOr_optional]
  -- the number first: its bound must not be unfolded
  rw [payload, urls, written]
  rfl

end PointRelay.Config
