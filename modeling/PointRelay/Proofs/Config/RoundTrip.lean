import PointRelay.Proofs.Config.Endpoints
import PointRelay.Proofs.Config.Slots
import PointRelay.Proofs.Json.Values
import PointRelay.Proofs.Toml.Document

/-!
# Configurations written and loaded again

Either format writes a configuration as the same tree of settings, and reads that tree back from
its text. What is read from the tree is the configuration, as long as the timeout and the payload
are within 64 bits, which they are when they come from a text themselves.
-/

namespace PointRelay.Config

open Time

/-- A blueprint as a value of any format. -/
def Blueprint.tree (b : Blueprint) : Tree :=
  .group [(some "version", .text b.version.text), (some "output", b.output.tree)]

/-- What is read from a tree of settings is the blueprint that it was made of. -/
theorem Blueprint.ofTree?_tree {b : Blueprint} (fits : b.output.timeout.Fits)
    (small : b.output.payload < 0x10000000000000000) (format : Format) :
    Blueprint.ofTree? format b.tree = some b := by
  have output := Output.ofTree?_tree fits small format
  have version : Version.ofTree? format (.text b.version.text) = some b.version := rfl
  have slots : b.tree.slots? format ["version", "output"] =
      some [some (.text b.version.text), some b.output.tree] := rfl
  rw [Blueprint.ofTree?, slots]
  simp only [Option.bind_eq_bind, Option.bind_some, slotOr_some, version, output]

/-! ## TOML -/

theorem ofToml_table (entries : List (String × Toml)) :
    Tree.ofToml (.table entries) = .group (entries.map fun m => (some m.1, Tree.ofToml m.2)) := by
  have members : Tree.ofToml.membersOf entries =
      entries.map fun m => (some m.1, Tree.ofToml m.2) := by
    induction entries with
    | nil => rfl
    | cons m entries ih => rw [Tree.ofToml.membersOf, ih, List.map_cons]
  rw [Tree.ofToml, members]

theorem ofToml_texts (l : List String) :
    Tree.ofToml (.array (l.map .string)) = .list (l.map .text) := by
  have items : Tree.ofToml.itemsOf (l.map .string) = l.map .text := by
    induction l with
    | nil => rfl
    | cons s l ih => rw [List.map_cons, Tree.ofToml.itemsOf, ih, Tree.ofToml, List.map_cons]
  rw [Tree.ofToml, items]

theorem ofToml_output (o : Output) : Tree.ofToml (.table o.toToml) = o.tree := by
  have same : o.toToml.map (fun m => (m.1, Tree.ofToml m.2)) =
      o.members .text (fun l => .list (l.map .text)) fun n => .whole n := by
    rw [Output.toToml_eq]
    apply Output.map_members
    · intro s
      rw [Tree.ofToml]
    · exact ofToml_texts
    · rw [Tree.ofToml]
  rw [ofToml_table, Output.tree, ← same, List.map_map]
  rfl

theorem toml_settings {o : Output} (small : o.payload < 0x10000000000000000) :
    Toml.Settings o.toToml := by
  have bare : ∀ k ∈ outputFields, Toml.isBareKey k = true := by decide
  rw [Output.toToml_eq]
  constructor
  · intro e mem
    exact bare e.1 (o.known_members e mem)
  · apply Output.forall_members
    · exact .text
    · exact .texts
    · exact .number o.payload small
  · exact o.distinct_members

theorem readTree?_toml {b : Blueprint} (small : b.output.payload < 0x10000000000000000) :
    readTree? .toml (b.write .toml) = some b.tree := by
  have keys : Toml.isBareKey "version" = true ∧ Toml.isBareKey "output" = true := by decide
  have version : Toml.Settings [("version", .string b.version.text)] := by
    constructor
    · intro e mem
      rw [List.mem_singleton.mp mem]
      exact keys.1
    · intro e mem
      rw [List.mem_singleton.mp mem]
      exact .text _
    · simp
  have output : Toml.Tables [("output", b.output.toToml)] := by
    constructor
    · intro t mem
      rw [List.mem_singleton.mp mem]
      exact keys.2
    · intro t mem
      rw [List.mem_singleton.mp mem]
      exact toml_settings small
    · simp
  have apart : ∀ k ∈ ["output"], k ∉ ["version"] := by decide
  have written : b.write .toml = Toml.documentText
      (Toml.document [("version", .string b.version.text)] [("output", b.output.toToml)]) := rfl
  have read := Toml.read?_documentText version (List.cons_ne_nil _ _) output apart
  rw [readTree?, written, read, Option.map_some, ofToml_table, Toml.document, List.map_append,
    List.map_map, List.map_singleton, List.map_singleton, Function.comp_apply, ofToml_output,
    Tree.ofToml, Blueprint.tree, List.singleton_append]

/-! ## JSON -/

theorem value?_ofInt {n : Nat} (small : n < 0x10000000000000000) :
    (Json.Literal.ofInt n).value? = some (.integer n) := by
  have digits : Json.Literal.digitsValue (Decimal.natText n) = n := Decimal.digitsValue_natText n
  have literal : Json.Literal.ofInt n = ⟨false, Decimal.natText n, none, none⟩ := by
    simp [Json.Literal.ofInt]
  rw [literal, Json.Literal.value?]
  simp only [digits, Option.isNone_none, Bool.true_and, Bool.false_eq_true, if_false]
  rw [if_pos (decide_eq_true small)]

theorem ofJson_obj (members : List (String × Json)) :
    Tree.ofJson (.obj members) = .group (members.map fun m => (some m.1, Tree.ofJson m.2)) := by
  have each : Tree.ofJson.membersOf (members.map fun m => (some m.1, m.2)) =
      members.map fun m => (some m.1, Tree.ofJson m.2) := by
    induction members with
    | nil => rfl
    | cons m members ih => rw [List.map_cons, Tree.ofJson.membersOf, ih, List.map_cons]
  rw [Json.obj, Tree.ofJson]
  exact congrArg Tree.group each

theorem ofJson_str (s : String) : Tree.ofJson (.str s) = .text s := by
  rw [Json.str, Tree.ofJson]

theorem ofJson_texts (l : List String) :
    Tree.ofJson (.array (l.map .str)) = .list (l.map .text) := by
  have items : Tree.ofJson.itemsOf (l.map .str) = l.map .text := by
    induction l with
    | nil => rfl
    | cons s l ih => rw [List.map_cons, Tree.ofJson.itemsOf, ih, ofJson_str, List.map_cons]
  rw [Tree.ofJson, items]

theorem ofJson_output {o : Output} (small : o.payload < 0x10000000000000000) :
    Tree.ofJson (.obj o.toJson) = o.tree := by
  have same : o.toJson.map (fun m => (m.1, Tree.ofJson m.2)) =
      o.members .text (fun l => .list (l.map .text)) fun n => .whole n := by
    rw [Output.toJson_eq]
    apply Output.map_members
    · exact ofJson_str
    · exact ofJson_texts
    · rw [Json.nat, Json.int, Tree.ofJson, value?_ofInt small]
  rw [ofJson_obj, Output.tree, ← same, List.map_map]
  rfl

theorem plain_output (o : Output) : Json.Plain (.obj o.toJson) := by
  rw [Output.toJson_eq]
  apply Json.Plain.object
  apply Output.forall_members
  · exact .string
  · intro l
    apply Json.Plain.array
    intro j mem
    obtain ⟨s, -, rfl⟩ := List.mem_map.mp mem
    exact .string s
  · exact .number o.payload

theorem readTree?_json {b : Blueprint} (small : b.output.payload < 0x10000000000000000) :
    readTree? .json (b.write .json) = some b.tree := by
  have plain : Json.Plain
      (.obj [("version", .str b.version.text), ("output", .obj b.output.toJson)]) := by
    apply Json.Plain.object
    intro m mem
    rcases List.mem_cons.mp mem with rfl | mem
    · exact .string _
    · rw [List.mem_singleton.mp mem]
      exact plain_output b.output
  have read : Json.read? (b.write .json) = some
      (.obj [("version", .str b.version.text), ("output", .obj b.output.toJson)]) :=
    Json.read?_pretty plain
  rw [readTree?, read, Option.map_some, ofJson_obj, List.map_cons, List.map_singleton,
    ofJson_output small, ofJson_str, Blueprint.tree]

/-! ## Configurations -/

theorem readTree?_write {b : Blueprint} (small : b.output.payload < 0x10000000000000000)
    (format : Format) : readTree? format (b.write format) = some b.tree := by
  cases format with
  | toml => exact readTree?_toml small
  | json => exact readTree?_json small

/-- What is written is read again. -/
theorem Blueprint.read_write {b : Blueprint} (fits : b.output.timeout.Fits)
    (small : b.output.payload < 0x10000000000000000) (format : Format) :
    Blueprint.read format (b.write format) = .ok b := by
  rw [Blueprint.read, readTree?_write small, Option.bind_some, Blueprint.ofTree?_tree fits small]

theorem fits_of_slot {slot : Option Tree} {t : Span}
    (found : slotOr slot defaultTimeout (fun t => do Span.read? (← t.text?)) = some t) :
    t.Fits := by
  cases slot with
  | none =>
    obtain rfl := Option.some.inj found
    constructor
    · decide
    · decide
  | some tree =>
    obtain ⟨s, -, read⟩ := Option.bind_eq_some_iff.mp found
    exact Span.fits_of_read? read

/-- A timeout that was read is one that the words of a span can say. -/
theorem Output.fits_of_ofTree? {format : Format} {t : Tree} {o : Output}
    (found : Output.ofTree? format t = some o) : o.timeout.Fits := by
  obtain ⟨slots, -, found⟩ := Option.bind_eq_some_iff.mp found
  split at found
  · obtain ⟨_, -, found⟩ := Option.bind_eq_some_iff.mp found
    obtain ⟨_, -, found⟩ := Option.bind_eq_some_iff.mp found
    obtain ⟨_, -, found⟩ := Option.bind_eq_some_iff.mp found
    obtain ⟨_, -, found⟩ := Option.bind_eq_some_iff.mp found
    obtain ⟨_, -, found⟩ := Option.bind_eq_some_iff.mp found
    obtain ⟨_, -, found⟩ := Option.bind_eq_some_iff.mp found
    obtain ⟨_, -, found⟩ := Option.bind_eq_some_iff.mp found
    obtain ⟨_, -, found⟩ := Option.bind_eq_some_iff.mp found
    obtain ⟨_, -, found⟩ := Option.bind_eq_some_iff.mp found
    obtain ⟨_, timeout, found⟩ := Option.bind_eq_some_iff.mp found
    obtain ⟨_, -, found⟩ := Option.bind_eq_some_iff.mp found
    obtain ⟨_, -, found⟩ := Option.bind_eq_some_iff.mp found
    obtain rfl := Option.some.inj found
    exact fits_of_slot timeout
  · cases found

theorem Blueprint.fits_of_read {format : Format} {s : String} {b : Blueprint}
    (found : Blueprint.read format s = .ok b) : b.output.timeout.Fits := by
  unfold Blueprint.read at found
  split at found
  · rename_i b' read
    obtain rfl := Except.ok.inj found
    obtain ⟨tree, -, read⟩ := Option.bind_eq_some_iff.mp read
    obtain ⟨slots, -, read⟩ := Option.bind_eq_some_iff.mp read
    split at read
    · obtain ⟨_, -, read⟩ := Option.bind_eq_some_iff.mp read
      obtain ⟨_, -, read⟩ := Option.bind_eq_some_iff.mp read
      obtain ⟨_, output, read⟩ := Option.bind_eq_some_iff.mp read
      obtain rfl := Option.some.inj read
      exact Output.fits_of_ofTree? output
    · cases read
  · cases found

/-- Whatever text was loaded, what either format writes of the blueprint loads as the same
blueprint, every setting as it was. Its only number is small enough for the integers of both
formats, so that nothing keeps it from being written. -/
theorem loaded_configuration_round_trips {format : Format} {s : String} {b : Blueprint}
    (loaded : Blueprint.load format s = .ok b) :
    b.output.payload ≤ maxPayload ∧
      ∀ format' : Format, Blueprint.load format' (b.write format') = .ok b := by
  obtain ⟨read, valid⟩ := Blueprint.of_load loaded
  obtain ⟨-, faultless⟩ := Blueprint.load_eq_ok_iff.mp loaded
  have bounded : b.output.payload ≤ 65507 := valid.payload
  have fits := Blueprint.fits_of_read read
  constructor
  · exact valid.payload
  · intro format'
    apply Blueprint.load_eq_ok_iff.mpr
    constructor
    · exact Blueprint.read_write fits (by omega) format'
    · exact faultless

/-- A configuration with a text that no style of string holds as it is, and with a timeout of two
units. -/
def awkwardText : String :=
  "[output]\nurls=['tcp://h']\ndatabase=\"'''\\\\\"\ntimeout='1s 9ns'"

def awkward : Blueprint :=
  ⟨.v1, { Output.new "'''\\" with urls := ["tcp://h"], timeout := ⟨1, 9⟩ }⟩

theorem awkward_configuration_round_trips :
    Blueprint.load .toml awkwardText = .ok awkward ∧
      Blueprint.load .toml (awkward.write .toml) = .ok awkward ∧
      Blueprint.load .json (awkward.write .json) = .ok awkward := by
  have loaded : Blueprint.load .toml awkwardText = .ok awkward := by cbv
  obtain ⟨-, again⟩ := loaded_configuration_round_trips loaded
  exact ⟨loaded, again .toml, again .json⟩

end PointRelay.Config
