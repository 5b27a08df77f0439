import PointRelay.Proofs.Datagram.Sending
import PointRelay.Proofs.Point.Packing
import PointRelay.Proofs.Stream.Requests

/-!
# The body of a batch in datagrams

A stream connection posts the body of a batch, a datagram connection sends its lines packed. Joined,
the datagrams are the bytes of the body, and each of them is the body of consecutive points.
-/

namespace PointRelay

namespace Packing

/-- The lines of some points make the body of a batch of them. -/
theorem flatMap_lineBytes (settings : Settings) (points : List Point) :
    (points.flatMap fun p => lineBytes p.line) =
      Text.Utf8.ofString (Batch.body ⟨settings, points⟩) := by
  rw [Text.Utf8.ofString, Batch.body, String.toList_ofList]
  induction points with
  | nil => rfl
  | cons p rest ih =>
    have line : lineBytes p.line = Text.Utf8.encode (Line.ofPoint p ++ ['\n']) := by
      rw [lineBytes, Text.Utf8.ofString, Point.line, String.toList_ofList,
        Text.Utf8.encode_append]
      rfl
    rw [List.flatMap_cons, List.flatMap_cons, Text.Utf8.encode_append, line, ih]

theorem ne_nil_of_mem_pack {limit : Nat} {lines : List String} {datagram : List UInt8}
    (mem : datagram ∈ pack limit lines) : datagram ≠ [] := by
  rw [pack_eq] at mem
  obtain ⟨run, among, rfl⟩ := List.mem_map.mp mem
  obtain ⟨line, rest, rfl⟩ :=
    List.exists_cons_of_ne_nil ((cut_runs lineBytes limit lines).filled run among)
  simp [lineBytes]

theorem flatten_pack (limit : Nat) (lines : List String) :
    (pack limit lines).flatten = lines.flatMap lineBytes := by
  calc (pack limit lines).flatten
      = (runs lineBytes limit lines).flatMap fun run => run.flatMap lineBytes := by
        rw [pack_eq, List.flatMap_def]
    _ = (runs lineBytes limit lines).flatten.flatMap lineBytes := by
        rw [← List.flatMap_id, List.flatMap_assoc]
        rfl
    _ = lines.flatMap lineBytes := by
        rw [(cut_runs lineBytes limit lines).whole]

end Packing

namespace Datagram

/-- Each datagram of a batch is the body of a run of its points. -/
theorem exists_runs (b : Batch) (d : Datagram) :
    ∃ runs : List (List Point),
      Packing.Cut (fun p => Packing.lineBytes p.line) d.payload b.points runs ∧
      d.datagrams b = runs.map fun run => Text.Utf8.ofString (Batch.body ⟨b.settings, run⟩) := by
  refine ⟨_, Packing.cut_runs _ d.payload b.points, ?_⟩
  rw [datagrams, Batch.lines, Packing.pack_map]
  exact List.map_congr_left fun run _ => Packing.flatMap_lineBytes b.settings run

theorem flatten_datagrams (b : Batch) (d : Datagram) :
    (d.datagrams b).flatten = Text.Utf8.ofString b.body := by
  rw [datagrams, Packing.flatten_pack, Batch.lines, List.flatMap_map]
  exact Packing.flatMap_lineBytes b.settings b.points

end Datagram

namespace Stream

variable {ω : Type} [Net ω]

/-- A write that is asked for posts the body of its batch, and any other fails without a request. -/
theorem net_write (b : Batch) (s : Stream) (net : ω) :
    (s.Asks b → ∃ r : Request, r.body = b.body ∧ (s.write b net).2 = (Net.request r net).2) ∧
      (¬ s.Asks b → ∃ e, s.write b net = (.error e, net)) := by
  refine ⟨fun asks => ⟨s.writing b, rfl, congrArg Prod.snd (write_of_asks asks net)⟩,
    fun silent => ?_⟩
  obtain ⟨e, refused⟩ := write_of_not_asks (ω := ω) silent
  exact ⟨e, refused net⟩

end Stream

/-- Datagrams carry whole lines, each the lines of a run that fits or of a single line. Those of a
batch are the bodies of runs of its points, and what a datagram connection sends of a batch is what
a stream connection posts, which it does whenever it is open and the request can be made. -/
theorem datagrams_join_to_the_body :
    (∀ (limit : Nat) (lines : List String),
      (Packing.pack limit lines).flatten = lines.flatMap Packing.lineBytes ∧
      (∀ datagram ∈ Packing.pack limit lines, datagram ≠ []) ∧
      ∃ runs : List (List String),
        runs.flatten = lines ∧
        Packing.pack limit lines = runs.map (·.flatMap Packing.lineBytes) ∧
        ∀ run ∈ runs, run ≠ [] ∧
          ((run.flatMap Packing.lineBytes).length ≤ limit ∨ run.length = 1)) ∧
    (∀ (b : Batch) (d : Datagram),
      (d.datagrams b).flatten = Text.Utf8.ofString b.body ∧
      ∃ runs : List (List Point),
        runs.flatten = b.points ∧
        d.datagrams b = runs.map (fun run => Text.Utf8.ofString (Batch.body ⟨b.settings, run⟩)) ∧
        ∀ run ∈ runs, run ≠ [] ∧
          ((Text.Utf8.ofString (Batch.body ⟨b.settings, run⟩)).length ≤ d.payload ∨
            run.length = 1)) ∧
    (∀ (b : Batch) (d : Datagram) (ω : Type) [Sending ω] (net : ω),
      (d.write b net).1 = .ok () → ∃ sent : List (List UInt8),
        Sending.sent (d.write b net).2 = Datagram.addressed d.address sent ++ Sending.sent net ∧
        sent = d.datagrams b ∧ sent.flatten = Text.Utf8.ofString b.body) ∧
    (∀ (b : Batch) (s : Stream) (ω : Type) [Net ω] (net : ω),
      (s.Asks b → ∃ r : Request, r.body = b.body ∧ (s.write b net).2 = (Net.request r net).2) ∧
        (¬ s.Asks b → ∃ e, s.write b net = (.error e, net))) := by
  refine ⟨?_, ?_, ?_, fun b s _ _ net => s.net_write b net⟩
  · intro limit lines
    have cut := Packing.cut_runs Packing.lineBytes limit lines
    exact ⟨Packing.flatten_pack limit lines, fun _ => Packing.ne_nil_of_mem_pack, _, cut.whole,
      Packing.pack_eq limit lines, fun run mem => ⟨cut.filled run mem, cut.fits run mem⟩⟩
  · intro b d
    obtain ⟨runs, cut, split⟩ := d.exists_runs b
    refine ⟨d.flatten_datagrams b, runs, cut.whole, split, fun run mem => ⟨cut.filled run mem, ?_⟩⟩
    rw [← Packing.flatMap_lineBytes]
    exact cut.fits run mem
  · intro b d ω _ net taken
    obtain ⟨sent, whole⟩ := d.sent_write b net
    rw [(whole.mp taken).2, List.take_length] at sent
    exact ⟨_, sent, rfl, d.flatten_datagrams b⟩

/-- A line with a letter of two bytes and a line break inside a value, between two short ones. -/
def uneasy : Batch :=
  ⟨⟨"telegraf", "", ""⟩,
    [((Record.new "a" ⟨0, 1⟩).withField "v" (.integer 1)).toPoint,
      ((Record.new "höhe" ⟨0, 2⟩).withField "note" (.string "über\nNN")).toPoint,
      ((Record.new "b" ⟨0, 3⟩).withField "v" (.integer 2)).toPoint,
      ((Record.new "c" ⟨0, 4⟩).withField "v" (.integer 3)).toPoint]⟩

/-- A connection whose datagrams hold two short lines. -/
def tight : Datagram := ⟨"udp://127.0.0.1:8089", "127.0.0.1:8089", 18, false⟩

theorem uneasy_datagrams_join_to_the_body :
    tight.datagrams uneasy = [Text.Utf8.ofString "a v=1i 1\n",
      Text.Utf8.ofString "höhe note=\"über\nNN\" 2\n", Text.Utf8.ofString "b v=2i 3\nc v=3i 4\n"] ∧
    (tight.write uneasy (⟨3, []⟩ : Quota)).1 = .ok () ∧
    ∃ sent : List (List UInt8),
      Sending.sent (tight.write uneasy (⟨3, []⟩ : Quota)).2 =
        Datagram.addressed tight.address sent ∧
      sent.flatten = Text.Utf8.ofString uneasy.body := by
  have taken : (tight.write uneasy (⟨3, []⟩ : Quota)).1 = .ok () := by rfl
  obtain ⟨sent, left, -, joined⟩ :=
    datagrams_join_to_the_body.2.2.1 uneasy tight Quota ⟨3, []⟩ taken
  exact ⟨by decide +kernel, taken, sent, left.trans (List.append_nil _), joined⟩

end PointRelay
