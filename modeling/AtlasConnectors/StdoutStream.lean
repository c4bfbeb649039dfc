import AtlasConnectors.Frames
import AtlasConnectors.Simulator
import AtlasConnectors.Wire

/-! Dry runs on standard output: one JSON text on each line, and what a reader of the output has
of it, however it arrives. -/
namespace AtlasConnectors

/-- The binding for dry runs. The state is what has been written, in UTF-8. -/
structure StdoutPublisher (φ : Type) where
  model_dump_json : CanonicalRecord φ → String

namespace StdoutPublisher

variable {φ : Type} (self : StdoutPublisher φ)

def publish : PublisherPort φ (List UInt8) := fun record written =>
  .ok () (written ++ Json.utf8 (self.model_dump_json record ++ "\n").toList)

def LINE_FEED : UInt8 := 10

def line (record : CanonicalRecord φ) : List UInt8 := Json.utf8 (self.model_dump_json record).toList

theorem publish_eq (record : CanonicalRecord φ) (written : List UInt8) :
    self.publish record written = .ok () (written ++ (self.line record ++ [LINE_FEED])) := by
  have hfeed : "\n".toList.flatMap String.utf8EncodeChar = [LINE_FEED] := rfl
  rw [publish, line, String.toList_append, Json.utf8, Json.utf8, List.flatMap_append, hfeed]

theorem deliver_publish (tolerated : PyExc → Bool) (records : List (CanonicalRecord φ)) (written : List UInt8) :
    (Delivery.deliver self.publish tolerated records written).1.failure = none ∧
      (Delivery.deliver self.publish tolerated records written).2 =
        written ++ Frames.frame LINE_FEED (records.map self.line) := by
  induction records generalizing written with
  | nil => simp
  | cons record records ih =>
    rw [Delivery.deliver_accept (self.publish_eq record written)]
    obtain ⟨hfailure, hwritten⟩ := ih (written ++ (self.line record ++ [LINE_FEED]))
    refine ⟨hfailure, ?_⟩
    rw [hwritten]
    simp

/-- The values on the closed lines of an output. -/
def readLines (out : List UInt8) : List (Option (Json PyFloat)) :=
  (Frames.unframe LINE_FEED out).texts.map Json.loads

variable {stdout : StdoutPublisher Empty}

/-- The encoder writes the record as standard JSON on one line. -/
structure OneLine (stdout : StdoutPublisher Empty) (record : CanonicalRecord Empty) : Prop where
  denotes : Json.Denotes (stdout.model_dump_json record) record.json
  no_lineFeed : '\n' ∉ (stdout.model_dump_json record).toList

theorem OneLine.lineFeed_notMem {record : CanonicalRecord Empty} (h : OneLine stdout record) :
    LINE_FEED ∉ stdout.line record := Json.lineFeed_notMem_utf8 h.no_lineFeed

theorem loads_lines {records : List (CanonicalRecord Empty)} (h : ∀ record ∈ records, OneLine stdout record) :
    (records.map stdout.line).map Json.loads = records.map fun record => some record.json := by
  rw [List.map_map]
  exact List.map_congr_left fun record hrecord => Json.loads_utf8 (h record hrecord).denotes

theorem readChunks_frame {records : List (CanonicalRecord Empty)} (h : ∀ record ∈ records, OneLine stdout record)
    {chunks : List (List UInt8)} (hchunks : chunks.flatten = Frames.frame LINE_FEED (records.map stdout.line)) :
    Frames.readChunks LINE_FEED chunks = ⟨records.map stdout.line, []⟩ := by
  have hlines : ∀ t ∈ records.map stdout.line, LINE_FEED ∉ t := by
    intro t ht
    obtain ⟨record, hrecord, rfl⟩ := List.mem_map.mp ht
    exact (h record hrecord).lineFeed_notMem
  have hread := Frames.unframe_frame hlines []
  rw [List.append_nil] at hread
  rw [Frames.readChunks_eq, hchunks, hread]
  simp

/-- Of an output that was cut off, the first records are read, one for each line that is closed. -/
theorem readLines_prefix {records : List (CanonicalRecord Empty)} (h : ∀ record ∈ records, OneLine stdout record)
    {part : List UInt8} (hpart : part <+: Frames.frame LINE_FEED (records.map stdout.line)) :
    readLines part = (records.take (part.count LINE_FEED)).map fun record => some record.json := by
  have hall : Frames.readChunks LINE_FEED [Frames.frame LINE_FEED (records.map stdout.line)] =
      ⟨records.map stdout.line, []⟩ := readChunks_frame h (by simp)
  rw [Frames.readChunks_eq, List.flatten_singleton] at hall
  have hprefix : (Frames.unframe LINE_FEED part).texts <+:
      (Frames.unframe LINE_FEED (Frames.frame LINE_FEED (records.map stdout.line))).texts :=
    Frames.texts_prefix hpart
  rw [hall, List.prefix_iff_eq_take, Frames.length_texts, ← List.map_take] at hprefix
  rw [readLines, hprefix]
  exact loads_lines fun record hrecord => h record (List.mem_of_mem_take hrecord)

end StdoutPublisher

namespace Simulator

open StdoutPublisher

variable {stdout : StdoutPublisher Empty} (tenant_id : UUID) (draws : ℕ → SampleDraws) (fresh : ℕ → Fresh)

/-- A dry run of the simulator writes its messages, one JSON text on each line: a reader of the
output has them all, however the output is cut into chunks, and of an output that breaks off
anywhere it has the first messages, one for each closed line. -/
theorem simulate_stdout (count : ℤ) (h : ∀ cr ∈ messages tenant_id draws fresh count, OneLine stdout cr) :
    ∃ out, simulate stdout.publish tenant_id draws fresh count [] = .ok count out ∧
      (∀ chunks, chunks.flatten = out → ∃ lines, Frames.readChunks LINE_FEED chunks = ⟨lines, []⟩ ∧
        lines.map Json.loads = (messages tenant_id draws fresh count).map fun cr => some cr.json) ∧
      ∀ part, part <+: out → readLines part =
        ((messages tenant_id draws fresh count).take (part.count LINE_FEED)).map fun cr => some cr.json := by
  obtain ⟨hfailure, hwritten⟩ :=
    stdout.deliver_publish (fun _ => false) (messages tenant_id draws fresh count) []
  rw [List.nil_append] at hwritten
  refine ⟨Frames.frame LINE_FEED ((messages tenant_id draws fresh count).map stdout.line), ?_, ?_, ?_⟩
  · rw [simulate_eq, hfailure, hwritten]
  · intro chunks hchunks
    exact ⟨_, readChunks_frame h hchunks, loads_lines h⟩
  · intro part hpart
    exact readLines_prefix h hpart

def compactStdout : StdoutPublisher Empty := ⟨compactDump⟩

theorem wholeText_ge : ∀ x, ∀ d ∈ wholeText x, 32 ≤ d.toNat
  | .num q => List.forall_mem_append.mpr ⟨Json.intText_ge q.num, by simp⟩
  | .negZero => by simp [wholeText]
  | .inf _ => by simp [wholeText]
  | .nan => by simp [wholeText]

theorem oneLine_compactDump {record : CanonicalRecord Empty} (h : PlainNumbers record) :
    OneLine compactStdout record where
  denotes := denotes_compactDump h
  no_lineFeed := by
    have hcompact := Json.lineFeed_notMem_compact wholeText_ge record.json
    rwa [← String.toList_ofList (l := Json.compact wholeText record.json)] at hcompact

theorem sampleMessage_plainNumbers (i : ℕ) : PlainNumbers (sampleMessage tenant_id draws fresh i) where
  keys := by simp [sampleMessage, sample_record, samplePayload, Dict.keys]
  payload := by
    intro p hp
    obtain ⟨q, _, rfl⟩ := List.mem_map.mp hp
    exact ⟨q.2, Or.inl rfl⟩
  confidence := rfl
  seed := by
    intro n hn
    cases hn

/-- Two samples, read from their first line and a half. -/
theorem twoSamples_read : ∃ out, simulate compactStdout.publish ⟨7⟩ someDraws (fun _ => someFresh) 2 [] = .ok 2 out ∧
    ∀ part, part <+: out → part.count LINE_FEED = 1 →
      readLines part = [some (sampleMessage ⟨7⟩ someDraws (fun _ => someFresh) 0).json] := by
  have hone : ∀ cr ∈ messages ⟨7⟩ someDraws (fun _ => someFresh) 2, OneLine compactStdout cr := by
    intro cr hcr
    obtain ⟨i, _, rfl⟩ := List.mem_map.mp hcr
    exact oneLine_compactDump (sampleMessage_plainNumbers _ _ _ i)
  obtain ⟨out, hrun, _, hpart⟩ := simulate_stdout ⟨7⟩ someDraws (fun _ => someFresh) 2 hone
  refine ⟨out, hrun, fun part hprefix hcount => ?_⟩
  rw [hpart part hprefix, hcount]
  rfl

end Simulator
end AtlasConnectors
