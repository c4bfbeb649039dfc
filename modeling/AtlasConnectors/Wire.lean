import AtlasConnectors.CheckedDispatch
import AtlasConnectors.JsonText

/-! A record on the wire, and what a consumer verifies of it there. -/
namespace AtlasConnectors

def optionJson {α : Type} (f : α → Json PyFloat) : Option α → Json PyFloat
  | some a => f a
  | none => .null

def SourceMetadata.json (m : SourceMetadata) : Json PyFloat :=
  .obj [("source_system", .str m.source_system), ("source_message_id", .str m.source_message_id),
    ("source_hash", .str m.source_hash), ("ingested_at", .str m.ingested_at.isoformat),
    ("mapping_rule_version", .str m.mapping_rule_version), ("confidence", .float m.confidence.1),
    ("origin", optionJson .str m.origin), ("batch_id", optionJson (fun u => .str u.str) m.batch_id),
    ("seed", optionJson .int m.seed), ("preset_id", optionJson .str m.preset_id),
    ("generated_by", optionJson .str m.generated_by)]

/-- The fields of a record, as `model_dump_json` orders them. -/
def CanonicalRecord.json (record : CanonicalRecord Empty) : Json PyFloat :=
  .obj [("event_id", .str record.event_id.str), ("tenant_id", .str record.tenant_id.str),
    ("record_type", .str record.record_type.name), ("payload", .obj (Json.liftMembers record.payload)),
    ("source_metadata", record.source_metadata.json), ("trace_id", .str record.trace_id.str),
    ("occurred_at", .str record.occurred_at.isoformat)]

/-- One call of the Pub/Sub client. -/
structure PubSubMessage where
  topic_path : String
  data : List UInt8
  trace_id : String
  tenant_id : String

/-- The Pub/Sub binding. `failures n` is the exception that the future of message number `n`
raises, if any; the state is the list of messages handed to the client. -/
structure PubSubPublisher (φ : Type) where
  topic_path : String
  model_dump_json : CanonicalRecord φ → String
  failures : ℕ → Option PyExc

namespace PubSubPublisher

variable {φ : Type} (self : PubSubPublisher φ)

def message (record : CanonicalRecord φ) : PubSubMessage where
  topic_path := self.topic_path
  data := Json.utf8 (self.model_dump_json record).toList
  trace_id := record.trace_id.str
  tenant_id := record.tenant_id.str

def publish : PublisherPort φ (List PubSubMessage) := fun record messages =>
  Delivery.respond (self.failures messages.length) (messages ++ [self.message record])

theorem sends_message (record : CanonicalRecord φ) : Delivery.Sends self.publish record (self.message record) :=
  fun _ => ⟨_, rfl⟩

end PubSubPublisher

namespace Json

variable {φ : Type}

/-- The value at a path of keys. -/
def path? : List String → Json φ → Option (Json φ)
  | [], j => some j
  | k :: ks, .obj ps => (ps.lookup k).bind (path? ks)
  | _ :: _, _ => none

/-- The characters of UTF-8 bytes. -/
def readUtf8 (bytes : List UInt8) : Option (List Char) := bytes.toByteArray.utf8Decode?.map Array.toList

theorem readUtf8_utf8 (cs : List Char) : readUtf8 (utf8 cs) = some cs := by
  have hbytes : (utf8 cs).toByteArray = cs.utf8Encode := rfl
  rw [readUtf8, hbytes, List.utf8Decode?_utf8Encode]
  simp

/-- The value of JSON bytes, its floats read as Python reads them. -/
def loads (bytes : List UInt8) : Option (Json PyFloat) :=
  (readUtf8 bytes).bind (decode (NumberText.readFloat binary64))

/-- A text that denotes a value, as standard JSON. -/
abbrev Denotes (text : String) (j : Json PyFloat) : Prop :=
  ValueText (NumberText.readFloat binary64) j text.toList

theorem loads_utf8 {text : String} {j : Json PyFloat} (h : Denotes text j) :
    loads (utf8 text.toList) = some j := by
  rw [loads, readUtf8_utf8, Option.bind_some, decode_text h]

end Json

/-- Publishing sends one message. The data of the push envelope decode to its bytes, and these to a
record that agrees with the attributes, with the payload and with its own hash. -/
structure Reverifies (pubsub : PubSubPublisher Empty) (record : CanonicalRecord Empty) (message : PubSubMessage)
    (wire : Json PyFloat) : Prop where
  sent : Delivery.Sends pubsub.publish record message
  data : ∃ text, (push_envelope (pubsub.model_dump_json record) record).path? ["message", "data"] =
    some (.str text) ∧ b64decode text.toList = some message.data
  loads : Json.loads message.data = some wire
  tenant_id : ∃ tenant_id, wire.path? ["tenant_id"] = some (.str tenant_id) ∧
    message.tenant_id = tenant_id ∧
    (push_envelope (pubsub.model_dump_json record) record).path? ["message", "attributes", "tenant_id"] =
      some (.str tenant_id)
  trace_id : ∃ trace_id, wire.path? ["trace_id"] = some (.str trace_id) ∧
    message.trace_id = trace_id ∧
    (push_envelope (pubsub.model_dump_json record) record).path? ["message", "attributes", "trace_id"] =
      some (.str trace_id)
  payload : wire.path? ["payload"] = some (.obj (Json.liftMembers record.payload))
  hash : ∃ members payload, wire.path? ["payload"] = some (.obj members) ∧
    Json.floatlessMembers? members = some payload ∧
    wire.path? ["source_metadata", "source_hash"] =
      some (.str (source_hash (canonical_payload_bytes payload)))

/-- The hash that a record carries is that of its payload. -/
def HashesPayload (record : CanonicalRecord Empty) : Prop :=
  record.source_metadata.source_hash = source_hash (canonical_payload_bytes record.payload)

theorem build_ok_hashesPayload {ctx : RunContext} {fresh : ℕ → Fresh} {batch : GeneratedBatch}
    {built : List (CanonicalRecord Empty)} (h : build_canonical_records ctx fresh batch = .ok built) :
    ∀ record ∈ built, HashesPayload record := by
  rw [build_canonical_records_eq (known_of_build_ok h)] at h
  cases h
  intro record hrecord
  obtain ⟨item, _, rfl⟩ := List.mem_map.mp hrecord
  rfl

theorem reverifies_of_denotes {pubsub : PubSubPublisher Empty} {record : CanonicalRecord Empty}
    (hhash : HashesPayload record) (hjson : Json.Denotes (pubsub.model_dump_json record) record.json) :
    Reverifies pubsub record (pubsub.message record) record.json where
  sent := pubsub.sends_message record
  data := by
    refine ⟨_, rfl, ?_⟩
    rw [String.toList_ofList]
    exact b64decode_encode _
  loads := Json.loads_utf8 hjson
  tenant_id := ⟨_, rfl, rfl, rfl⟩
  trace_id := ⟨_, rfl, rfl, rfl⟩
  payload := rfl
  hash := by
    refine ⟨_, _, rfl, Json.floatlessMembers?_lift record.payload, ?_⟩
    rw [← hhash]
    rfl

/-- The shortest text of a whole float, as far as it is written without an exponent. -/
def wholeText : PyFloat → List Char
  | .num q => (NumberText.intText q.num).toList ++ ['.', '0']
  | .negZero => ['-', '0', '.', '0']
  | _ => ['n', 'u', 'l', 'l']

def compactDump (record : CanonicalRecord Empty) : String :=
  String.ofList (Json.compact wholeText record.json)

/-- Numbers of a record that the encoder writes as they are read. -/
structure PlainNumbers (record : CanonicalRecord Empty) : Prop where
  keys : (Dict.keys record.payload).Nodup
  payload : ∀ p ∈ record.payload, ∃ s, p.2 = .str s ∨ p.2 = .null
  confidence : record.source_metadata.confidence.1 = .num 1
  seed : ∀ n, record.source_metadata.seed = some n →
    Json.readNumber (NumberText.readFloat binary64) (NumberText.intText n).toList = some (.int n)

theorem readNumber_one : Json.readNumber (NumberText.readFloat binary64) (wholeText (.num 1)) =
    some (.float (.num 1)) := by
  have hread : NumberText.readFloat binary64 "1.0" = some (.num 1) := by decide +kernel
  have hnumber : Json.readNumber (NumberText.readFloat binary64) (wholeText (.num 1)) =
    (NumberText.readFloat binary64 "1.0").map .float := rfl
  rw [hnumber, hread, Option.map_some]

theorem writableMembers_payload {payload : Payload Empty}
    (h : ∀ p ∈ payload, ∃ s, p.2 = .str s ∨ p.2 = .null) :
    Json.WritableMembers (NumberText.readFloat binary64) wholeText (Json.liftMembers payload) := by
  induction payload with
  | nil => trivial
  | cons p payload ih =>
    obtain ⟨s, hs⟩ := h p List.mem_cons_self
    refine ⟨?_, ih fun q hq => h q (List.mem_cons_of_mem p hq)⟩
    rcases hs with hs | hs <;> rw [hs] <;> trivial

theorem writable_optionJson {α : Type} {f : α → Json PyFloat} {o : Option α}
    (h : ∀ a, o = some a → Json.Writable (NumberText.readFloat binary64) wholeText (f a)) :
    Json.Writable (NumberText.readFloat binary64) wholeText (optionJson f o) := by
  cases o with
  | none => trivial
  | some a => exact h a rfl

theorem denotes_compactDump {record : CanonicalRecord Empty} (h : PlainNumbers record) :
    Json.Denotes (compactDump record) record.json := by
  rw [Json.Denotes, compactDump, String.toList_ofList]
  apply Json.compact_text
  have hpayload := writableMembers_payload h.payload
  have hkeys : (Dict.keys (Json.liftMembers record.payload : Payload PyFloat)).Nodup := by
    rw [Json.keys_liftMembers]
    exact h.keys
  have hmetadata : Json.Writable (NumberText.readFloat binary64) wholeText record.source_metadata.json := by
    refine ⟨by simp [Dict.keys], trivial, trivial, trivial, trivial, trivial, ?_, ?_, ?_, ?_, ?_, ?_, trivial⟩
    · rw [h.confidence]
      exact readNumber_one
    · exact writable_optionJson fun _ _ => trivial
    · exact writable_optionJson fun _ _ => trivial
    · exact writable_optionJson h.seed
    · exact writable_optionJson fun _ _ => trivial
    · exact writable_optionJson fun _ _ => trivial
  exact ⟨by simp [Dict.keys], trivial, trivial, trivial, ⟨hkeys, hpayload⟩, hmetadata, trivial, trivial,
    trivial⟩

/-- The Pub/Sub binding with this encoder. -/
def compactPubSub : PubSubPublisher Empty where
  topic_path := "projects/dev/topics/canonical-records"
  model_dump_json := compactDump
  failures := fun _ => none

theorem manualRecord_plainNumbers : PlainNumbers manualRecord := by
  refine ⟨courant.flat.nodup, ?_, rfl, ?_⟩
  · intro p hp
    simp only [manualRecord, builtRecord_payload, SimBankAccount.record, SimBankAccount.model_dump,
      List.mem_cons, List.not_mem_nil, or_false] at hp
    rcases hp with rfl | rfl | rfl | rfl | rfl <;> exact ⟨_, Or.inl rfl⟩
  · intro n hn
    cases hn
    rfl

end AtlasConnectors
