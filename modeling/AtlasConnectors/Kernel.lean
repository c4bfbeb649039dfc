import AtlasConnectors.Runtime
import AtlasConnectors.Sha256

/-! The types of the ingestion kernel and the provenance stamp. Payloads carry numbers of
any type `φ`. -/
namespace AtlasConnectors

structure UUID where
  value : BitVec 128
  deriving DecidableEq

namespace UUID

def hexDigits (u : UUID) : List Char :=
  (List.range 32).map fun i => Nat.digitChar (u.value.toNat / 16 ^ (31 - i) % 16)

/-- `str(u)`: 8-4-4-4-12 hexadecimal digits. -/
def str (u : UUID) : String :=
  let ds := u.hexDigits
  String.ofList (ds.take 8 ++ '-' :: (ds.drop 8).take 4 ++ '-' :: (ds.drop 12).take 4 ++
    '-' :: (ds.drop 16).take 4 ++ '-' :: ds.drop 20)

end UUID

/-- The closed enumeration of the canonical record contract. -/
inductive CanonicalRecordType
  | bank_account | cash_flow | invoice | party | financial_transaction
  deriving DecidableEq, Repr

namespace CanonicalRecordType

def name : CanonicalRecordType → String
  | bank_account => "bank_account"
  | cash_flow => "cash_flow"
  | invoice => "invoice"
  | party => "party"
  | financial_transaction => "financial_transaction"

def all : List CanonicalRecordType :=
  [bank_account, cash_flow, invoice, party, financial_transaction]

def ofName? (s : String) : Option CanonicalRecordType := all.find? fun t => t.name == s

theorem ofName?_name (t : CanonicalRecordType) : ofName? t.name = some t := by
  cases t <;> decide

theorem name_of_ofName? {s : String} {t : CanonicalRecordType} (h : ofName? s = some t) :
    t.name = s := by
  have hfound := List.find?_some h
  simpa using hfound

end CanonicalRecordType

/-- A confidence between 0 and 1. -/
def Confidence : Type := {x : PyFloat // PyFloat.le (.num 0) x = true ∧ PyFloat.le x (.num 1) = true}

def Confidence.certain : Confidence := ⟨.num 1, by decide⟩

/-- Provenance stamped on every record; the last five fields are the simulation extension. -/
structure SourceMetadata where
  source_system : String
  source_message_id : String
  source_hash : String
  ingested_at : DateTime
  mapping_rule_version : String
  confidence : Confidence
  origin : Option String
  batch_id : Option UUID
  seed : Option ℤ
  preset_id : Option String
  generated_by : Option String

abbrev Payload (φ : Type) := Dict String (Json φ)

/-- What an adapter hands to the kernel. -/
structure RawRecord (φ : Type) where
  source_system : String
  source_message_id : String
  record_type : String
  payload : Payload φ
  raw_bytes : List UInt8

/-- The message published to the canonical topic. -/
structure CanonicalRecord (φ : Type) where
  event_id : UUID
  tenant_id : UUID
  record_type : CanonicalRecordType
  payload : Payload φ
  source_metadata : SourceMetadata
  trace_id : UUID
  occurred_at : DateTime

/-- The validation of `CanonicalRecord.record_type`. -/
def canonicalRecordType (s : String) : Except PyExc CanonicalRecordType :=
  match CanonicalRecordType.ofName? s with
  | some t => .ok t
  | none => .error (.validationError
      [⟨"record_type", "literal_error", "Input should be 'bank_account', 'cash_flow', 'invoice', " ++
        "'party' or 'financial_transaction'", .str s⟩])

theorem canonicalRecordType_name (t : CanonicalRecordType) : canonicalRecordType t.name = .ok t := by
  rw [canonicalRecordType, CanonicalRecordType.ofName?_name]

/-- What each record takes from the clock and from `uuid4`. -/
structure Fresh where
  event_id : UUID
  trace_id : UUID
  ingested_at : DateTime
  occurred_at : DateTime

def source_hash (raw : List UInt8) : String := Sha256.hexdigest raw

variable {φ : Type}

def stamp (record : RawRecord φ) (now : DateTime) (mapping_rule_version : String := "v0.1")
    (confidence : Confidence := Confidence.certain) : SourceMetadata where
  source_system := record.source_system
  source_message_id := record.source_message_id
  source_hash := source_hash record.raw_bytes
  ingested_at := now
  mapping_rule_version := mapping_rule_version
  confidence := confidence
  origin := none
  batch_id := none
  seed := none
  preset_id := none
  generated_by := none

end AtlasConnectors
