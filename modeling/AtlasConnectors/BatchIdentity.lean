import AtlasConnectors.CheckedDispatch
import AtlasConnectors.JsonValue

/-! The identity of the records of a dispatched batch: source hash, message id and content
agree on which of them are the same. -/
namespace AtlasConnectors

/-- The bytes that are hashed identify a payload, whatever it nests. -/
theorem canonical_payload_bytes_identify {p q : Payload Empty} (hp : Json.UniqueKeys (.obj p))
    (hq : Json.UniqueKeys (.obj q)) :
    canonical_payload_bytes p = canonical_payload_bytes q ↔ Json.SameValue (.obj p) (.obj q) := by
  rw [← Json.dumps_eq_iff_sameValue hp hq]
  exact Json.utf8_injective.eq_iff

def nestedPayload : Payload Empty :=
  [("b", .arr [.obj [("y", .null), ("x", .bool true)], .int (-3)]), ("a", .str "é\"🂡")]

def reorderedPayload : Payload Empty :=
  [("a", .str "é\"🂡"), ("b", .arr [.obj [("x", .bool true), ("y", .null)], .int (-3)])]

theorem nestedPayload_identified : Json.SameValue (.obj nestedPayload) (.obj reorderedPayload) := by
  have hnested : Json.UniqueKeys (.obj nestedPayload) := by
    simp [nestedPayload, Json.UniqueKeys, Json.EveryObject, Json.EveryItem,
      Json.EveryMember, Dict.keys]
  have hreordered : Json.UniqueKeys (.obj reorderedPayload) := by
    simp [reorderedPayload, Json.UniqueKeys, Json.EveryObject, Json.EveryItem,
      Json.EveryMember, Dict.keys]
  exact (canonical_payload_bytes_identify hnested hreordered).mp (by decide +kernel)

def SamePayload (p q : Payload Empty) : Prop := ∀ k, p.lookup k = q.lookup k

theorem bytes_eq_iff {r r' : SimRecord} (h : Typed r) (h' : Typed r') :
    canonical_payload_bytes r.2 = canonical_payload_bytes r'.2 ↔ SamePayload r.2 r'.2 :=
  canonical_payload_bytes_eq_iff h.flat h'.flat

/-- The payload alone determines the key of a record, for it shows the type. -/
theorem recordKey_eq_iff {r r' : SimRecord} (h : Typed r) (h' : Typed r') :
    recordKey r = recordKey r' ↔ SamePayload r.2 r'.2 := by
  rw [← bytes_eq_iff h h', recordKey, recordKey, Prod.mk.injEq, and_iff_right_iff_imp]
  intro hbytes
  exact h.type_eq h' ((bytes_eq_iff h h').mp hbytes)

/-- The byte strings that are hashed for a batch. -/
def hashedBytes (batch : GeneratedBatch) : Set (List UInt8) :=
  {bs | ∃ r ∈ batch.records, bs = canonical_payload_bytes r.2}

def Alike (a b : CanonicalRecord Empty) : Prop :=
  a.record_type = b.record_type ∧ SamePayload a.payload b.payload

section Built

variable {ctx : RunContext} {fresh : ℕ → Fresh} {batch : GeneratedBatch}

theorem getElem?_built {r : SimRecord} {i : ℕ} (h : batch.records[i]? = some r) :
    (batch.records.zipIdx.map (builtRecord ctx fresh batch))[i]? =
      some (builtRecord ctx fresh batch (r, i)) := by
  rw [List.getElem?_map, List.getElem?_zipIdx, h]
  simp

theorem built_hashes : (batch.records.zipIdx.map (builtRecord ctx fresh batch)).map
      (fun cr => cr.source_metadata.source_hash) =
    (batch.records.map fun r => canonical_payload_bytes r.2).map source_hash := by
  conv_rhs => rw [← List.zipIdx_map_fst 0 batch.records]
  rw [List.map_map, List.map_map, List.map_map]
  rfl

theorem alike_builtRecord {r r' : SimRecord} (h : Typed r) (h' : Typed r') (i j : ℕ) :
    Alike (builtRecord ctx fresh batch (r, i)) (builtRecord ctx fresh batch (r', j)) ↔
      SamePayload r.2 r'.2 := by
  constructor
  · exact And.right
  · intro hsame
    exact ⟨congrArg simType (h.type_eq h' hsame), hsame⟩

theorem message_id_eq_iff {r r' : SimRecord} (h : Typed r) (h' : Typed r') (hr : r ∈ batch.records)
    (i j : ℕ) : (builtRecord ctx fresh batch (r, i)).source_metadata.source_message_id =
        (builtRecord ctx fresh batch (r', j)).source_metadata.source_message_id ↔
      SamePayload r.2 r'.2 := by
  rw [builtRecord_message_id, builtRecord_message_id, (message_id_injective ctx).eq_iff,
    firstIndex_eq_iff hr, recordKey_eq_iff h h']

theorem hash_eq_iff (hinj : Set.InjOn source_hash (hashedBytes batch)) {r r' : SimRecord} (h : Typed r)
    (h' : Typed r') (hr : r ∈ batch.records) (hr' : r' ∈ batch.records) (i j : ℕ) :
    (builtRecord ctx fresh batch (r, i)).source_metadata.source_hash =
        (builtRecord ctx fresh batch (r', j)).source_metadata.source_hash ↔
      SamePayload r.2 r'.2 := by
  rw [builtRecord_hash, builtRecord_hash, hinj.eq_iff ⟨r, hr, rfl⟩ ⟨r', hr', rfl⟩, bytes_eq_iff h h']

theorem length_dedup_hashes (htyped : ∀ r ∈ batch.records, Typed r)
    (hinj : Set.InjOn source_hash (hashedBytes batch)) :
    ((batch.records.zipIdx.map (builtRecord ctx fresh batch)).map
      fun cr => cr.source_metadata.source_hash).dedup.length =
        batch.records.zipIdx.countP fun item => firstIndex recordKey batch.records item.1 = item.2 := by
  rw [built_hashes, List.map_map, length_dedup_map]
  apply List.countP_congr
  intro item hitem
  have hmem := List.mem_of_getElem? (List.mem_zipIdx_iff_getElem?.mp hitem)
  have hsame : ∀ r ∈ batch.records, ∀ r' ∈ batch.records,
      (source_hash ∘ fun r : SimRecord => canonical_payload_bytes r.2) r =
        (source_hash ∘ fun r : SimRecord => canonical_payload_bytes r.2) r' ↔
          recordKey r = recordKey r' := by
    intro r hr r' hr'
    rw [recordKey_eq_iff (htyped r hr) (htyped r' hr'), ← bytes_eq_iff (htyped r hr) (htyped r' hr')]
    exact hinj.eq_iff ⟨r, hr, rfl⟩ ⟨r', hr', rfl⟩
  rw [firstIndex_congr hsame hmem]

theorem countP_message_id :
    ((batch.records.zipIdx.map (builtRecord ctx fresh batch)).zipIdx.countP fun item =>
      item.1.source_metadata.source_message_id ≠ ctx.message_id item.2) =
        batch.records.zipIdx.countP fun item => firstIndex recordKey batch.records item.1 ≠ item.2 := by
  conv_rhs => rw [← List.zipIdx_map_fst 0 batch.records.zipIdx, List.countP_map]
  rw [List.zipIdx_map, List.countP_map]
  apply List.countP_congr
  rintro ⟨⟨r, i⟩, j⟩ hitem
  have hindex := (List.getElem?_zipIdx ..).symm.trans (List.mem_zipIdx_iff_getElem?.mp hitem)
  have hij : i = j := by
    rw [Option.map_eq_some_iff] at hindex
    obtain ⟨_, _, heq⟩ := hindex
    simpa using (Prod.mk.inj heq).2.symm
  have hiff : ctx.message_id (firstIndex recordKey batch.records r) = ctx.message_id j ↔
      firstIndex recordKey batch.records r = i := by
    rw [(message_id_injective ctx).eq_iff, hij]
  simp [builtRecord_message_id, hiff]

end Built

/-- The least index of a record that is alike. -/
def LeastAlike (built : List (CanonicalRecord Empty)) (a : CanonicalRecord Empty) (j : ℕ) : Prop :=
  (∃ b, built[j]? = some b ∧ Alike a b) ∧ ∀ (k : ℕ) b, built[k]? = some b → Alike a b → j ≤ k

/-- Equal hashes, equal message ids and equal contents are one, and a message id names the least
index of its content. -/
structure HashIdentifies (batch_id : UUID) (built : List (CanonicalRecord Empty)) : Prop where
  hash_iff : ∀ (i j : ℕ) a b, built[i]? = some a → built[j]? = some b →
    (a.source_metadata.source_hash = b.source_metadata.source_hash ↔ Alike a b)
  message_id_iff : ∀ (i j : ℕ) a b, built[i]? = some a → built[j]? = some b →
    (a.source_metadata.source_message_id = b.source_metadata.source_message_id ↔ Alike a b)
  message_id : ∀ (i : ℕ) a, built[i]? = some a → ∃ j, LeastAlike built a j ∧
    a.source_metadata.source_message_id = batch_id.str ++ ":" ++ toString j

/-- A collision of source hashes inside a dispatched batch is a true duplicate. -/
theorem collision_iff_duplicate {rt : PyRuntime} {parsers : DateParsers} {today : Date}
    {fresh : ℕ → Fresh} {request : DispatchRequest} {batch : GeneratedBatch}
    (hbatch : requestedBatch (SimService.standard rt parsers today fresh) request = .ok batch)
    (hinj : Set.InjOn source_hash (hashedBytes batch)) :
    ∃ built, build_canonical_records request.context fresh batch = .ok built ∧
      (built.map fun cr => (cr.record_type.name, cr.payload)) = batch.records ∧
      HashIdentifies request.batch_id built := by
  have htyped := standard_typed hbatch
  have hknown : ∀ r ∈ batch.records, r.1 ∈ SIM_RECORD_TYPES := fun r hr => (htyped r hr).known_type
  have hbuilt : build_canonical_records request.context fresh batch = .ok _ :=
    build_canonical_records_eq hknown
  refine ⟨_, hbuilt, (build_ok_shown hbuilt).1, ?_, ?_, ?_⟩
  · intro i j a b hi hj
    obtain ⟨r, hr, rfl⟩ := build_ok_getElem? hknown hbuilt hi
    obtain ⟨r', hr', rfl⟩ := build_ok_getElem? hknown hbuilt hj
    have hmem := List.mem_of_getElem? hr
    have hmem' := List.mem_of_getElem? hr'
    rw [alike_builtRecord (htyped r hmem) (htyped r' hmem'),
      hash_eq_iff hinj (htyped r hmem) (htyped r' hmem') hmem hmem']
  · intro i j a b hi hj
    obtain ⟨r, hr, rfl⟩ := build_ok_getElem? hknown hbuilt hi
    obtain ⟨r', hr', rfl⟩ := build_ok_getElem? hknown hbuilt hj
    have hmem := List.mem_of_getElem? hr
    have hmem' := List.mem_of_getElem? hr'
    rw [alike_builtRecord (htyped r hmem) (htyped r' hmem'),
      message_id_eq_iff (htyped r hmem) (htyped r' hmem') hmem]
  · intro i a hi
    obtain ⟨r, hr, rfl⟩ := build_ok_getElem? hknown hbuilt hi
    have hmem := List.mem_of_getElem? hr
    refine ⟨firstIndex recordKey batch.records r, ⟨?_, ?_⟩, rfl⟩
    · obtain ⟨r', hr'⟩ : ∃ r', batch.records[firstIndex recordKey batch.records r]? = some r' :=
        ⟨_, List.getElem?_eq_getElem (firstIndex_lt hmem)⟩
      have hkey := (key_firstIndex hmem hr').symm
      have h' := htyped r' (List.mem_of_getElem? hr')
      refine ⟨_, getElem?_built hr', ?_⟩
      rw [alike_builtRecord (htyped r hmem) h', ← recordKey_eq_iff (htyped r hmem) h']
      exact hkey
    · intro k b hk halike
      obtain ⟨r', hr', rfl⟩ := build_ok_getElem? hknown hbuilt hk
      have h' := htyped r' (List.mem_of_getElem? hr')
      rw [alike_builtRecord (htyped r hmem) h', ← recordKey_eq_iff (htyped r hmem) h'] at halike
      exact firstIndex_le hr' halike.symm

def otherAccount : ManualRecord where
  record_type := "bank_account"
  payload := [("iban", .str "FR7699999000000000000000001"), ("label", .str "Compte courant 2"),
    ("currency", .str "EUR"), ("entity", .str "Société Holding"), ("balance", .str "77.00")]

def repeatedBatch : GeneratedBatch where
  records := [manualAccount, otherAccount, manualAccount].filterMap fun item =>
    (checkItem leastService.models item).toOption
  ground_truth := [("mode", .str "manual"), ("expected_records", .int 3)]
  source_format := "json"

theorem repeatedBatch_requested : requestedBatch leastService
    (manualRequest [manualAccount, otherAccount, manualAccount]) = .ok repeatedBatch := by
  rfl

theorem repeatedBatch_injOn : Set.InjOn source_hash (hashedBytes repeatedBatch) := by
  have hdecided : ∀ r ∈ repeatedBatch.records, ∀ r' ∈ repeatedBatch.records,
      source_hash (canonical_payload_bytes r.2) = source_hash (canonical_payload_bytes r'.2) →
        canonical_payload_bytes r.2 = canonical_payload_bytes r'.2 := by
    decide +kernel
  rintro _ ⟨r, hr, rfl⟩ _ ⟨r', hr', rfl⟩ h
  exact hdecided r hr r' hr' h

theorem repeatedBatch_identified : ∃ built,
    build_canonical_records (manualRequest [manualAccount, otherAccount, manualAccount]).context
      leastService.fresh repeatedBatch = .ok built ∧
      (built.map fun cr => (cr.record_type.name, cr.payload)) = repeatedBatch.records ∧ HashIdentifies ⟨2⟩ built :=
  collision_iff_duplicate repeatedBatch_requested repeatedBatch_injOn

end AtlasConnectors
