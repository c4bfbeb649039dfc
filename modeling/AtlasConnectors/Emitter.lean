import AtlasConnectors.Publishing
import AtlasConnectors.SimModels

/-! A generated batch becomes canonical records through the kernel, and they are emitted. -/
namespace AtlasConnectors

/-- The canonical JSON of a payload, which is what is hashed. -/
def canonical_payload_bytes (payload : Payload Empty) : List UInt8 :=
  Json.utf8 (Json.dumps (.obj payload))

theorem canonical_payload_bytes_eq_iff {p q : Payload Empty} (hp : Json.Flat p) (hq : Json.Flat q) :
    canonical_payload_bytes p = canonical_payload_bytes q ↔ ∀ k, p.lookup k = q.lookup k := by
  rw [← Json.dumps_flat_eq_iff hp hq]
  exact Json.utf8_injective.eq_iff

def SIM_RECORD_TYPES : List String := ["bank_account", "cash_flow", "financial_transaction"]

theorem SimModels.table_keys (models : SimModels) : models.table.keys = SIM_RECORD_TYPES := rfl

structure RunContext where
  tenant_id : UUID
  trace_id : UUID
  batch_id : UUID
  seed : ℤ
  preset_id : Option String
  generated_by : String

/-- `f"{batch_id}:{i}"`. -/
def RunContext.message_id (ctx : RunContext) (i : ℕ) : String := ctx.batch_id.str ++ ":" ++ toString i

def recordKey (r : SimRecord) : String × List UInt8 := (r.1, canonical_payload_bytes r.2)

def simRawRecord (source_system : String) (r : SimRecord) (message_id : String) : RawRecord Empty where
  source_system := source_system
  source_message_id := message_id
  record_type := r.1
  payload := r.2
  raw_bytes := canonical_payload_bytes r.2

/-- The stamp with the fields of the simulation extension. -/
def simMetadata (ctx : RunContext) (raw : RawRecord Empty) (now : DateTime) : SourceMetadata :=
  { stamp raw now with
    origin := some "SIMULATION"
    batch_id := some ctx.batch_id
    seed := some ctx.seed
    preset_id := ctx.preset_id
    generated_by := some ctx.generated_by }

def simRecord (ctx : RunContext) (fresh : Fresh) (raw : RawRecord Empty)
    (record_type : CanonicalRecordType) : CanonicalRecord Empty where
  event_id := fresh.event_id
  tenant_id := ctx.tenant_id
  record_type := record_type
  payload := raw.payload
  source_metadata := simMetadata ctx raw fresh.ingested_at
  trace_id := ctx.trace_id
  occurred_at := fresh.occurred_at

/-- What the loop carries: the records built, and the message id each key got first. -/
structure BuildState where
  records : List (CanonicalRecord Empty)
  first_seen : Dict (String × List UInt8) String

def buildStep (ctx : RunContext) (source_system : String) (fresh : ℕ → Fresh) (acc : BuildState)
    (item : SimRecord × ℕ) : Except PyExc BuildState := do
  if ¬item.1.1 ∈ SIM_RECORD_TYPES then
    throw (.valueError ("unknown sim record_type: " ++ reprText item.1.1))
  let found := acc.first_seen.setdefault (recordKey item.1) (ctx.message_id item.2)
  let record_type ← canonicalRecordType item.1.1
  let raw := simRawRecord source_system item.1 found.1
  pure ⟨acc.records ++ [simRecord ctx (fresh item.2) raw record_type], found.2⟩

def build_canonical_records (ctx : RunContext) (fresh : ℕ → Fresh) (batch : GeneratedBatch) :
    Except PyExc (List (CanonicalRecord Empty)) := do
  let built ← batch.records.zipIdx.foldlM (buildStep ctx ("sim." ++ batch.source_format) fresh) ⟨[], []⟩
  pure built.records

def simType (s : String) : CanonicalRecordType :=
  if s = "bank_account" then .bank_account
  else if s = "cash_flow" then .cash_flow
  else .financial_transaction

theorem canonicalRecordType_simType {s : String} (h : s ∈ SIM_RECORD_TYPES) :
    canonicalRecordType s = .ok (simType s) := by
  simp only [SIM_RECORD_TYPES, List.mem_cons, List.not_mem_nil, or_false] at h
  rcases h with rfl | rfl | rfl <;> rfl

theorem simType_name {s : String} (h : s ∈ SIM_RECORD_TYPES) : (simType s).name = s := by
  simp only [SIM_RECORD_TYPES, List.mem_cons, List.not_mem_nil, or_false] at h
  rcases h with rfl | rfl | rfl <;> decide

def recordOf (ctx : RunContext) (source_system : String) (fresh : ℕ → Fresh) (item : SimRecord × ℕ)
    (message_id : String) : CanonicalRecord Empty :=
  simRecord ctx (fresh item.2) (simRawRecord source_system item.1 message_id) (simType item.1.1)

theorem buildStep_eq {ctx : RunContext} {source_system : String} {fresh : ℕ → Fresh}
    {item : SimRecord × ℕ} (h : item.1.1 ∈ SIM_RECORD_TYPES) (acc : BuildState) :
    buildStep ctx source_system fresh acc item =
      let found := acc.first_seen.setdefault (recordKey item.1) (ctx.message_id item.2)
      .ok ⟨acc.records ++ [recordOf ctx source_system fresh item found.1], found.2⟩ := by
  unfold buildStep
  rw [if_neg (not_not.mpr h), canonicalRecordType_simType h]
  rfl

/-- The loop numbers the records by the first occurrence of their keys. -/
theorem foldlM_buildStep (ctx : RunContext) (source_system : String) (fresh : ℕ → Fresh)
    {rs : List SimRecord} (h : ∀ r ∈ rs, r.1 ∈ SIM_RECORD_TYPES) (i : ℕ) (acc : BuildState) :
    ∃ seen, (rs.zipIdx i).foldlM (buildStep ctx source_system fresh) acc =
      .ok ⟨acc.records ++ (rs.zipIdx i).zipWith (recordOf ctx source_system fresh)
        (firstSeenFrom recordKey ctx.message_id i acc.first_seen rs), seen⟩ := by
  induction rs generalizing i acc with
  | nil => exact ⟨acc.first_seen, by simp; rfl⟩
  | cons r rs ih =>
    let found := acc.first_seen.setdefault (recordKey r) (ctx.message_id i)
    obtain ⟨seen, hseen⟩ := ih (fun r' hr' => h r' (by simp [hr'])) (i + 1)
      ⟨acc.records ++ [recordOf ctx source_system fresh (r, i) found.1], found.2⟩
    refine ⟨seen, ?_⟩
    rw [List.zipIdx_cons, List.foldlM_cons, buildStep_eq (h r (by simp))]
    refine hseen.trans ?_
    simp [firstSeenFrom, found]

/-- The record built at each index: its message id names the first index of its key. -/
def builtRecord (ctx : RunContext) (fresh : ℕ → Fresh) (batch : GeneratedBatch)
    (item : SimRecord × ℕ) : CanonicalRecord Empty :=
  recordOf ctx ("sim." ++ batch.source_format) fresh item
    (ctx.message_id (firstIndex recordKey batch.records item.1))

theorem zipWith_zipIdx_map {α β γ : Type} (f : α × ℕ → β → γ) (g : α → β) (xs : List α) (i : ℕ) :
    (xs.zipIdx i).zipWith f (xs.map g) = (xs.zipIdx i).map fun item => f item (g item.1) := by
  induction xs generalizing i with
  | nil => rfl
  | cons x xs ih => simp [List.zipIdx_cons, ih]

theorem build_canonical_records_eq {ctx : RunContext} {fresh : ℕ → Fresh} {batch : GeneratedBatch}
    (h : ∀ r ∈ batch.records, r.1 ∈ SIM_RECORD_TYPES) :
    build_canonical_records ctx fresh batch =
      .ok (batch.records.zipIdx.map (builtRecord ctx fresh batch)) := by
  obtain ⟨seen, hseen⟩ := foldlM_buildStep ctx ("sim." ++ batch.source_format) fresh h 0 ⟨[], []⟩
  rw [build_canonical_records, hseen, firstSeen_eq, zipWith_zipIdx_map]
  rfl

/-- The provenance that every record of a run carries. -/
structure Stamped (ctx : RunContext) (cr : CanonicalRecord Empty) : Prop where
  tenant_id : cr.tenant_id = ctx.tenant_id
  trace_id : cr.trace_id = ctx.trace_id
  origin : cr.source_metadata.origin = some "SIMULATION"
  batch_id : cr.source_metadata.batch_id = some ctx.batch_id
  seed : cr.source_metadata.seed = some ctx.seed
  preset_id : cr.source_metadata.preset_id = ctx.preset_id
  generated_by : cr.source_metadata.generated_by = some ctx.generated_by

theorem builtRecord_stamped (ctx : RunContext) (fresh : ℕ → Fresh) (batch : GeneratedBatch)
    (item : SimRecord × ℕ) : Stamped ctx (builtRecord ctx fresh batch item) :=
  ⟨rfl, rfl, rfl, rfl, rfl, rfl, rfl⟩

theorem foldlM_buildStep_unknown {ctx : RunContext} {source_system : String} {fresh : ℕ → Fresh}
    {items : List (SimRecord × ℕ)} {acc out : BuildState}
    (h : items.foldlM (buildStep ctx source_system fresh) acc = .ok out) :
    ∀ item ∈ items, item.1.1 ∈ SIM_RECORD_TYPES := by
  induction items generalizing acc with
  | nil => simp
  | cons item items ih =>
    rw [List.foldlM_cons] at h
    by_cases hknown : item.1.1 ∈ SIM_RECORD_TYPES
    · rw [buildStep_eq hknown] at h
      exact List.forall_mem_cons.mpr ⟨hknown, ih h⟩
    · unfold buildStep at h
      rw [if_pos hknown] at h
      cases h

theorem known_of_build_ok {ctx : RunContext} {fresh : ℕ → Fresh} {batch : GeneratedBatch}
    {built : List (CanonicalRecord Empty)} (h : build_canonical_records ctx fresh batch = .ok built) :
    ∀ r ∈ batch.records, r.1 ∈ SIM_RECORD_TYPES := by
  intro r hr
  obtain ⟨i, hi⟩ := List.mem_iff_getElem?.mp hr
  cases hloop : batch.records.zipIdx.foldlM (buildStep ctx ("sim." ++ batch.source_format) fresh) ⟨[], []⟩ with
  | error e =>
    rw [build_canonical_records, hloop] at h
    cases h
  | ok out =>
    exact foldlM_buildStep_unknown hloop (r, i) (List.mem_zipIdx_iff_getElem?.mpr hi)

theorem build_ok_shown {ctx : RunContext} {fresh : ℕ → Fresh} {batch : GeneratedBatch}
    {built : List (CanonicalRecord Empty)} (h : build_canonical_records ctx fresh batch = .ok built) :
    (built.map fun cr => (cr.record_type.name, cr.payload)) = batch.records ∧
      ∀ cr ∈ built, Stamped ctx cr := by
  have hknown := known_of_build_ok h
  rw [build_canonical_records_eq hknown] at h
  cases h
  constructor
  · conv_rhs => rw [← List.zipIdx_map_fst 0 batch.records]
    rw [List.map_map]
    apply List.map_congr_left
    rintro ⟨r, i⟩ hmem
    have hr : r ∈ batch.records := List.mem_of_getElem? (List.mem_zipIdx_iff_getElem?.mp hmem)
    exact Prod.ext (simType_name (hknown r hr)) rfl
  · intro cr hcr
    obtain ⟨item, _, rfl⟩ := List.mem_map.mp hcr
    exact builtRecord_stamped ctx fresh batch item

theorem build_ok_length {ctx : RunContext} {fresh : ℕ → Fresh} {batch : GeneratedBatch}
    {built : List (CanonicalRecord Empty)} (h : ∀ r ∈ batch.records, r.1 ∈ SIM_RECORD_TYPES)
    (hb : build_canonical_records ctx fresh batch = .ok built) :
    built.length = batch.records.length := by
  rw [build_canonical_records_eq h] at hb
  cases hb
  simp

theorem build_ok_getElem? {ctx : RunContext} {fresh : ℕ → Fresh} {batch : GeneratedBatch}
    {built : List (CanonicalRecord Empty)} (h : ∀ r ∈ batch.records, r.1 ∈ SIM_RECORD_TYPES)
    (hb : build_canonical_records ctx fresh batch = .ok built) {i : ℕ} {cr : CanonicalRecord Empty}
    (hi : built[i]? = some cr) : ∃ r, batch.records[i]? = some r ∧
      cr = builtRecord ctx fresh batch (r, i) := by
  rw [build_canonical_records_eq h] at hb
  cases hb
  rw [List.getElem?_map, List.getElem?_zipIdx, Option.map_map, Option.map_eq_some_iff] at hi
  obtain ⟨r, hr, heq⟩ := hi
  refine ⟨r, hr, ?_⟩
  rw [← heq]
  simp

section Shown

variable {ctx : RunContext} {fresh : ℕ → Fresh} {batch : GeneratedBatch} {r : SimRecord} {i : ℕ}

theorem builtRecord_payload : (builtRecord ctx fresh batch (r, i)).payload = r.2 := rfl

theorem builtRecord_type (h : r.1 ∈ SIM_RECORD_TYPES) :
    (builtRecord ctx fresh batch (r, i)).record_type.name = r.1 := simType_name h

theorem builtRecord_hash : (builtRecord ctx fresh batch (r, i)).source_metadata.source_hash =
    source_hash (canonical_payload_bytes r.2) := rfl

theorem builtRecord_message_id :
    (builtRecord ctx fresh batch (r, i)).source_metadata.source_message_id =
      ctx.message_id (firstIndex recordKey batch.records r) := rfl

end Shown

theorem message_id_injective (ctx : RunContext) : Function.Injective ctx.message_id := by
  intro i j h
  have htext : toString i = toString j := by
    simpa [RunContext.message_id, String.append_assoc] using h
  exact NumberText.natText_injective htext

structure EmitReport where
  expected : ℕ
  emitted : ℕ
  rejected : ℕ
  source_hashes : List (String × String)

variable {φ π : Type}

/-- The `try` of the loop: whether the record was accepted; a poison record is not. -/
def attempt (publisher : PublisherPort φ π) (record : CanonicalRecord φ) : EStateM PyExc π Bool :=
  tryCatch (do publisher record; pure true) fun e =>
    if e.isPoisonRecordError then pure false else throw e

def hashEntry (record : CanonicalRecord φ) : String × String :=
  (record.source_metadata.source_hash, record.record_type.name)

def emitStep (publisher : PublisherPort φ π) (report : EmitReport) (record : CanonicalRecord φ) :
    EStateM PyExc π EmitReport := do
  let accepted ← attempt publisher record
  pure { report with
    emitted := if accepted then report.emitted + 1 else report.emitted
    rejected := if accepted then report.rejected else report.rejected + 1
    source_hashes := report.source_hashes ++ [hashEntry record] }

/-- Publish every record; a poison record counts as rejected. -/
def emit (records : List (CanonicalRecord φ)) (publisher : PublisherPort φ π) :
    EStateM PyExc π EmitReport :=
  records.foldlM (emitStep publisher) ⟨records.length, 0, 0, []⟩

theorem attempt_ok {publisher : PublisherPort φ π} {record : CanonicalRecord φ} {s t : π}
    (h : publisher record s = .ok () t) : attempt publisher record s = .ok true t := by
  simp only [attempt, tryCatch, tryCatchThe, MonadExceptOf.tryCatch, EStateM.tryCatch, bind,
    EStateM.bind, h]
  rfl

theorem attempt_error {publisher : PublisherPort φ π} {record : CanonicalRecord φ} {s t : π}
    {e : PyExc} (h : publisher record s = .error e t) : attempt publisher record s =
      if e.isPoisonRecordError then .ok false t else .error e t := by
  simp only [attempt, tryCatch, tryCatchThe, MonadExceptOf.tryCatch, EStateM.tryCatch, bind,
    EStateM.bind, h]
  cases e.isPoisonRecordError <;> rfl

def reported (start : EmitReport) (records : List (CanonicalRecord φ))
    (d : Delivery.Report (CanonicalRecord φ) PyExc × π) : EStateM.Result PyExc π EmitReport :=
  match d.1.failure with
  | none => .ok { start with
      emitted := start.emitted + d.1.accepted
      rejected := start.rejected + d.1.rejected
      source_hashes := start.source_hashes ++ records.map hashEntry } d.2
  | some e => .error e d.2

theorem foldlM_emitStep (publisher : PublisherPort φ π) (records : List (CanonicalRecord φ))
    (start : EmitReport) (s : π) : records.foldlM (emitStep publisher) start s =
      reported start records (Delivery.deliver publisher PyExc.isPoisonRecordError records s) := by
  induction records generalizing start s with
  | nil => simp [reported]; rfl
  | cons record records ih =>
    rw [List.foldlM_cons]
    change EStateM.bind (EStateM.bind (attempt publisher record) _) _ s = _
    cases h : publisher record s with
    | ok u t =>
      rw [Delivery.deliver_accept h]
      simp only [EStateM.bind, attempt_ok h]
      refine (ih _ t).trans ?_
      simp only [reported, Delivery.Report.accept]
      cases (Delivery.deliver publisher PyExc.isPoisonRecordError records t).1.failure with
      | some e => rfl
      | none => simp [Nat.add_assoc, Nat.add_comm 1]
    | error e t =>
      simp only [EStateM.bind, attempt_error h]
      cases he : e.isPoisonRecordError with
      | false =>
        rw [Delivery.deliver_fail h he]
        rfl
      | true =>
        rw [Delivery.deliver_reject h he]
        refine (ih _ t).trans ?_
        simp only [reported, Delivery.Report.reject]
        cases (Delivery.deliver publisher PyExc.isPoisonRecordError records t).1.failure with
        | some e => rfl
        | none => simp [Nat.add_assoc, Nat.add_comm 1]

/-- Emission delivers the records and tolerates poison records only. -/
theorem emit_eq (records : List (CanonicalRecord φ)) (publisher : PublisherPort φ π) (s : π) :
    emit records publisher s = reported ⟨records.length, 0, 0, []⟩ records
      (Delivery.deliver publisher PyExc.isPoisonRecordError records s) :=
  foldlM_emitStep publisher records _ s

/-- `isinstance(value, int)`: a boolean is an integer too. -/
def asIndex : Json PyFloat → Option ℤ
  | .int n => some n
  | .bool b => some (if b then 1 else 0)
  | _ => none

/-- `hashes[index]` for an index in range. -/
def hashAt (hashes : List String) (value : Json PyFloat) : Option String :=
  match asIndex value with
  | some n => if 0 ≤ n then hashes[n.toNat]? else none
  | none => none

/-- The hashes of the indices that an object names. -/
def annotate (hashes : List String) (out : Payload PyFloat) : Payload PyFloat :=
  let out := match (out.lookup "record_index").bind (hashAt hashes) with
    | some h => out.set "source_hash" (.str h)
    | none => out
  match out.lookup "record_indices" with
  | some (.arr indices) =>
    out.set "source_hashes" (.arr ((indices.filterMap (hashAt hashes)).map .str))
  | _ => out

mutual

def walk (hashes : List String) : Json PyFloat → Json PyFloat
  | .obj members => .obj (annotate hashes (walkMembers hashes members))
  | .arr items => .arr (walkItems hashes items)
  | node => node

def walkItems (hashes : List String) : List (Json PyFloat) → List (Json PyFloat)
  | [] => []
  | item :: items => walk hashes item :: walkItems hashes items

def walkMembers (hashes : List String) : List (String × Json PyFloat) → List (String × Json PyFloat)
  | [] => []
  | (k, v) :: members => (k, walk hashes v) :: walkMembers hashes members

end

/-- Resolve the record indices of a manifest into source hashes. -/
def enrich_ground_truth (ground_truth : Payload PyFloat) (hashes : List String) : Payload PyFloat :=
  annotate hashes (walkMembers hashes ground_truth)

end AtlasConnectors
