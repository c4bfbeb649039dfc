import AtlasConnectors.Emitter

/-! The adapter runner and the simulation emitter on one stream with poison records. -/
namespace AtlasConnectors

variable {φ : Type}

def refusal (outcome : ℕ → Option String) (n : ℕ) : Option PyExc :=
  (outcome n).map PyExc.poisonRecordError

/-- A publisher whose attempt number `n` is accepted, or refused as poison with a text. Its state
is the list of the attempts. -/
def scripted (outcome : ℕ → Option String) : PublisherPort φ (List (CanonicalRecord φ)) :=
  fun record attempts => Delivery.respond (refusal outcome attempts.length) (attempts ++ [record])

def acceptances (outcome : ℕ → Option String) (n : ℕ) : ℕ :=
  (List.range n).countP fun i => (outcome i).isNone

def Publishable (raw : RawRecord φ) : Prop := ∃ t : CanonicalRecordType, raw.record_type = t.name

/-- Both loops attempt every record once, in order, and count the accepted ones. -/
def NeverBlocks (tenant_id : UUID) (fresh : ℕ → Fresh) (connector : Connector φ)
    (outcome : ℕ → Option String) : Prop :=
  ∃ records report,
    List.Forall₂ (fun item record => adapterRecord tenant_id (fresh item.2) item.1 = .ok record)
      connector.yields.zipIdx records ∧
    run_adapter (scripted outcome) tenant_id fresh connector [] =
      .ok (acceptances outcome connector.yields.length) records ∧
    emit records (scripted outcome) [] = .ok report records ∧
    report.emitted = acceptances outcome connector.yields.length

section Scripted

variable (outcome : ℕ → Option String) (records : List (CanonicalRecord φ))

theorem scripted_respond (record : CanonicalRecord φ) (attempts : List (CanonicalRecord φ)) :
    scripted outcome record attempts =
      Delivery.respond (refusal outcome attempts.length) (attempts ++ [record]) := rfl

theorem length_snoc (attempts : List (CanonicalRecord φ)) (record : CanonicalRecord φ) :
    (attempts ++ [record]).length = attempts.length + 1 := by simp

theorem deliver_scripted (tolerated : PyExc → Bool)
    (h : ∀ i < records.length, ∀ s, outcome i = some s → tolerated (.poisonRecordError s) = true) :
    (Delivery.deliver (scripted outcome) tolerated records []).2 = records ∧
      (Delivery.deliver (scripted outcome) tolerated records []).1.failure = none ∧
      (Delivery.deliver (scripted outcome) tolerated records []).1.accepted =
        acceptances outcome records.length := by
  have htolerated : ∀ i < records.length, ∀ e,
      refusal outcome (([] : List (CanonicalRecord φ)).length + i) = some e → tolerated e = true := by
    intro i hi e he
    rw [List.length_nil, Nat.zero_add, refusal, Option.map_eq_some_iff] at he
    obtain ⟨s, hs, rfl⟩ := he
    exact h i hi s hs
  obtain ⟨hfail, hacc⟩ := Delivery.deliver_complete length_snoc (scripted_respond outcome) htolerated
  have hattempted := (Delivery.complete_of_failure_eq_none (scripted outcome) tolerated hfail).1
  have hstate : (Delivery.deliver (scripted outcome) tolerated records []).2 = _ :=
    Delivery.deliver_state (scripted_respond outcome) records []
  refine ⟨?_, hfail, ?_⟩
  · rw [hstate, hattempted]
    exact (Delivery.foldl_log id [] records).trans (by simp)
  · rw [hacc]
    simp [acceptances, refusal]

theorem emit_scripted : ∃ report, emit records (scripted outcome) [] = .ok report records ∧
    report.emitted = acceptances outcome records.length := by
  have htolerated : ∀ i < records.length, ∀ s, outcome i = some s →
      PyExc.isPoisonRecordError (.poisonRecordError s) = true := fun _ _ _ _ => rfl
  obtain ⟨hstate, hfail, hacc⟩ := deliver_scripted outcome records PyExc.isPoisonRecordError htolerated
  rw [emit_eq, reported, hfail, hstate]
  exact ⟨_, rfl, by simp [hacc]⟩

end Scripted

theorem run_adapter_delivers {π : Type} {tenant_id : UUID} {fresh : ℕ → Fresh} {connector : Connector φ}
    {records : List (CanonicalRecord φ)} (hend : connector.failure = none)
    (hrecords : List.Forall₂
      (fun item record => adapterRecord tenant_id (fresh item.2) item.1 = .ok record)
      connector.yields.zipIdx records) (publisher : PublisherPort φ π) (s : π) :
    run_adapter publisher tenant_id fresh connector s =
      Delivery.counted 0 (Delivery.deliver publisher (fun _ => false) records s) := by
  rw [run_adapter_eq publisher tenant_id fresh connector hend]
  apply Delivery.counted_deliver_congr
  apply hrecords.imp
  intro item record hitem t
  rw [publishRaw, hitem]
  rfl

theorem exists_records {raws : List (RawRecord φ)} (h : ∀ raw ∈ raws, Publishable raw)
    (tenant_id : UUID) (fresh : ℕ → Fresh) (i : ℕ) : ∃ records, List.Forall₂
      (fun item record => adapterRecord tenant_id (fresh item.2) item.1 = .ok record)
      (raws.zipIdx i) records := by
  induction raws generalizing i with
  | nil => exact ⟨[], .nil⟩
  | cons raw raws ih =>
    obtain ⟨records, hrecords⟩ := ih (fun r hr => h r (List.mem_cons_of_mem raw hr)) (i + 1)
    obtain ⟨t, ht⟩ := h raw List.mem_cons_self
    have hraw : ∃ record, adapterRecord tenant_id (fresh i) raw = .ok record := by
      rw [adapterRecord, ht, canonicalRecordType_name]
      exact ⟨_, rfl⟩
    obtain ⟨record, hrecord⟩ := hraw
    exact ⟨record :: records, .cons hrecord hrecords⟩

/-- The adapter path attempts a whole stream exactly when none of its records is poison. -/
theorem neverBlocks_iff {connector : Connector φ} (hend : connector.failure = none)
    (hpublishable : ∀ raw ∈ connector.yields, Publishable raw) (tenant_id : UUID) (fresh : ℕ → Fresh)
    (outcome : ℕ → Option String) : NeverBlocks tenant_id fresh connector outcome ↔
      ∀ i < connector.yields.length, outcome i = none := by
  constructor
  · rintro ⟨records, report, hrecords, hrun, _, _⟩
    rw [run_adapter_delivers hend hrecords] at hrun
    have hfail : (Delivery.deliver (scripted outcome) (fun _ => false) records []).1.failure = none := by
      cases hcase : (Delivery.deliver (scripted outcome) (fun _ => false) records []).1.failure with
      | none => rfl
      | some e =>
        rw [Delivery.counted, hcase] at hrun
        cases hrun
    have hlength : connector.yields.length = records.length := by
      rw [← hrecords.length_eq, List.length_zipIdx]
    intro i hi
    have hnone := (Delivery.failure_eq_none_iff length_snoc (scripted_respond outcome)).mp hfail i
      (hlength ▸ hi)
    cases hout : outcome i with
    | none => rfl
    | some s =>
      have habsurd := hnone (.poisonRecordError s) (by simp [refusal, hout])
      cases habsurd
  · intro haccepted
    obtain ⟨records, hrecords⟩ := exists_records hpublishable tenant_id fresh 0
    have hlength : records.length = connector.yields.length := by
      rw [← hrecords.length_eq, List.length_zipIdx]
    obtain ⟨report, hemit, hemitted⟩ := emit_scripted outcome records
    refine ⟨records, report, hrecords, ?_, hemit, hlength ▸ hemitted⟩
    have hnone : ∀ i < records.length, ∀ s, outcome i = some s → false = true := by
      intro i hi s hs
      rw [haccepted i (hlength ▸ hi)] at hs
      cases hs
    obtain ⟨hstate, hfail, hacc⟩ := deliver_scripted outcome records (fun _ => false) hnone
    rw [run_adapter_delivers hend hrecords, Delivery.counted, hfail, hstate, hacc, hlength,
      Nat.zero_add]

def rawAccount (source_message_id : String) : RawRecord Empty where
  source_system := "erp"
  source_message_id := source_message_id
  record_type := "bank_account"
  payload := [("iban", .str "FR7630006000011234567890189")]
  raw_bytes := []

def twoAccounts : Connector Empty := ⟨"erp", [rawAccount "A1", rawAccount "A2"], none⟩

theorem twoAccounts_publishable : ∀ raw ∈ twoAccounts.yields, Publishable raw := by
  intro raw hraw
  rcases List.mem_pair.mp hraw with rfl | rfl
  · exact ⟨.bank_account, rfl⟩
  · exact ⟨.bank_account, rfl⟩

theorem twoAccounts_neverBlocks : NeverBlocks ⟨7⟩ (fun _ => someFresh) twoAccounts fun _ => none :=
  (neverBlocks_iff rfl twoAccounts_publishable ⟨7⟩ (fun _ => someFresh) fun _ => none).mpr
    fun _ _ => rfl

/-- A poison record ends the adapter's stream, and the record after it is never attempted. -/
theorem poison_blocks_adapter :
    (∃ record, run_adapter (scripted fun i => if i = 0 then some "invalid" else none) ⟨7⟩
      (fun _ => someFresh) twoAccounts [] = .error (.poisonRecordError "invalid") [record]) ∧
    ¬NeverBlocks ⟨7⟩ (fun _ => someFresh) twoAccounts
      fun i => if i = 0 then some "invalid" else none := by
  refine ⟨⟨_, rfl⟩, ?_⟩
  rintro ⟨records, report, _, hrun, _⟩
  cases hrun

end AtlasConnectors
