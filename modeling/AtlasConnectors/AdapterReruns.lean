import AtlasConnectors.Retry
import AtlasConnectors.PoisonStream

/-! Extractions run again: what Core keeps of a source when the runs of several tenants' connectors
follow one another, each interrupted anywhere or not at all. -/
namespace AtlasConnectors

/-- One run of a connector: its tenant, what its records take from the clock and from `uuid4`, and
where the push is interrupted, if it is. -/
structure Extraction where
  tenant_id : UUID
  fresh : ℕ → Fresh
  connector : Connector Empty
  cut : Option Cut

structure Extraction.Complete (tenant_id : UUID) (raws : List (RawRecord Empty)) (x : Extraction) :
    Prop where
  tenant : x.tenant_id = tenant_id
  yields : x.connector.yields = raws
  uncut : x.cut = none

section Core

variable (poison : CanonicalRecordType → Payload Empty → Bool) (tenant_id : UUID)

/-- What Core keeps of a raw record, unless the record ends the run. -/
def taken (raw : RawRecord Empty) : Option ((UUID × String) × Stored) :=
  match canonicalRecordType raw.record_type with
  | .ok t =>
    if poison t raw.payload then none
    else some ((tenant_id, source_hash raw.raw_bytes), ⟨raw.source_message_id, t, raw.payload⟩)
  | .error _ => none

/-- What Core keeps of the records before the first that ends the run. -/
def admitted : List (RawRecord Empty) → List ((UUID × String) × Stored)
  | [] => []
  | raw :: raws =>
    match taken poison tenant_id raw with
    | some p => p :: admitted raws
    | none => []

/-- The part of the store that belongs to a tenant. -/
def ofTenant (tenant_id : UUID) (store : CoreStore) : CoreStore := store.filter fun p => p.1.1 = tenant_id

def storeAfterRun (x : Extraction) (store : CoreStore) : CoreStore :=
  match run_adapter (pushToCore poison x.cut) x.tenant_id x.fresh x.connector ⟨store, 0⟩ with
  | .ok _ s => s.store
  | .error _ s => s.store

def storeAfterRuns (runs : List Extraction) (store : CoreStore) : CoreStore :=
  runs.foldl (fun store x => storeAfterRun poison x store) store

variable {poison tenant_id}

theorem taken_key {raw : RawRecord Empty} {p : (UUID × String) × Stored}
    (h : taken poison tenant_id raw = some p) : p.1 = (tenant_id, source_hash raw.raw_bytes) := by
  unfold taken at h
  split at h
  · split_ifs at h
    cases h
    rfl
  · cases h

theorem admitted_tenant {raws : List (RawRecord Empty)} {p : (UUID × String) × Stored}
    (h : p ∈ admitted poison tenant_id raws) : p.1.1 = tenant_id := by
  induction raws with
  | nil => cases h
  | cons raw raws ih =>
    rw [admitted] at h
    cases htaken : taken poison tenant_id raw with
    | none =>
      rw [htaken] at h
      cases h
    | some q =>
      rw [htaken] at h
      rcases List.mem_cons.mp h with rfl | h
      · rw [taken_key htaken]
      · exact ih h

theorem admitted_isPrefix {yields raws : List (RawRecord Empty)} (h : yields <+: raws) :
    admitted poison tenant_id yields <+: admitted poison tenant_id raws := by
  induction yields generalizing raws with
  | nil => exact List.nil_prefix
  | cons raw yields ih =>
    cases raws with
    | nil => cases List.prefix_nil.mp h
    | cons raw' raws =>
      obtain ⟨rfl, htail⟩ := List.cons_prefix_cons.mp h
      rw [admitted, admitted]
      cases taken poison tenant_id raw with
      | none => exact List.prefix_rfl
      | some p => exact List.cons_prefix_cons.mpr ⟨rfl, ih htail⟩

theorem publishRaw_unknown {π : Type} {publisher : PublisherPort Empty π} {fresh : ℕ → Fresh}
    {raw : RawRecord Empty} {i : ℕ} {e : PyExc} (h : canonicalRecordType raw.record_type = .error e) (s : π) :
    publishRaw publisher tenant_id fresh (raw, i) s = .error e s := by
  rw [publishRaw, adapterRecord, h]
  rfl

theorem publishRaw_known (tenant_id : UUID) (fresh : ℕ → Fresh) {raw : RawRecord Empty} {t : CanonicalRecordType} (i : ℕ)
    (h : canonicalRecordType raw.record_type = .ok t) : ∃ record : CanonicalRecord Empty,
      (record.record_type = t ∧ record.payload = raw.payload ∧ entry record =
        ((tenant_id, source_hash raw.raw_bytes), ⟨raw.source_message_id, t, raw.payload⟩)) ∧
      ∀ {π : Type} (publisher : PublisherPort Empty π) (s : π),
        publishRaw publisher tenant_id fresh (raw, i) s = publisher record s := by
  refine ⟨⟨(fresh i).event_id, tenant_id, t, raw.payload, stamp raw (fresh i).ingested_at,
    (fresh i).trace_id, (fresh i).occurred_at⟩, ⟨rfl, rfl, rfl⟩, ?_⟩
  intro π publisher s
  rw [publishRaw, adapterRecord, h]
  rfl

theorem pushToCore_taken {cut : Option Cut} {record : CanonicalRecord Empty} {s : CoreState}
    (huncut : cut.filter (fun c => c.index = s.posts) = none)
    (hgood : poison record.record_type record.payload = false) :
    pushToCore poison cut record s = .ok () ⟨s.store.fill [entry record], s.posts + 1⟩ := by
  rw [pushToCore, huncut]
  dsimp only
  rw [coreAnswer, hgood, receive_eq_fill, kept, List.filter_singleton, hgood]
  rfl

theorem pushToCore_poison (cut : Option Cut) {record : CanonicalRecord Empty} (s : CoreState)
    (hpoison : poison record.record_type record.payload = true) :
    ∃ e, pushToCore poison cut record s = .error e ⟨s.store, s.posts + 1⟩ := by
  have hreceive : receive poison s.store record = s.store := by rw [receive, if_pos hpoison]
  rw [pushToCore, hreceive]
  cases cut.filter fun c => c.index = s.posts with
  | none =>
    dsimp only
    rw [coreAnswer, if_pos hpoison]
    exact ⟨_, rfl⟩
  | some c =>
    obtain ⟨e, he, _⟩ := c.exists_failure
    dsimp only
    rw [ite_self, he]
    exact ⟨e, rfl⟩

variable (poison) in
theorem pushToCore_cut {cut : Option Cut} {c : Cut} (record : CanonicalRecord Empty) {s : CoreState}
    (hcut : cut.filter (fun c => c.index = s.posts) = some c) :
    ∃ e, pushToCore poison cut record s =
      .error e ⟨if c.received then receive poison s.store record else s.store, s.posts + 1⟩ := by
  obtain ⟨e, he, _⟩ := c.exists_failure
  rw [pushToCore, hcut]
  dsimp only
  rw [he]
  exact ⟨e, rfl⟩

variable (poison tenant_id) in
/-- Core keeps a beginning of what the source admits, and all of it without a cut. -/
theorem deliver_admitted (cut : Option Cut) (fresh : ℕ → Fresh) (raws : List (RawRecord Empty)) (i : ℕ)
    (s : CoreState) : ∃ stored, stored <+: admitted poison tenant_id raws ∧
      (cut = none → stored = admitted poison tenant_id raws) ∧
      (Delivery.deliver (publishRaw (pushToCore poison cut) tenant_id fresh) (fun _ => false)
        (raws.zipIdx i) s).2.store = s.store.fill stored := by
  induction raws generalizing i s with
  | nil => exact ⟨[], List.prefix_rfl, fun _ => rfl, rfl⟩
  | cons raw raws ih =>
    rw [List.zipIdx_cons]
    cases htype : canonicalRecordType raw.record_type with
    | error e =>
      have hends : taken poison tenant_id raw = none := by rw [taken, htype]
      rw [admitted, hends, Delivery.deliver_fail (publishRaw_unknown htype s) rfl]
      exact ⟨[], List.prefix_rfl, fun _ => rfl, rfl⟩
    | ok t =>
      obtain ⟨record, ⟨rfl, hpayload, hentry⟩, hpublish⟩ :=
        publishRaw_known tenant_id fresh i htype
      cases hpoison : poison record.record_type record.payload with
      | true =>
        have hends : taken poison tenant_id raw = none := by
          rw [taken, htype]
          exact if_pos (hpayload ▸ hpoison)
        obtain ⟨e, hstop⟩ := pushToCore_poison cut s hpoison
        rw [admitted, hends, Delivery.deliver_fail ((hpublish _ s).trans hstop) rfl]
        exact ⟨[], List.prefix_rfl, fun _ => rfl, rfl⟩
      | false =>
        have hgoes : taken poison tenant_id raw = some (entry record) := by
          rw [taken, htype, hentry]
          exact if_neg (by rw [← hpayload, hpoison]; decide)
        rw [admitted, hgoes]
        cases hcut : cut.filter fun c => c.index = s.posts with
        | none =>
          rw [Delivery.deliver_accept ((hpublish _ s).trans (pushToCore_taken hcut hpoison))]
          obtain ⟨stored, hbegins, hall, hstore⟩ := ih (i + 1) ⟨s.store.fill [entry record], s.posts + 1⟩
          refine ⟨entry record :: stored, List.cons_prefix_cons.mpr ⟨rfl, hbegins⟩, ?_, ?_⟩
          · exact fun hnone => congrArg (entry record :: ·) (hall hnone)
          · exact hstore.trans (Dict.fill_append s.store [entry record] stored).symm
        | some c =>
          have hsome : cut ≠ none := by
            rintro rfl
            cases hcut
          obtain ⟨e, hstop⟩ := pushToCore_cut poison record hcut
          rw [Delivery.deliver_fail ((hpublish _ s).trans hstop) rfl]
          cases c.received with
          | false => exact ⟨[], List.nil_prefix, fun hnone => absurd hnone hsome, rfl⟩
          | true =>
            refine ⟨[entry record], ⟨admitted poison tenant_id raws, rfl⟩, fun hnone => absurd hnone hsome, ?_⟩
            simp only [if_true]
            rw [receive_eq_fill, kept, List.filter_singleton, hpoison]
            rfl

/-- A run leaves the publisher as the loop does: an exception of the connector's own comes behind
what it yields. -/
theorem run_adapter_state {π : Type} (publisher : PublisherPort Empty π) (tenant_id : UUID) (fresh : ℕ → Fresh)
    (connector : Connector Empty) (s : π) : ∃ t,
      (Delivery.deliver (publishRaw publisher tenant_id fresh) (fun _ => false)
        connector.yields.zipIdx s).2 = t ∧
      ((∃ published, run_adapter publisher tenant_id fresh connector s = .ok published t) ∨
        ∃ e, run_adapter publisher tenant_id fresh connector s = .error e t) := by
  have hloop : publishAll publisher tenant_id fresh connector.yields s = Delivery.counted 0
      (Delivery.deliver (publishRaw publisher tenant_id fresh) (fun _ => false) connector.yields.zipIdx s) := by
    rw [← Delivery.foldlM_count_eq]
    rfl
  refine ⟨_, rfl, ?_⟩
  rw [run_adapter]
  simp only [bind, EStateM.bind, hloop, Delivery.counted]
  cases (Delivery.deliver (publishRaw publisher tenant_id fresh) (fun _ => false)
    connector.yields.zipIdx s).1.failure with
  | some e => exact Or.inr ⟨e, rfl⟩
  | none =>
    cases connector.failure with
    | none => exact Or.inl ⟨_, rfl⟩
    | some e => exact Or.inr ⟨e, rfl⟩

variable (poison) in
theorem storeAfterRun_eq (x : Extraction) (store : CoreStore) : ∃ stored,
    stored <+: admitted poison x.tenant_id x.connector.yields ∧
      (x.cut = none → stored = admitted poison x.tenant_id x.connector.yields) ∧
      storeAfterRun poison x store = store.fill stored := by
  obtain ⟨stored, hbegins, hall, hstore⟩ :=
    deliver_admitted poison x.tenant_id x.cut x.fresh x.connector.yields 0 ⟨store, 0⟩
  obtain ⟨t, ht, hrun⟩ := run_adapter_state (pushToCore poison x.cut) x.tenant_id x.fresh
    x.connector ⟨store, 0⟩
  refine ⟨stored, hbegins, hall, ?_⟩
  rw [ht] at hstore
  rw [← hstore, storeAfterRun]
  rcases hrun with ⟨published, hrun⟩ | ⟨e, hrun⟩
  · rw [hrun]
  · rw [hrun]

variable (poison) in
/-- A run for a tenant fills the tenant's part of the store. -/
theorem ofTenant_storeAfterRun (x : Extraction) (store : CoreStore) : ∃ stored,
    stored <+: admitted poison x.tenant_id x.connector.yields ∧
      (x.cut = none → stored = admitted poison x.tenant_id x.connector.yields) ∧
      ofTenant x.tenant_id (storeAfterRun poison x store) = (ofTenant x.tenant_id store).fill stored := by
  obtain ⟨stored, hbegins, hall, hstore⟩ := storeAfterRun_eq poison x store
  refine ⟨stored, hbegins, hall, ?_⟩
  have hown : stored.filter (fun p => p.1.1 = x.tenant_id) = stored :=
    List.filter_eq_self.mpr fun p hp => decide_eq_true (admitted_tenant (hbegins.subset hp))
  rw [hstore, ofTenant, Dict.filter_fill store stored fun key => key.1 = x.tenant_id, hown, ofTenant]

theorem ofTenant_other {x : Extraction} (h : x.tenant_id ≠ tenant_id) (store : CoreStore) :
    ofTenant tenant_id (storeAfterRun poison x store) = ofTenant tenant_id store := by
  obtain ⟨stored, hbegins, _, hstore⟩ := storeAfterRun_eq poison x store
  have hnone : stored.filter (fun p => p.1.1 = tenant_id) = [] := by
    apply List.filter_eq_nil_iff.mpr
    intro p hp hown
    exact h ((admitted_tenant (hbegins.subset hp)).symm.trans (of_decide_eq_true hown))
  rw [hstore, ofTenant, Dict.filter_fill store stored fun key => key.1 = tenant_id, hnone]
  rfl

variable (poison) in
/-- Whatever the runs and their order, Core holds for a tenant what one run for it alone keeps of a
beginning of its source, and of all of the source when one run was complete. -/
theorem reruns_converge {raws : List (RawRecord Empty)} {runs : List Extraction}
    (hsource : ∀ x ∈ runs, x.tenant_id = tenant_id → x.connector.yields <+: raws) (store : CoreStore) :
    ∃ stored, stored <+: admitted poison tenant_id raws ∧
      ((∃ x ∈ runs, x.Complete tenant_id raws) → stored = admitted poison tenant_id raws) ∧
      ofTenant tenant_id (storeAfterRuns poison runs store) = (ofTenant tenant_id store).fill stored := by
  induction runs generalizing store with
  | nil => exact ⟨[], List.nil_prefix, by simp, rfl⟩
  | cons x runs ih =>
    obtain ⟨rest, hrest, hcomplete, hstored⟩ :=
      ih (fun y hy => hsource y (List.mem_cons_of_mem x hy)) (storeAfterRun poison x store)
    change ofTenant tenant_id (storeAfterRuns poison runs (storeAfterRun poison x store)) = _ at hstored
    by_cases htenant : x.tenant_id = tenant_id
    · subst htenant
      obtain ⟨first, hfirst, hall, hfill⟩ := ofTenant_storeAfterRun poison x store
      have hbeginning := hfirst.trans (admitted_isPrefix (hsource x List.mem_cons_self rfl))
      rw [hfill] at hstored
      -- both runs kept a beginning of the same source, so the longer one decides
      rcases List.prefix_or_prefix_of_prefix hbeginning hrest with hle | hle
      · refine ⟨rest, hrest, ?_, hstored.trans (Dict.fill_fill_of_prefix hle _)⟩
        rintro ⟨y, hy, hcomp⟩
        rcases List.mem_cons.mp hy with rfl | hy
        · have hfull := hall hcomp.uncut
          rw [hcomp.yields] at hfull
          exact hrest.eq_of_length_le (hfull ▸ hle.length_le)
        · exact hcomplete ⟨y, hy, hcomp⟩
      · refine ⟨first, hbeginning, ?_, hstored.trans (Dict.fill_fill_of_isPrefix hle _)⟩
        rintro ⟨y, hy, hcomp⟩
        rcases List.mem_cons.mp hy with rfl | hy
        · have hfull := hall hcomp.uncut
          rwa [hcomp.yields] at hfull
        · exact hbeginning.eq_of_length_le (hcomplete ⟨y, hy, hcomp⟩ ▸ hle.length_le)
    · refine ⟨rest, hrest, ?_, ?_⟩
      · rintro ⟨y, hy, hcomp⟩
        rcases List.mem_cons.mp hy with rfl | hy
        · exact absurd hcomp.tenant htenant
        · exact hcomplete ⟨y, hy, hcomp⟩
      · rwa [ofTenant_other htenant] at hstored

end Core

def cutRun : Extraction := ⟨⟨7⟩, fun _ => someFresh, twoAccounts, some unavailable⟩

def otherRun : Extraction := ⟨⟨8⟩, fun _ => someFresh, ⟨"erp", [rawAccount "A3"], none⟩, none⟩

def completeRun : Extraction :=
  ⟨⟨7⟩, fun i => { someFresh with event_id := ⟨i⟩ }, twoAccounts, none⟩

theorem threeRuns_source : ∀ x ∈ [cutRun, otherRun, completeRun], x.tenant_id = ⟨7⟩ →
    x.connector.yields <+: twoAccounts.yields := by
  intro x hx htenant
  simp only [List.mem_cons, List.not_mem_nil, or_false] at hx
  rcases hx with rfl | rfl | rfl
  · exact List.prefix_rfl
  · cases htenant
  · exact List.prefix_rfl

theorem threeRuns_converge :
    ofTenant ⟨7⟩ (storeAfterRuns (fun t _ => t = .cash_flow) [cutRun, otherRun, completeRun] []) =
      Dict.fill [] (admitted (fun t _ => t = .cash_flow) ⟨7⟩ twoAccounts.yields) := by
  obtain ⟨stored, _, hall, hstore⟩ :=
    reruns_converge (fun t _ => t = .cash_flow) threeRuns_source []
  rw [hstore, hall ⟨completeRun, by simp, rfl, rfl, rfl⟩]
  rfl

end AtlasConnectors
