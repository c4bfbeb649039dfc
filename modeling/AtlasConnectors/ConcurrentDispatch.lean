import AtlasConnectors.Broker
import AtlasConnectors.Determinism
import AtlasConnectors.Retry

/-! Dispatches that run at the same time, and a broker that hands what they publish to Core late, out
of order or more than once. -/
namespace AtlasConnectors

open Broker Relation

/-- A dispatch that passes the checks and has a publisher. -/
structure AdmittedRun (rt : PyRuntime) (parsers : DateParsers) where
  today : Date
  fresh : ℕ → Fresh
  settings : SimSettings
  request : DispatchRequest
  batch : GeneratedBatch
  admitted : Admitted (SimService.standard rt parsers today fresh) settings request batch
  configured : publisherBinding settings ≠ none

variable {rt : PyRuntime} {parsers : DateParsers}

namespace AdmittedRun

def records (run : AdmittedRun rt parsers) : List (CanonicalRecord Empty) :=
  run.batch.records.zipIdx.map (builtRecord run.request.context run.fresh run.batch)

theorem typed (run : AdmittedRun rt parsers) : ∀ r ∈ run.batch.records, Typed r :=
  standard_typed run.admitted.requested

theorem built (run : AdmittedRun rt parsers) :
    build_canonical_records run.request.context run.fresh run.batch = .ok run.records :=
  build_canonical_records_eq fun r hr => (run.typed r hr).known_type

theorem exists_of_mem {run : AdmittedRun rt parsers} {record : CanonicalRecord Empty}
    (h : record ∈ run.records) : ∃ r i, r ∈ run.batch.records ∧
      record = builtRecord run.request.context run.fresh run.batch (r, i) := by
  obtain ⟨⟨r, i⟩, hitem, rfl⟩ := List.mem_map.mp h
  exact ⟨r, i, List.mem_of_getElem? (List.mem_zipIdx_iff_getElem?.mp hitem), rfl⟩

/-- A publisher whose call number `k` times out. -/
def timesOutAt (k : ℕ) : PublisherPort Empty ℕ := fun _ calls =>
  Delivery.respond (if calls = k then some (.transportError "ReadTimeout") else none) (calls + 1)

theorem deliver_timesOutAt {k : ℕ} {records : List (CanonicalRecord Empty)} (hk : k < records.length) :
    (Delivery.deliver (timesOutAt k) PyExc.isPoisonRecordError records 0).1.attempted = records.take (k + 1) := by
  have hbefore : ∀ i < k, ∀ e, (if id 0 + i = k then some (PyExc.transportError "ReadTimeout") else none) = some e →
      e.isPoisonRecordError = true := by
    intro i hi e he
    simp [hi.ne] at he
  exact (@Delivery.deliver_stops _ _ _ (timesOutAt k) PyExc.isPoisonRecordError (fun calls _ => calls + 1) id
    (fun i => if i = k then some (.transportError "ReadTimeout") else none) (fun _ _ => rfl) (fun _ _ => rfl)
    records 0 k (.transportError "ReadTimeout") hk (by simp) rfl hbefore).2

/-- What the route hands to a publisher is a beginning of the run, and any beginning is handed to some. -/
theorem exists_calls_iff (run : AdmittedRun rt parsers) {handed : List (CanonicalRecord Empty)} :
    (∃ construct : PublisherBinding → Except PyExc (PublisherPort Empty ℕ),
      calls (SimService.standard rt parsers run.today run.fresh) construct run.settings run.request 0 = handed) ↔
        handed <+: run.records := by
  constructor
  · rintro ⟨construct, rfl⟩
    rcases calls_cases (SimService.standard rt parsers run.today run.fresh) construct run.settings run.request 0 with
      hnone | ⟨batch, publisher, records, hadm, hpub, hbuilt⟩
    · rw [hnone]
      exact List.nil_prefix
    · rw [calls_admitted run.admitted hpub run.built 0]
      exact Delivery.attempted_isPrefix publisher PyExc.isPoisonRecordError run.records 0
  · intro h
    have hle := h.length_le
    cases hlength : handed.length with
    | zero =>
      refine ⟨fun _ => .error (.other "DefaultCredentialsError"), ?_⟩
      rw [List.length_eq_zero_iff.mp hlength]
      rcases calls_cases (SimService.standard rt parsers run.today run.fresh)
        (fun _ => .error (.other "DefaultCredentialsError")) run.settings run.request 0 with
        hnone | ⟨batch, publisher, records, hadm, hpub, hbuilt⟩
      · exact hnone
      · unfold get_publisher at hpub
        cases hbinding : publisherBinding run.settings <;> simp [hbinding, Except.map] at hpub
    | succ k =>
      have htake : handed = run.records.take handed.length := List.prefix_iff_eq_take.mp h
      refine ⟨fun _ => .ok (timesOutAt k), ?_⟩
      rw [calls_admitted run.admitted (get_publisher_const run.configured (timesOutAt k)) run.built 0,
        deliver_timesOutAt (by omega), htake, hlength]

end AdmittedRun

/-- What a row says, apart from the run that it came from. -/
abbrev Fact := UUID × CanonicalRecordType × (String → Option (Json Empty))

def factOf (row : (UUID × String) × Stored) : Fact := (row.1.1, row.2.record_type, fun k => row.2.payload.lookup k)

section Core

variable (poison : CanonicalRecordType → Payload Empty → Bool)

/-- What Core keeps of a record when it has no row for it yet. -/
def keepRecord (record : CanonicalRecord Empty) : Option ((UUID × String) × Stored) :=
  if poison record.record_type record.payload then none else some (entry record)

variable {poison}

theorem keepRecord_eq_some {record : CanonicalRecord Empty} {p : (UUID × String) × Stored} :
    keepRecord poison record = some p ↔ poison record.record_type record.payload = false ∧ entry record = p := by
  unfold keepRecord
  cases poison record.record_type record.payload <;> simp

/-- The consumer of the broker is the Core that an interrupted push meets. -/
theorem receive_eq_keepRecord (store : CoreStore) (record : CanonicalRecord Empty) :
    receive poison store record = store.fill (keepRecord poison record).toList := by
  rw [receive_eq_fill, kept, keepRecord]
  cases hpoison : poison record.record_type record.payload <;> simp [hpoison]

variable {ι : Type} [DecidableEq ι]

def hashedInRuns (runs : ι → AdmittedRun rt parsers) : Set (List UInt8) := {bs | ∃ i, bs ∈ hashedBytes (runs i).batch}

omit [DecidableEq ι] in
/-- Records of any two runs have one key exactly when they say the same for the same tenant. -/
theorem runs_identified {runs : ι → AdmittedRun rt parsers} (hinj : Set.InjOn source_hash (hashedInRuns runs)) :
    Identifies (keepRecord poison) factOf fun i => (runs i).records := by
  intro i j m m' p q hm hm' hp hq
  obtain ⟨r, a, hr, rfl⟩ := AdmittedRun.exists_of_mem hm
  obtain ⟨r', b, hr', rfl⟩ := AdmittedRun.exists_of_mem hm'
  obtain ⟨_, rfl⟩ := keepRecord_eq_some.mp hp
  obtain ⟨_, rfl⟩ := keepRecord_eq_some.mp hq
  have htyped := (runs i).typed r hr
  have htyped' := (runs j).typed r' hr'
  have hhash : source_hash (canonical_payload_bytes r.2) = source_hash (canonical_payload_bytes r'.2) ↔
      SamePayload r.2 r'.2 := by
    rw [hinj.eq_iff ⟨i, r, hr, rfl⟩ ⟨j, r', hr', rfl⟩, bytes_eq_iff htyped htyped']
  change ((runs i).request.tenant_id, source_hash (canonical_payload_bytes r.2)) =
      ((runs j).request.tenant_id, source_hash (canonical_payload_bytes r'.2)) ↔
    ((runs i).request.tenant_id, simType r.1, fun k => r.2.lookup k) =
      ((runs j).request.tenant_id, simType r'.1, fun k => r'.2.lookup k)
  rw [Prod.mk.injEq, Prod.mk.injEq, Prod.mk.injEq, hhash]
  constructor
  · rintro ⟨htenant, hsame⟩
    exact ⟨htenant, congrArg simType (htyped.type_eq htyped' hsame), funext hsame⟩
  · rintro ⟨htenant, _, hsame⟩
    exact ⟨htenant, congrFun hsame⟩

def offered (poison : CanonicalRecordType → Payload Empty → Bool) (run : AdmittedRun rt parsers) : Set Fact :=
  {f | ∃ record ∈ run.records, poison record.record_type record.payload = false ∧ factOf (entry record) = f}

theorem offered_tenant {run : AdmittedRun rt parsers} {f : Fact} (h : f ∈ offered poison run) :
    f.1 = run.request.tenant_id := by
  obtain ⟨record, hrecord, _, rfl⟩ := h
  obtain ⟨r, i, _, rfl⟩ := AdmittedRun.exists_of_mem hrecord
  rfl

/-- Core after any execution: it has learned facts that were published and nothing else, each of them
once, and what was published of each run is what its route hands to some publisher. -/
structure LearnsOnce (poison : CanonicalRecordType → Payload Empty → Bool) (runs : ι → AdmittedRun rt parsers)
    (n : Net ι (CanonicalRecord Empty) (UUID × String) Stored) : Prop where
  learns : ReflTransGen Learns ⟨∅, ∅⟩ (knowledge (keepRecord poison) factOf n)
  once : (n.store.map factOf).Nodup
  known : known factOf n ⊆ ⋃ i, offered poison (runs i)
  published : ∀ i, ∃ construct : PublisherBinding → Except PyExc (PublisherPort Empty ℕ),
    calls (SimService.standard rt parsers (runs i).today (runs i).fresh) construct (runs i).settings
      (runs i).request 0 = publishedBy i n.log

/-- Whatever the interleaving of the dispatches and of the deliveries, Core learns each fact once. -/
theorem core_learns_once {runs : ι → AdmittedRun rt parsers}
    (hinj : Set.InjOn source_hash (hashedInRuns runs))
    {n : Net ι (CanonicalRecord Empty) (UUID × String) Stored}
    (h : Reaches (keepRecord poison) (start fun i => (runs i).records) n) : LearnsOnce poison runs n := by
  have hid : Identifies (keepRecord poison) factOf fun i => (runs i).records := runs_identified hinj
  have hsound := reaches_sound h
  refine ⟨?_, hsound.nodup_facts hid, ?_, fun i => (runs i).exists_calls_iff.mpr (hsound.published_isPrefix i)⟩
  · have hstart : knowledge (keepRecord poison) factOf (start fun i => (runs i).records) = ⟨∅, ∅⟩ := by
      simp [knowledge, factsOf, keptOf, Broker.known, start]
    rw [← hstart]
    exact reaches_learns hid h
  · rintro f ⟨p, hp, rfl⟩
    obtain ⟨e, he, hkeep⟩ := hsound.mem_store hp
    obtain ⟨hpoison, rfl⟩ := keepRecord_eq_some.mp hkeep
    exact Set.mem_iUnion.mpr ⟨e.1, e.2, hsound.mem_runs (hsound.delivered he), hpoison, rfl⟩

/-- Once every run is delivered, what Core knows of a tenant is what the runs of this tenant offer. -/
theorem delivered_facts {runs : ι → AdmittedRun rt parsers}
    (hinj : Set.InjOn source_hash (hashedInRuns runs))
    {n : Net ι (CanonicalRecord Empty) (UUID × String) Stored}
    (h : Reaches (keepRecord poison) (start fun i => (runs i).records) n)
    (hall : ∀ i, Delivered (fun i => (runs i).records) n i) (tenant_id : UUID) :
    {f ∈ known factOf n | f.1 = tenant_id} =
      ⋃ i ∈ {i | (runs i).request.tenant_id = tenant_id}, offered poison (runs i) := by
  rw [(reaches_sound h).known_of_delivered (runs_identified hinj) hall]
  ext f
  simp only [Set.mem_iUnion]
  constructor
  · rintro ⟨⟨i, m, hm, p, hkeep, rfl⟩, htenant⟩
    obtain ⟨hpoison, rfl⟩ := keepRecord_eq_some.mp hkeep
    have hoffered : factOf (entry m) ∈ offered poison (runs i) := ⟨m, hm, hpoison, rfl⟩
    exact ⟨i, (offered_tenant hoffered).symm.trans htenant, hoffered⟩
  · rintro ⟨i, hi, hoffered⟩
    have htenant := (offered_tenant hoffered).trans hi
    obtain ⟨m, hm, hpoison, rfl⟩ := hoffered
    exact ⟨⟨i, m, hm, _, keepRecord_eq_some.mpr ⟨hpoison, rfl⟩, rfl⟩, htenant⟩

/-- Runs that build the same records for the same tenant. -/
structure SameRun (run run' : AdmittedRun rt parsers) : Prop where
  tenant_id : run.request.tenant_id = run'.request.tenant_id
  batch : run.batch = run'.batch

/-- Runs of one request, under any batch ids and by anyone: of one preset on one date, or of one payload. -/
inductive SameSource (run run' : AdmittedRun rt parsers) : Prop
  | preset (h : SameRequest run.request run'.request) (htoday : run.today = run'.today)
  | payload (hmode : run.request.mode = .manual) (hmode' : run'.request.mode = .manual)
      (hpayload : run'.request.payload = run.request.payload)

theorem SameSource.sameRun {run run' : AdmittedRun rt parsers} (h : SameSource run run')
    (htenant : run.request.tenant_id = run'.request.tenant_id) : SameRun run run' := by
  refine ⟨htenant, ?_⟩
  cases h with
  | preset h htoday =>
    have hbatch : requestedBatch (SimService.standard rt parsers run.today run'.fresh) run'.request =
        requestedBatch (SimService.standard rt parsers run.today run.fresh) run.request := h.requestedBatch
    rw [run.admitted.requested, htoday, run'.admitted.requested] at hbatch
    exact (Except.ok.inj hbatch).symm
  | payload hmode hmode' hpayload =>
    have hbatch := run.admitted.requested
    have hbatch' := run'.admitted.requested
    rw [requestedBatch, if_neg (by simp [hmode]), validate_manual] at hbatch
    rw [requestedBatch, if_neg (by simp [hmode']), validate_manual, hpayload] at hbatch'
    exact Except.ok.inj (hbatch.symm.trans hbatch')

theorem sameRun_of_request {run run' : AdmittedRun rt parsers} (h : run.request = run'.request)
    (htoday : run.today = run'.today) : SameRun run run' := by
  refine ⟨congrArg DispatchRequest.tenant_id h, ?_⟩
  -- what a run draws for itself has no part in its batch
  have hbatch : requestedBatch (SimService.standard rt parsers run.today run'.fresh) run.request =
      .ok run.batch := run.admitted.requested
  rw [htoday, h, run'.admitted.requested] at hbatch
  exact (Except.ok.inj hbatch).symm

theorem SameRun.exists_kept {run run' : AdmittedRun rt parsers} (h : SameRun run run')
    {record : CanonicalRecord Empty} (hrecord : record ∈ run.records) {p : (UUID × String) × Stored}
    (hp : keepRecord poison record = some p) :
    ∃ record' ∈ run'.records, ∃ q, keepRecord poison record' = some q ∧ q.1 = p.1 := by
  obtain ⟨⟨r, i⟩, hitem, rfl⟩ := List.mem_map.mp hrecord
  obtain ⟨hpoison, rfl⟩ := keepRecord_eq_some.mp hp
  rw [h.batch] at hitem
  refine ⟨_, List.mem_map_of_mem hitem, _, keepRecord_eq_some.mpr ⟨hpoison, rfl⟩, ?_⟩
  exact Prod.ext h.tenant_id.symm rfl

theorem saturated_of_delivered {runs : ι → AdmittedRun rt parsers} (hsame : ∀ i j, SameRun (runs i) (runs j))
    {n : Net ι (CanonicalRecord Empty) (UUID × String) Stored}
    (hsound : Sound (keepRecord poison) (fun i => (runs i).records) n) {i : ι}
    (hi : Delivered (fun i => (runs i).records) n i) :
    Saturated (keepRecord poison) (fun i => (runs i).records) n := by
  intro j m hm p hp
  obtain ⟨m', hm', q, hq, hqp⟩ := (hsame j i).exists_kept hm hp
  rw [← hqp]
  exact hsound.mem_keys_of_delivered (hi m' hm') hq

/-- Dispatches of one request, under any batch ids and by anyone, bring nothing to Core once one of
them is delivered. -/
theorem repeated_request_adds_nothing {runs : ι → AdmittedRun rt parsers}
    (hsame : ∀ i j, SameSource (runs i) (runs j))
    (htenant : ∀ i j, (runs i).request.tenant_id = (runs j).request.tenant_id)
    {n n' : Net ι (CanonicalRecord Empty) (UUID × String) Stored}
    (h : Reaches (keepRecord poison) (start fun i => (runs i).records) n) {i : ι}
    (hi : Delivered (fun i => (runs i).records) n i) (h' : Reaches (keepRecord poison) n n') :
    n'.store = n.store :=
  store_of_saturated h (saturated_of_delivered (fun i j => (hsame i j).sameRun (htenant i j)) (reaches_sound h) hi) h'

/-- Rows that agree on everything that Core keeps, payloads as dictionaries. -/
structure SameRow (a b : Stored) : Prop where
  source_message_id : a.source_message_id = b.source_message_id
  record_type : a.record_type = b.record_type
  payload : SamePayload a.payload b.payload

/-- Retries of one request, at the same time and delivered in any order, leave Core as one
uninterrupted run of it does. -/
theorem concurrent_retries_agree {ι' : Type} [DecidableEq ι'] {request : DispatchRequest} {today : Date}
    {runs : ι → AdmittedRun rt parsers} {runs' : ι' → AdmittedRun rt parsers}
    (hruns : ∀ i, (runs i).request = request ∧ (runs i).today = today)
    (hruns' : ∀ i, (runs' i).request = request ∧ (runs' i).today = today)
    (hinj : Set.InjOn source_hash (hashedInRuns runs))
    {n : Net ι (CanonicalRecord Empty) (UUID × String) Stored}
    (h : Reaches (keepRecord poison) (start fun i => (runs i).records) n) {i : ι}
    (hi : Delivered (fun i => (runs i).records) n i)
    {n' : Net ι' (CanonicalRecord Empty) (UUID × String) Stored}
    (h' : Reaches (keepRecord poison) (start fun i => (runs' i).records) n') {i' : ι'}
    (hi' : Delivered (fun i => (runs' i).records) n' i') (key : UUID × String) :
    Option.Rel SameRow (n.row key) (n'.row key) := by
  have hsound := reaches_sound h
  have hsound' := reaches_sound h'
  have hsame : ∀ j j', SameRun (runs j) (runs' j') := fun j j' =>
    sameRun_of_request ((hruns j).1.trans (hruns' j').1.symm) ((hruns j).2.trans (hruns' j').2.symm)
  have hsame' : ∀ j' j, SameRun (runs' j') (runs j) := fun j' j =>
    sameRun_of_request ((hruns' j').1.trans (hruns j).1.symm) ((hruns' j').2.trans (hruns j).2.symm)
  refine hsound.rows_agree hsound' ?_ ?_ key
  · -- each store has the keys of the one run that it was handed entirely, and no other
    intro k
    constructor
    · intro hk
      obtain ⟨e, he, p, hp, rfl⟩ := hsound.mem_keys_iff.mp hk
      obtain ⟨m', hm', q, hq, hqp⟩ := (hsame e.1 i').exists_kept (hsound.mem_runs (hsound.delivered he)) hp
      exact hqp ▸ hsound'.mem_keys_of_delivered (hi' m' hm') hq
    · intro hk
      obtain ⟨e, he, p, hp, rfl⟩ := hsound'.mem_keys_iff.mp hk
      obtain ⟨m, hm, q, hq, hqp⟩ := (hsame' e.1 i).exists_kept (hsound'.mem_runs (hsound'.delivered he)) hp
      exact hqp ▸ hsound.mem_keys_of_delivered (hi m hm) hq
  · intro j j' m m' k b b' hm hm' hkeep hkeep'
    obtain ⟨r, a, hr, rfl⟩ := AdmittedRun.exists_of_mem hm
    obtain ⟨r', a', hr', rfl⟩ := AdmittedRun.exists_of_mem hm'
    obtain ⟨_, hentry⟩ := keepRecord_eq_some.mp hkeep
    obtain ⟨_, hentry'⟩ := keepRecord_eq_some.mp hkeep'
    rw [← (hsame j j').batch] at hr'
    have htyped := (runs j).typed r hr
    have htyped' := (runs j).typed r' hr'
    have hhash : source_hash (canonical_payload_bytes r.2) = source_hash (canonical_payload_bytes r'.2) :=
      (congrArg (fun row => row.1.2) hentry).trans (congrArg (fun row => row.1.2) hentry').symm
    have hpayload : SamePayload r.2 r'.2 :=
      (bytes_eq_iff htyped htyped').mp (hinj ⟨j, r, hr, rfl⟩ ⟨j, r', hr', rfl⟩ hhash)
    obtain rfl := (Prod.ext_iff.mp hentry).2
    obtain rfl := (Prod.ext_iff.mp hentry').2
    refine ⟨?_, congrArg simType (htyped.type_eq htyped' hpayload), hpayload⟩
    have hcontext : (runs j).request.context = (runs' j').request.context := by
      rw [(hruns j).1, (hruns' j').1]
    have hkey : recordKey r = recordKey r' := (recordKey_eq_iff htyped htyped').mpr hpayload
    have hindex : firstIndex recordKey (runs j).batch.records r = firstIndex recordKey (runs j).batch.records r' :=
      (firstIndex_eq_iff hr).mpr hkey
    change (runs j).request.context.message_id (firstIndex recordKey (runs j).batch.records r) =
      (runs' j').request.context.message_id (firstIndex recordKey (runs' j').batch.records r')
    rw [hcontext, ← (hsame j j').batch, hindex]

end Core

def repeatedRun (tenant_id : UUID) (fresh : ℕ → Fresh) : AdmittedRun leastDraws refuseDates where
  today := newYear
  fresh := fresh
  settings := openSettings
  request := { manualRequest [manualAccount, otherAccount, manualAccount] with tenant_id := tenant_id }
  batch := repeatedBatch
  admitted := ⟨rfl, repeatedBatch_requested, by decide, rfl⟩
  configured := by decide

def twoTenants : Bool → AdmittedRun leastDraws refuseDates
  | true => repeatedRun ⟨1⟩ fun _ => someFresh
  | false => repeatedRun ⟨9⟩ fun i => { someFresh with event_id := ⟨i⟩ }

theorem twoTenants_injOn : Set.InjOn source_hash (hashedInRuns twoTenants) := by
  have hone : hashedInRuns twoTenants ⊆ hashedBytes repeatedBatch := by
    rintro bs ⟨i, hbs⟩
    cases i <;> exact hbs
  exact repeatedBatch_injOn.mono hone

/-- Two retries of the three accounts, each with ids of its own. -/
def twoRetries : Bool → AdmittedRun leastDraws refuseDates
  | true => repeatedRun ⟨1⟩ fun _ => someFresh
  | false => repeatedRun ⟨1⟩ fun i => { someFresh with event_id := ⟨i⟩ }

theorem twoRetries_injOn : Set.InjOn source_hash (hashedInRuns twoRetries) := by
  have hone : hashedInRuns twoRetries ⊆ hashedBytes repeatedBatch := by
    rintro bs ⟨i, hbs⟩
    cases i <;> exact hbs
  exact repeatedBatch_injOn.mono hone

theorem twoTenants_learn_once : ∃ n, LearnsOnce (fun t _ => t = .cash_flow) twoTenants n ∧
    ∀ i, Delivered (fun i => (twoTenants i).records) n i := by
  obtain ⟨n, hreach, hall⟩ := exists_all_delivered (keepRecord fun t _ => t = .cash_flow)
    (fun i => (twoTenants i).records) [true, false]
  exact ⟨n, core_learns_once twoTenants_injOn hreach, fun i => hall i (by cases i <;> simp)⟩

theorem twoTenants_facts : ∃ n : Net Bool (CanonicalRecord Empty) (UUID × String) Stored, {f ∈ known factOf n | f.1 = ⟨9⟩} =
    ⋃ i ∈ {i | (twoTenants i).request.tenant_id = ⟨9⟩}, offered (fun t _ => t = .cash_flow) (twoTenants i) := by
  obtain ⟨n, hreach, hall⟩ := exists_all_delivered (keepRecord fun t _ => t = .cash_flow)
    (fun i => (twoTenants i).records) [true, false]
  exact ⟨n, delivered_facts twoTenants_injOn hreach (fun i => hall i (by cases i <;> simp)) ⟨9⟩⟩

theorem twoRetries_agree : ∃ n n' : Net Bool (CanonicalRecord Empty) (UUID × String) Stored,
    Delivered (fun i => (twoRetries i).records) n true ∧ Delivered (fun i => (twoRetries i).records) n' false ∧
      ∀ key, Option.Rel SameRow (n.row key) (n'.row key) := by
  obtain ⟨n, hreach, hall⟩ := exists_all_delivered (keepRecord fun t _ => t = .cash_flow)
    (fun i => (twoRetries i).records) [true]
  obtain ⟨n', hreach', hall'⟩ := exists_all_delivered (keepRecord fun t _ => t = .cash_flow)
    (fun i => (twoRetries i).records) [false]
  have hruns : ∀ i, (twoRetries i).request = (twoRetries true).request ∧ (twoRetries i).today = newYear := by
    intro i
    cases i <;> exact ⟨rfl, rfl⟩
  exact ⟨n, n', hall true (by simp), hall' false (by simp), concurrent_retries_agree hruns hruns twoRetries_injOn
    hreach (hall true (by simp)) hreach' (hall' false (by simp))⟩

def anomalyRun (batch_id : UUID) : AdmittedRun leastDraws refuseDates where
  today := newYear
  fresh := fun _ => someFresh
  settings := openSettings
  request := { anomalyRequest with batch_id := batch_id }
  batch := FinhubAnomaly.leastBatch FinhubAnomaly.oneAnomaly
  admitted := ⟨rfl, anomaly_admitted.requested, anomaly_admitted.cap, rfl⟩
  configured := by decide

def twoBatches : Bool → AdmittedRun leastDraws refuseDates
  | true => anomalyRun ⟨2⟩
  | false => anomalyRun ⟨7⟩

theorem twoBatches_add_nothing :
    (∃ n : Net Bool (CanonicalRecord Empty) (UUID × String) Stored,
      Delivered (fun i => (twoBatches i).records) n true ∧
        ∀ n', Reaches (keepRecord fun t _ => t = .cash_flow) n n' → n'.store = n.store) ∧
    ∃ n : Net Bool (CanonicalRecord Empty) (UUID × String) Stored,
      Delivered (fun i => (twoRetries i).records) n true ∧
        ∀ n', Reaches (keepRecord fun t _ => t = .cash_flow) n n' → n'.store = n.store := by
  constructor
  · obtain ⟨n, hreach, hall⟩ := exists_all_delivered (keepRecord fun t _ => t = .cash_flow)
      (fun i => (twoBatches i).records) [true]
    refine ⟨n, hall true (by simp), fun n' h' => ?_⟩
    refine repeated_request_adds_nothing ?_ ?_ hreach (hall true (by simp)) h'
    · intro i j
      cases i <;> cases j <;> exact .preset ⟨rfl, rfl, rfl, rfl, rfl, rfl, rfl⟩ rfl
    · intro i j
      cases i <;> cases j <;> rfl
  · obtain ⟨n, hreach, hall⟩ := exists_all_delivered (keepRecord fun t _ => t = .cash_flow)
      (fun i => (twoRetries i).records) [true]
    refine ⟨n, hall true (by simp), fun n' h' => ?_⟩
    refine repeated_request_adds_nothing ?_ ?_ hreach (hall true (by simp)) h'
    · intro i j
      cases i <;> cases j <;> exact .payload rfl rfl rfl
    · intro i j
      cases i <;> cases j <;> rfl

end AtlasConnectors
