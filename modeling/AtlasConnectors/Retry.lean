import AtlasConnectors.BatchIdentity
import AtlasConnectors.PushedDispatch

/-! Retries of an interrupted dispatch against a consumer that keeps the first record of each hash:
Core ends in the state of one uninterrupted run. -/
namespace AtlasConnectors

structure Stored where
  source_message_id : String
  record_type : CanonicalRecordType
  payload : Payload Empty

abbrev CoreStore := Dict (UUID × String) Stored

def entry (record : CanonicalRecord Empty) : (UUID × String) × Stored :=
  ((record.tenant_id, record.source_metadata.source_hash),
    ⟨record.source_metadata.source_message_id, record.record_type, record.payload⟩)

structure CoreState where
  store : CoreStore
  posts : ℕ

/-- An interruption: the post at an index gets an outcome that ends the run, and Core has or has not
taken the record before. -/
structure Cut where
  index : ℕ
  received : Bool
  outcome : HttpOutcome
  stops : outcome.goesOn = false

section Core

-- whether Core refuses a record of a type and a payload with a 400
variable (poison : CanonicalRecordType → Payload Empty → Bool)

/-- The store after a record: the first record of each key is kept, poison never is. -/
def receive (store : CoreStore) (record : CanonicalRecord Empty) : CoreStore :=
  if poison record.record_type record.payload then store
  else (store.setdefault (entry record).1 (entry record).2).2

def coreAnswer (record : CanonicalRecord Empty) : HttpOutcome :=
  if poison record.record_type record.payload then .response 400 "invalid" else .response 202 ""

/-- The HTTP push to a Core whose answers are interrupted at most once. -/
def pushToCore (cut : Option Cut) : PublisherPort Empty CoreState := fun record s =>
  match cut.filter fun c => c.index = s.posts with
  | some c => Delivery.respond c.outcome.failure
      ⟨if c.received then receive poison s.store record else s.store, s.posts + 1⟩
  | none => Delivery.respond (coreAnswer poison record).failure
      ⟨receive poison s.store record, s.posts + 1⟩

def kept (records : List (CanonicalRecord Empty)) : List ((UUID × String) × Stored) :=
  (records.filter fun record => !poison record.record_type record.payload).map entry

variable {poison}

theorem receive_eq_fill (store : CoreStore) (record : CanonicalRecord Empty) :
    receive poison store record = store.fill (kept poison [record]) := by
  unfold receive kept
  cases hpoison : poison record.record_type record.payload with
  | true => simp [hpoison, Dict.fill]
  | false => simp [hpoison, Dict.fill]

theorem kept_cons (record : CanonicalRecord Empty) (records : List (CanonicalRecord Empty)) :
    kept poison (record :: records) = kept poison [record] ++ kept poison records := by
  unfold kept
  rw [← List.map_append, ← List.filter_append, List.singleton_append]

theorem kept_isPrefix {records built : List (CanonicalRecord Empty)} (h : records <+: built) :
    kept poison records <+: kept poison built := (h.filter _).map entry

theorem coreAnswer_goesOn (record : CanonicalRecord Empty) : (coreAnswer poison record).goesOn = true := by
  unfold coreAnswer
  cases poison record.record_type record.payload <;> rfl

theorem deliver_goesOn_step {cut : Option Cut} {s : CoreState} (record : CanonicalRecord Empty)
    (records : List (CanonicalRecord Empty)) (h : cut.filter (fun c => c.index = s.posts) = none) :
    ∃ r : Delivery.Report (CanonicalRecord Empty) PyExc → Delivery.Report (CanonicalRecord Empty) PyExc,
      (∀ d, (r d).failure = d.failure) ∧
      Delivery.deliver (pushToCore poison cut) PyExc.isPoisonRecordError (record :: records) s =
        (r (Delivery.deliver (pushToCore poison cut) PyExc.isPoisonRecordError records
            ⟨receive poison s.store record, s.posts + 1⟩).1,
          (Delivery.deliver (pushToCore poison cut) PyExc.isPoisonRecordError records
            ⟨receive poison s.store record, s.posts + 1⟩).2) := by
  have hpush : pushToCore poison cut record s = Delivery.respond (coreAnswer poison record).failure
      ⟨receive poison s.store record, s.posts + 1⟩ := by
    rw [pushToCore, h]
  cases hfailure : (coreAnswer poison record).failure with
  | none =>
    rw [hfailure] at hpush
    exact ⟨Delivery.Report.accept record, fun _ => rfl, Delivery.deliver_accept hpush⟩
  | some e =>
    rw [hfailure] at hpush
    have htolerated := (HttpOutcome.goesOn_iff _).mp (coreAnswer_goesOn record) e hfailure
    exact ⟨Delivery.Report.reject record, fun _ => rfl, Delivery.deliver_reject hpush htolerated⟩

theorem Cut.exists_failure (c : Cut) : ∃ e, c.outcome.failure = some e ∧ e.isPoisonRecordError = false := by
  have hstops : ¬∀ e, c.outcome.failure = some e → e.isPoisonRecordError = true := by
    rw [← HttpOutcome.goesOn_iff, c.stops]
    decide
  simpa using hstops

variable (poison) in
/-- Core keeps what it can of a beginning of the stream, and of the whole stream without a cut. -/
theorem deliver_kept (cut : Option Cut) (records : List (CanonicalRecord Empty)) (s : CoreState) :
    ∃ received, received <+: records ∧ (cut = none → received = records) ∧
      (Delivery.deliver (pushToCore poison cut) PyExc.isPoisonRecordError records s).2.store =
        s.store.fill (kept poison received) := by
  induction records generalizing s with
  | nil => exact ⟨[], List.prefix_rfl, fun _ => rfl, rfl⟩
  | cons record records ih =>
    cases hcut : cut.filter fun c => c.index = s.posts with
    | none =>
      obtain ⟨r, _, hstep⟩ := deliver_goesOn_step record records hcut
      obtain ⟨received, hprefix, hall, hstore⟩ := ih ⟨receive poison s.store record, s.posts + 1⟩
      refine ⟨record :: received, List.cons_prefix_cons.mpr ⟨rfl, hprefix⟩, ?_, ?_⟩
      · exact fun hnone => congrArg (record :: ·) (hall hnone)
      · rw [hstep, hstore, kept_cons, Dict.fill_append, receive_eq_fill]
    | some c =>
      obtain ⟨e, he, hnot⟩ := c.exists_failure
      have hpush : pushToCore poison cut record s = .error e
          ⟨if c.received then receive poison s.store record else s.store, s.posts + 1⟩ := by
        rw [pushToCore, hcut]
        dsimp only
        rw [he]
        rfl
      have hsome : cut ≠ none := by
        rintro rfl
        cases hcut
      rw [Delivery.deliver_fail hpush hnot]
      cases c.received with
      | true =>
        exact ⟨[record], ⟨records, rfl⟩, fun hnone => absurd hnone hsome, receive_eq_fill _ _⟩
      | false => exact ⟨[], List.nil_prefix, fun hnone => absurd hnone hsome, rfl⟩

theorem deliver_interrupted (c : Cut) {k : ℕ} {records : List (CanonicalRecord Empty)} {s : CoreState}
    (hk : k < records.length) (hindex : c.index = s.posts + k) :
    (Delivery.deliver (pushToCore poison (some c)) PyExc.isPoisonRecordError records s).1.failure =
      c.outcome.failure := by
  induction records generalizing s k with
  | nil => cases hk
  | cons record records ih =>
    cases k with
    | zero =>
      obtain ⟨e, he, hnot⟩ := c.exists_failure
      have hpush : pushToCore poison (some c) record s = .error e
          ⟨if c.received then receive poison s.store record else s.store, s.posts + 1⟩ := by
        rw [pushToCore, Option.filter_some, if_pos (by simpa using hindex)]
        dsimp only
        rw [he]
        rfl
      rw [Delivery.deliver_fail hpush hnot, he]
    | succ k =>
      have hcut : (some c).filter (fun c => c.index = s.posts) = none := by
        rw [Option.filter_some, if_neg (by simp [hindex])]
      obtain ⟨r, hr, hstep⟩ := deliver_goesOn_step record records hcut
      rw [hstep, hr]
      exact ih (by simpa using hk) (by dsimp only; omega)

end Core

/-- What one attempt takes from the clock and from `uuid4`, and where it is interrupted, if it is. -/
structure Attempt where
  fresh : ℕ → Fresh
  cut : Option Cut

theorem get_publisher_const {π : Type} {settings : SimSettings} (h : publisherBinding settings ≠ none)
    (publisher : PublisherPort Empty π) :
    get_publisher (fun _ => .ok publisher) settings = .ok (some publisher) := by
  unfold get_publisher
  cases hbinding : publisherBinding settings with
  | none => exact absurd hbinding h
  | some binding => rfl

section Attempts

variable (rt : PyRuntime) (parsers : DateParsers) (today : Date) (settings : SimSettings)
  (request : DispatchRequest) (poison : CanonicalRecordType → Payload Empty → Bool)

def attemptRun (a : Attempt) (store : CoreStore) : EStateM.Result PyExc CoreState DispatchResponse :=
  route (SimService.standard rt parsers today a.fresh) (fun _ => .ok (pushToCore poison a.cut)) settings
    request ⟨store, 0⟩

def storeAfter (a : Attempt) (store : CoreStore) : CoreStore :=
  match attemptRun rt parsers today settings request poison a store with
  | .ok _ s => s.store
  | .error _ s => s.store

def storeAfterAll (attempts : List Attempt) (store : CoreStore) : CoreStore :=
  attempts.foldl (fun store a => storeAfter rt parsers today settings request poison a store) store

/-- The records that an attempt hands to `publish`. -/
def published (a : Attempt) (store : CoreStore) : List (CanonicalRecord Empty) :=
  calls (SimService.standard rt parsers today a.fresh) (fun _ => .ok (pushToCore poison a.cut)) settings
    request ⟨store, 0⟩

variable {rt parsers today settings request poison}
variable {fresh : ℕ → Fresh} {batch : GeneratedBatch}

def builtIn (request : DispatchRequest) (batch : GeneratedBatch) (a : Attempt) :
    List (CanonicalRecord Empty) :=
  batch.records.zipIdx.map (builtRecord request.context a.fresh batch)

/-- Nothing that an attempt draws for itself reaches what Core keeps. -/
theorem kept_builtIn (a b : Attempt) :
    kept poison (builtIn request batch a) = kept poison (builtIn request batch b) := by
  unfold kept builtIn
  rw [List.filter_map, List.filter_map, List.map_map, List.map_map]
  rfl

section Admitted

variable (hadm : Admitted (SimService.standard rt parsers today fresh) settings request batch)

include hadm

theorem attempt_admitted (a : Attempt) :
    Admitted (SimService.standard rt parsers today a.fresh) settings request batch :=
  ⟨hadm.gate, hadm.requested, hadm.cap, hadm.real⟩

theorem attempt_built (a : Attempt) :
    build_canonical_records request.context a.fresh batch = .ok (builtIn request batch a) :=
  build_canonical_records_eq fun r hr => (standard_typed hadm.requested r hr).known_type

variable (hbinding : publisherBinding settings ≠ none)

include hbinding

theorem attemptRun_eq (a : Attempt) (store : CoreStore) :
    attemptRun rt parsers today settings request poison a store =
      finished batch (builtIn request batch a) (Delivery.deliver (pushToCore poison a.cut)
        PyExc.isPoisonRecordError (builtIn request batch a) ⟨store, 0⟩) :=
  route_admitted (attempt_admitted hadm a) (get_publisher_const hbinding _) (attempt_built hadm a) _

theorem attempt_completes (own : ℕ → Fresh) (store : CoreStore) :
    ∃ response s, attemptRun rt parsers today settings request poison ⟨own, none⟩ store = .ok response s := by
  have hfail : (Delivery.deliver (pushToCore poison none) PyExc.isPoisonRecordError
      (builtIn request batch ⟨own, none⟩) ⟨store, 0⟩).1.failure = none := by
    apply Delivery.failure_eq_none_of_tolerated
    intro record s e t he
    rw [pushToCore, Option.filter_none] at he
    cases hfailure : (coreAnswer poison record).failure with
    | none =>
      rw [hfailure] at he
      cases he
    | some e' =>
      rw [hfailure] at he
      cases he
      exact (HttpOutcome.goesOn_iff _).mp (coreAnswer_goesOn record) e hfailure
  rw [attemptRun_eq hadm hbinding, finished, hfail]
  exact ⟨_, _, rfl⟩

theorem attempt_interrupted (own : ℕ → Fresh) (c : Cut) (hc : c.index < batch.records.length)
    (store : CoreStore) : ∃ e s, c.outcome.failure = some e ∧
      attemptRun rt parsers today settings request poison ⟨own, some c⟩ store = .error (routeError e) s := by
  obtain ⟨e, he, _⟩ := c.exists_failure
  have hlength : (builtIn request batch ⟨own, some c⟩).length = batch.records.length := by simp [builtIn]
  have hfail : (Delivery.deliver (pushToCore poison (some c)) PyExc.isPoisonRecordError
      (builtIn request batch ⟨own, some c⟩) ⟨store, 0⟩).1.failure = c.outcome.failure :=
    deliver_interrupted c (hlength ▸ hc) (Nat.zero_add _).symm
  rw [attemptRun_eq hadm hbinding, finished, hfail, he]
  exact ⟨e, _, rfl, rfl⟩

variable (poison) in
/-- An attempt stores a beginning of what the whole batch stores. -/
theorem storeAfter_eq (a b : Attempt) (store : CoreStore) : ∃ stored,
    stored <+: kept poison (builtIn request batch b) ∧
    (a.cut = none → stored = kept poison (builtIn request batch b)) ∧
    storeAfter rt parsers today settings request poison a store = store.fill stored := by
  obtain ⟨received, hprefix, hall, hstore⟩ :=
    deliver_kept poison a.cut (builtIn request batch a) ⟨store, 0⟩
  refine ⟨kept poison received, ?_, ?_, ?_⟩
  · rw [kept_builtIn b a]
    exact kept_isPrefix hprefix
  · intro hnone
    rw [hall hnone, kept_builtIn a b]
  · rw [storeAfter, attemptRun_eq hadm hbinding, finished, ← hstore]
    cases (Delivery.deliver (pushToCore poison a.cut) PyExc.isPoisonRecordError
      (builtIn request batch a) ⟨store, 0⟩).1.failure <;> rfl

/-- Interrupted attempts leave nothing that the whole batch would not store. -/
theorem storeAfterAll_fill (attempts : List Attempt) (b : Attempt) (store : CoreStore) :
    (storeAfterAll rt parsers today settings request poison attempts store).fill
        (kept poison (builtIn request batch b)) =
      store.fill (kept poison (builtIn request batch b)) := by
  induction attempts generalizing store with
  | nil => rfl
  | cons a attempts ih =>
    obtain ⟨stored, hprefix, _, hstore⟩ := storeAfter_eq poison hadm hbinding a b store
    change (storeAfterAll rt parsers today settings request poison attempts
      (storeAfter rt parsers today settings request poison a store)).fill _ = _
    rw [ih, hstore, Dict.fill_fill_of_prefix hprefix]

theorem published_getElem? {a : Attempt} {store : CoreStore} {i : ℕ} {cr : CanonicalRecord Empty}
    (h : (published rt parsers today settings request poison a store)[i]? = some cr) :
    ∃ r, batch.records[i]? = some r ∧ cr = builtRecord request.context a.fresh batch (r, i) := by
  have hcalls := calls_admitted (attempt_admitted hadm a)
    (get_publisher_const hbinding (pushToCore poison a.cut)) (attempt_built hadm a) ⟨store, 0⟩
  obtain ⟨rest, hrest⟩ := Delivery.attempted_isPrefix (pushToCore poison a.cut) PyExc.isPoisonRecordError
    (builtIn request batch a) ⟨store, 0⟩
  rw [published, hcalls] at h
  have hbuilt : (builtIn request batch a)[i]? = some cr := by
    rw [← hrest, List.getElem?_append_left (List.getElem?_eq_some_iff.mp h).1]
    exact h
  exact build_ok_getElem? (fun r hr => (standard_typed hadm.requested r hr).known_type)
    (attempt_built hadm a) hbuilt

/-- Interrupted attempts and a last complete one leave Core as one uninterrupted run does, and any
two attempts publish a record under the same hash and message id. -/
theorem retries_end_as_one_run (interrupted : List Attempt) (last single : ℕ → Fresh) (store : CoreStore) :
    storeAfterAll rt parsers today settings request poison (interrupted ++ [⟨last, none⟩]) store =
        storeAfter rt parsers today settings request poison ⟨single, none⟩ store ∧
      ∀ (a b : Attempt) (s s' : CoreStore) (i : ℕ) x y,
        (published rt parsers today settings request poison a s)[i]? = some x →
        (published rt parsers today settings request poison b s')[i]? = some y →
        x.source_metadata.source_hash = y.source_metadata.source_hash ∧
          x.source_metadata.source_message_id = y.source_metadata.source_message_id := by
  constructor
  · obtain ⟨stored, _, hall, hsingle⟩ :=
      storeAfter_eq poison hadm hbinding ⟨single, none⟩ ⟨single, none⟩ store
    obtain ⟨stored', _, hall', hlast⟩ := storeAfter_eq poison hadm hbinding ⟨last, none⟩
      ⟨single, none⟩ (storeAfterAll rt parsers today settings request poison interrupted store)
    rw [storeAfterAll, List.foldl_append, hsingle, hall rfl]
    change storeAfter rt parsers today settings request poison ⟨last, none⟩
      (storeAfterAll rt parsers today settings request poison interrupted store) = _
    rw [hlast, hall' rfl, storeAfterAll_fill hadm hbinding]
  · intro a b s s' i x y hx hy
    obtain ⟨r, hr, rfl⟩ := published_getElem? hadm hbinding hx
    obtain ⟨r', hr', rfl⟩ := published_getElem? hadm hbinding hy
    rw [hr] at hr'
    cases hr'
    exact ⟨rfl, rfl⟩

end Admitted

end Attempts

def unavailable : Cut where
  index := 1
  received := true
  outcome := .response 503 "unavailable"
  stops := rfl

theorem repeatedBatch_admitted : Admitted leastService openSettings
    (manualRequest [manualAccount, otherAccount, manualAccount]) repeatedBatch :=
  ⟨rfl, repeatedBatch_requested, by decide, rfl⟩

theorem repeated_retried :
    storeAfterAll leastDraws refuseDates newYear openSettings
        (manualRequest [manualAccount, otherAccount, manualAccount]) (fun t _ => t = .cash_flow)
        ([⟨fun _ => someFresh, some unavailable⟩] ++ [⟨fun i => { someFresh with event_id := ⟨i⟩ }, none⟩]) [] =
      storeAfter leastDraws refuseDates newYear openSettings
        (manualRequest [manualAccount, otherAccount, manualAccount]) (fun t _ => t = .cash_flow)
        ⟨fun _ => someFresh, none⟩ [] :=
  (retries_end_as_one_run repeatedBatch_admitted (by decide) _ _ _ _).1

end AtlasConnectors
