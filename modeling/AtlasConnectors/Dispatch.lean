import AtlasConnectors.Emitter
import AtlasConnectors.Registry

/-! The dispatch route: the gate, the two modes, the cap, the dry run and the emission. -/
namespace AtlasConnectors

open Raising

structure SimSettings where
  enabled : Bool
  environment : String
  core_ingest_url : String
  gcp_project : String
  canonical_topic : String
  max_records_per_run : ℤ

/-- `settings.environment.lower().startswith("prod")`; no character outside ASCII has one of
these letters as its lower case. -/
def isProduction (environment : String) : Bool :=
  "prod".toList.isPrefixOf (environment.toList.map Char.toLower)

def httpError {α : Type} (status : ℕ) (detail : Json PyFloat) : Except PyExc α :=
  .error (.httpException status detail)

/-- Every route answers 404 unless it is enabled and the environment is no production. -/
def sim_gate (settings : SimSettings) : Except PyExc SimSettings :=
  if !settings.enabled || isProduction settings.environment then httpError 404 (.str "Not Found")
  else .ok settings

inductive PublisherBinding
  | pubsub (project topic : String)
  | http_push (core_url : String)
  deriving DecidableEq

/-- The binding by settings, `none` when nothing is configured. -/
def publisherBinding (settings : SimSettings) : Option PublisherBinding :=
  if settings.gcp_project ≠ "" ∧ settings.canonical_topic ≠ "" then
    some (.pubsub settings.gcp_project settings.canonical_topic)
  else if settings.core_ingest_url ≠ "" then some (.http_push settings.core_ingest_url)
  else none

variable {π : Type}

/-- The publisher of the binding; constructing it may raise. -/
def get_publisher (construct : PublisherBinding → Except PyExc (PublisherPort Empty π))
    (settings : SimSettings) : Except PyExc (Option (PublisherPort Empty π)) :=
  match publisherBinding settings with
  | some binding => (construct binding).map some
  | none => .ok none

structure ManualRecord where
  record_type : String
  payload : Payload PyFloat

inductive Mode
  | auto | manual
  deriving DecidableEq, Repr

structure DispatchRequest where
  tenant_id : UUID
  batch_id : UUID
  trace_id : UUID
  mode : Mode
  preset_id : Option String
  params : Params
  seed : ℤ
  payload : Option (List ManualRecord)
  dry_run : Bool
  generated_by : String
  target_label : String

/-- What a request is served with: the registry, the models, the date in Paris, and what
record number `i` takes from the clock and `uuid4`. -/
structure SimService where
  registry : Dict String PresetGenerator
  models : SimModels
  today : Date
  fresh : ℕ → Fresh

/-- The service as it is imported: the seven presets and the three models. -/
def SimService.standard (rt : PyRuntime) (parsers : DateParsers) (today : Date) (fresh : ℕ → Fresh) :
    SimService where
  registry := REGISTRY rt
  models := SIM_MODELS parsers
  today := today
  fresh := fresh

def generate_auto (svc : SimService) (request : DispatchRequest) : Except PyExc GeneratedBatch :=
  match request.preset_id with
  | none => httpError 422 (.str "preset_id is required in auto mode")
  | some preset_id =>
    if preset_id = "" then httpError 422 (.str "preset_id is required in auto mode")
    else
      match svc.registry.lookup preset_id with
      | none => httpError 422 (.str ("unknown preset: " ++ preset_id))
      | some generator =>
        if generator.phase ≠ 1 then httpError 422 (.str ("preset not in Phase 1: " ++ preset_id))
        else generator.generate request.params request.seed request.target_label svc.today

/-- `exc.errors(include_url=False, include_context=False)`, one entry of it. -/
def FieldError.json (e : FieldError) : Json PyFloat :=
  .obj [("type", .str e.type), ("loc", .arr [.str e.loc]), ("msg", .str e.msg), ("input", e.input)]

/-- What the loop of manual mode makes of one element: a record, or the error it reports. -/
def checkItem (models : SimModels) (item : ManualRecord) : Except (Json PyFloat) SimRecord :=
  match models.table.lookup item.record_type with
  | none => .error (.str ("record_type not allowed: " ++ item.record_type))
  | some model =>
    match model item.payload with
    | .ok dumped => .ok (item.record_type, dumped)
    | .errors es => .error (.arr (es.map FieldError.json))

structure ManualState where
  records : List SimRecord
  errors : List (Json PyFloat)

def indexedError (i : ℕ) (error : Json PyFloat) : Json PyFloat :=
  .obj [("index", .int i), ("error", error)]

def validateStep (models : SimModels) (acc : ManualState) (item : ManualRecord × ℕ) : ManualState :=
  match checkItem models item.1 with
  | .ok r => { acc with records := acc.records ++ [r] }
  | .error e => { acc with errors := acc.errors ++ [indexedError item.2 e] }

def validate_manual (svc : SimService) (request : DispatchRequest) : Except PyExc GeneratedBatch :=
  match request.payload with
  | none => httpError 422 (.str "payload is required in manual mode")
  | some [] => httpError 422 (.str "payload is required in manual mode")
  | some items =>
    let acc := items.zipIdx.foldl (validateStep svc.models) ⟨[], []⟩
    if acc.errors ≠ [] then httpError 422 (.obj [("invalid_records", .arr acc.errors)])
    else .ok {
      records := acc.records
      ground_truth := [("mode", .str "manual"), ("expected_records", .int acc.records.length)]
      source_format := "json" }

def PREVIEW_LIMIT : ℕ := 20

inductive DispatchResponse
  | dry_run (expected_records : ℕ) (preview : List SimRecord) (ground_truth : Payload PyFloat)
  | emitted (report : EmitReport) (ground_truth : Payload PyFloat)

/-- `str(exc)` of the errors that a push raises. -/
def PyExc.message : PyExc → String
  | .httpPushError msg => msg
  | .poisonRecordError msg => msg
  | _ => ""

def DispatchRequest.context (request : DispatchRequest) : RunContext where
  tenant_id := request.tenant_id
  trace_id := request.trace_id
  batch_id := request.batch_id
  seed := request.seed
  preset_id := if request.mode = .auto then request.preset_id else none
  generated_by := request.generated_by

def requestedBatch (svc : SimService) (request : DispatchRequest) : Except PyExc GeneratedBatch :=
  if request.mode = .auto then generate_auto svc request else validate_manual svc request

def capError (n : ℕ) (cap : ℤ) : PyExc :=
  .httpException 422 (.str ("batch of " ++ NumberText.intText n ++ " records exceeds the cap of " ++
    NumberText.intText cap ++ " records per run"))

def unconfigured : PyExc :=
  .httpException 503 (.str ("no publisher configured " ++
    "(set ATLAS_SIM_CANONICAL_TOPIC or ATLAS_SIM_CORE_INGEST_URL)"))

/-- The `try` around the emission. -/
def emitOrFail (records : List (CanonicalRecord Empty)) (publisher : PublisherPort Empty π) :
    EStateM PyExc π EmitReport :=
  tryCatch (emit records publisher) fun e =>
    if e.isHttpPushError then throw (.httpException 502 (.str ("emission failed: " ++ e.message)))
    else throw e

def emitBatch (svc : SimService) (publisher : Option (PublisherPort Empty π)) (request : DispatchRequest)
    (batch : GeneratedBatch) : EStateM PyExc π DispatchResponse :=
  match publisher with
  | none => throw unconfigured
  | some publisher => do
    let records ← fromExcept (build_canonical_records request.context svc.fresh batch)
    let report ← emitOrFail records publisher
    pure (.emitted report (enrich_ground_truth batch.ground_truth (report.source_hashes.map Prod.fst)))

def dispatch (svc : SimService) (settings : SimSettings) (publisher : Option (PublisherPort Empty π))
    (request : DispatchRequest) : EStateM PyExc π DispatchResponse := do
  let batch ← fromExcept (requestedBatch svc request)
  if settings.max_records_per_run < batch.records.length then
    throw (capError batch.records.length settings.max_records_per_run)
  else if request.dry_run then
    pure (.dry_run batch.records.length (batch.records.take PREVIEW_LIMIT) batch.ground_truth)
  else emitBatch svc publisher request batch

/-- The route with its dependencies: the gate, then the publisher, then the body. -/
def route (svc : SimService) (construct : PublisherBinding → Except PyExc (PublisherPort Empty π))
    (settings : SimSettings) (request : DispatchRequest) : EStateM PyExc π DispatchResponse := do
  let settings ← fromExcept (sim_gate settings)
  let publisher ← fromExcept (get_publisher construct settings)
  dispatch svc settings publisher request

theorem generate_auto_ok {svc : SimService} {request : DispatchRequest} {batch : GeneratedBatch}
    (h : generate_auto svc request = .ok batch) : ∃ preset_id gen,
      request.preset_id = some preset_id ∧ svc.registry.lookup preset_id = some gen ∧ gen.phase = 1 ∧
      gen.generate request.params request.seed request.target_label svc.today = .ok batch := by
  unfold generate_auto at h
  cases hid : request.preset_id with
  | none =>
    rw [hid] at h
    cases h
  | some preset_id =>
    simp only [hid] at h
    split_ifs at h
    · cases h
    · cases hgen : svc.registry.lookup preset_id with
      | none =>
        rw [hgen] at h
        cases h
      | some gen =>
        simp only [hgen] at h
        split_ifs at h with hphase
        · cases h
        · exact ⟨preset_id, gen, rfl, hgen, not_not.mp hphase, h⟩

/-- An element of a manual payload has an allowed type and validates against its model. -/
def ItemValid (models : SimModels) (item : ManualRecord) : Prop :=
  ∃ model dumped, models.table.lookup item.record_type = some model ∧ model item.payload = .ok dumped

theorem checkItem_ok {models : SimModels} {item : ManualRecord} {r : SimRecord}
    (h : checkItem models item = .ok r) : r.1 = item.record_type ∧
      ∃ model, models.table.lookup item.record_type = some model ∧ model item.payload = .ok r.2 := by
  unfold checkItem at h
  cases hmodel : models.table.lookup item.record_type with
  | none =>
    rw [hmodel] at h
    cases h
  | some model =>
    simp only [hmodel] at h
    cases hdump : model item.payload with
    | errors es =>
      rw [hdump] at h
      cases h
    | ok dumped =>
      rw [hdump] at h
      cases h
      exact ⟨rfl, model, rfl, hdump⟩

theorem checkItem_error {models : SimModels} {item : ManualRecord} {e : Json PyFloat}
    (h : checkItem models item = .error e) : ¬ItemValid models item := by
  rintro ⟨model, dumped, hmodel, hdump⟩
  simp [checkItem, hmodel, hdump] at h

theorem checkItem_valid {models : SimModels} {item : ManualRecord} {r : SimRecord}
    (h : checkItem models item = .ok r) : ItemValid models item := by
  obtain ⟨_, model, hmodel, hdump⟩ := checkItem_ok h
  exact ⟨model, r.2, hmodel, hdump⟩

/-- The loop's invariant from element `i` on: the valid elements become records in order, and
the invalid ones are reported with their positions in order. -/
structure Validated (models : SimModels) (items : List (ManualRecord × ℕ)) (acc out : ManualState)
    (invalid : List (ManualRecord × ℕ)) : Prop where
  invalid_eq : ∀ it, it ∈ invalid ↔ it ∈ items ∧ ¬ItemValid models it.1
  sublist : invalid.Sublist items
  errors : ∃ es, out.errors = acc.errors ++ es ∧
    List.Forall₂ (fun it e => ∃ error, e = indexedError it.2 error) invalid es
  records : ∃ rs, out.records = acc.records ++ rs ∧
    (invalid = [] → List.Forall₂ (fun it r => checkItem models it.1 = .ok r) items rs)

theorem foldl_validateStep (models : SimModels) (items : List (ManualRecord × ℕ)) (acc : ManualState) :
    ∃ invalid, Validated models items acc (items.foldl (validateStep models) acc) invalid := by
  induction items generalizing acc with
  | nil =>
    exact ⟨[], by simp, List.Sublist.refl [], ⟨[], by simp, .nil⟩, ⟨[], by simp, fun _ => .nil⟩⟩
  | cons it items ih =>
    obtain ⟨invalid, h⟩ := ih (validateStep models acc it)
    rw [List.foldl_cons]
    cases hcheck : checkItem models it.1 with
    | ok r =>
      have hstep : validateStep models acc it = { acc with records := acc.records ++ [r] } := by
        simp only [validateStep, hcheck]
      have hvalid := checkItem_valid hcheck
      obtain ⟨es, hes, herr⟩ := h.errors
      obtain ⟨rs, hrs, hrec⟩ := h.records
      refine ⟨invalid, ?_, h.sublist.cons it, ⟨es, by rw [hes, hstep], herr⟩, ⟨r :: rs, ?_, ?_⟩⟩
      · intro it'
        rw [h.invalid_eq, List.mem_cons]
        constructor
        · rintro ⟨hmem, hbad⟩
          exact ⟨Or.inr hmem, hbad⟩
        · rintro ⟨rfl | hmem, hbad⟩
          · exact absurd hvalid hbad
          · exact ⟨hmem, hbad⟩
      · rw [hrs, hstep, List.append_assoc, List.singleton_append]
      · exact fun hnone => .cons hcheck (hrec hnone)
    | error e =>
      have hstep : validateStep models acc it =
          { acc with errors := acc.errors ++ [indexedError it.2 e] } := by
        simp only [validateStep, hcheck]
      have hbad := checkItem_error hcheck
      obtain ⟨es, hes, herr⟩ := h.errors
      obtain ⟨rs, hrs, _⟩ := h.records
      refine ⟨it :: invalid, ?_, h.sublist.cons_cons it, ⟨indexedError it.2 e :: es, ?_, ?_⟩,
        ⟨rs, by rw [hrs, hstep], by simp⟩⟩
      · intro it'
        rw [List.mem_cons, List.mem_cons, h.invalid_eq]
        constructor
        · rintro (rfl | ⟨hmem, hbad'⟩)
          · exact ⟨Or.inl rfl, hbad⟩
          · exact ⟨Or.inr hmem, hbad'⟩
        · rintro ⟨rfl | hmem, hbad'⟩
          · exact Or.inl rfl
          · exact Or.inr ⟨hmem, hbad'⟩
      · rw [hes, hstep, List.append_assoc, List.singleton_append]
      · exact .cons ⟨e, rfl⟩ herr

theorem validate_manual_ok {svc : SimService} {request : DispatchRequest} {batch : GeneratedBatch}
    (h : validate_manual svc request = .ok batch) : ∃ items, request.payload = some items ∧ items ≠ [] ∧
      List.Forall₂ (fun item r => checkItem svc.models item = .ok r) items batch.records := by
  unfold validate_manual at h
  cases hpayload : request.payload with
  | none =>
    rw [hpayload] at h
    cases h
  | some items =>
    cases items with
    | nil =>
      rw [hpayload] at h
      cases h
    | cons item items =>
      simp only [hpayload] at h
      obtain ⟨invalid, hval⟩ := foldl_validateStep svc.models (item :: items).zipIdx ⟨[], []⟩
      split_ifs at h with herrors
      · cases h
      · cases h
        refine ⟨item :: items, rfl, by simp, ?_⟩
        obtain ⟨es, hes, herr⟩ := hval.errors
        obtain ⟨rs, hrs, hrec⟩ := hval.records
        have hnone : invalid = [] := by
          rw [not_not.mp herrors] at hes
          cases hes
          cases herr
          rfl
        rw [hrs, List.nil_append]
        have hzip := hrec hnone
        rw [← List.zipIdx_map_fst 0 (item :: items), List.forall₂_map_left_iff]
        exact hzip

/-- The errors of a manual payload name the positions of its invalid elements, in order. -/
structure Reported (models : SimModels) (items : List ManualRecord) (errors : List (Json PyFloat))
    (positions : List ℕ) : Prop where
  increasing : positions.Pairwise (· < ·)
  mem_iff : ∀ i, i ∈ positions ↔ ∃ item, items[i]? = some item ∧ ¬ItemValid models item
  named : List.Forall₂ (fun i e => ∃ error, e = indexedError i error) positions errors

theorem Validated.reported {models : SimModels} {items : List ManualRecord} {out : ManualState}
    {invalid : List (ManualRecord × ℕ)} (h : Validated models items.zipIdx ⟨[], []⟩ out invalid) :
    Reported models items out.errors (invalid.map Prod.snd) := by
  obtain ⟨es, hes, herr⟩ := h.errors
  refine ⟨?_, ?_, ?_⟩
  · have hsub := h.sublist.map Prod.snd
    rw [List.zipIdx_map_snd] at hsub
    exact List.Pairwise.sublist hsub List.pairwise_lt_range'
  · intro i
    rw [List.mem_map]
    constructor
    · rintro ⟨⟨item, j⟩, hmem, rfl⟩
      obtain ⟨hzip, hbad⟩ := (h.invalid_eq _).mp hmem
      exact ⟨item, List.mem_zipIdx_iff_getElem?.mp hzip, hbad⟩
    · rintro ⟨item, hitem, hbad⟩
      exact ⟨(item, i), (h.invalid_eq _).mpr ⟨List.mem_zipIdx_iff_getElem?.mpr hitem, hbad⟩, rfl⟩
  · rw [hes, List.nil_append, List.forall₂_map_left_iff]
    exact herr

theorem validate_manual_invalid {svc : SimService} {request : DispatchRequest}
    {items : List ManualRecord} (hpayload : request.payload = some items)
    (hbad : ∃ item ∈ items, ¬ItemValid svc.models item) : ∃ errors positions,
      validate_manual svc request = httpError 422 (.obj [("invalid_records", .arr errors)]) ∧
        Reported svc.models items errors positions := by
  obtain ⟨item, hitem, hinvalid⟩ := hbad
  cases items with
  | nil => cases hitem
  | cons first rest =>
    obtain ⟨invalid, hval⟩ := foldl_validateStep svc.models (first :: rest).zipIdx ⟨[], []⟩
    refine ⟨_, _, ?_, hval.reported⟩
    obtain ⟨i, hi⟩ := List.mem_iff_getElem?.mp hitem
    have hmem : i ∈ invalid.map Prod.snd := (hval.reported.mem_iff i).mpr ⟨item, hi, hinvalid⟩
    have herrors : ((first :: rest).zipIdx.foldl (validateStep svc.models) ⟨[], []⟩).errors ≠ [] := by
      intro hnone
      have hnamed := hval.reported.named
      rw [hnone] at hnamed
      cases hnamed.length_eq ▸ List.length_pos_of_mem hmem
    simp only [validate_manual, hpayload, herrors, ne_eq, not_false_iff, if_true]

theorem table_cases {models : SimModels} {record_type : String} {model : SimModel}
    (h : models.table.lookup record_type = some model) :
    record_type = "bank_account" ∧ model = models.bank_account ∨
    record_type = "cash_flow" ∧ model = models.cash_flow ∨
    record_type = "financial_transaction" ∧ model = models.financial_transaction := by
  have hmem := Dict.mem_of_lookup h
  simpa [SimModels.table] using hmem

theorem typed_of_checkItem {parsers : DateParsers} {item : ManualRecord} {r : SimRecord}
    (h : checkItem (SIM_MODELS parsers) item = .ok r) : Typed r := by
  obtain ⟨htype, model, hmodel, hdump⟩ := checkItem_ok h
  obtain ⟨record_type, payload⟩ := r
  simp only at htype hdump
  rcases table_cases hmodel with ⟨hname, rfl⟩ | ⟨hname, rfl⟩ | ⟨hname, rfl⟩
  · obtain ⟨a, _, rfl⟩ := Checked.map_eq_ok.mp hdump
    rw [htype, hname]
    exact a.typed
  · obtain ⟨f, _, rfl⟩ := Checked.map_eq_ok.mp hdump
    rw [htype, hname]
    exact f.typed
  · obtain ⟨e, _, rfl⟩ := Checked.map_eq_ok.mp hdump
    rw [htype, hname]
    exact e.typed

theorem standard_typed {rt : PyRuntime} {parsers : DateParsers} {today : Date} {fresh : ℕ → Fresh}
    {request : DispatchRequest} {batch : GeneratedBatch}
    (h : requestedBatch (SimService.standard rt parsers today fresh) request = .ok batch) :
    ∀ r ∈ batch.records, Typed r := by
  unfold requestedBatch at h
  split_ifs at h
  · obtain ⟨preset_id, gen, _, hgen, _, hbatch⟩ := generate_auto_ok h
    exact preset_typed (mem_generators_of_lookup hgen).1 hbatch
  · obtain ⟨items, _, _, hrecords⟩ := validate_manual_ok h
    intro r hr
    obtain ⟨item, _, hcheck⟩ := exists_of_mem_right hrecords hr
    exact typed_of_checkItem hcheck

theorem Typed.known_type {r : SimRecord} (h : Typed r) : r.1 ∈ SIM_RECORD_TYPES := by
  simpa [SIM_RECORD_TYPES] using h.known

/-- A request that passes every check before the emission. -/
structure Admitted (svc : SimService) (settings : SimSettings) (request : DispatchRequest)
    (batch : GeneratedBatch) : Prop where
  gate : sim_gate settings = .ok settings
  requested : requestedBatch svc request = .ok batch
  cap : (batch.records.length : ℤ) ≤ settings.max_records_per_run
  real : request.dry_run = false

/-- What the route makes of an exception that ends an emission. -/
def routeError (e : PyExc) : PyExc :=
  if e.isHttpPushError then .httpException 502 (.str ("emission failed: " ++ e.message)) else e

def finished (batch : GeneratedBatch) (built : List (CanonicalRecord Empty))
    (d : Delivery.Report (CanonicalRecord Empty) PyExc × π) : EStateM.Result PyExc π DispatchResponse :=
  match d.1.failure with
  | none => .ok (.emitted ⟨built.length, d.1.accepted, d.1.rejected, built.map hashEntry⟩
      (enrich_ground_truth batch.ground_truth (built.map fun r => r.source_metadata.source_hash))) d.2
  | some e => .error (routeError e) d.2

theorem emitBatch_eq {svc : SimService} {publisher : PublisherPort Empty π} {request : DispatchRequest}
    {batch : GeneratedBatch} {built : List (CanonicalRecord Empty)}
    (h : build_canonical_records request.context svc.fresh batch = .ok built) (s : π) :
    emitBatch svc (some publisher) request batch s =
      finished batch built (Delivery.deliver publisher PyExc.isPoisonRecordError built s) := by
  have hemit := emit_eq built publisher s
  rw [emitBatch, h]
  change EStateM.bind (emitOrFail built publisher) _ s = _
  simp only [EStateM.bind, emitOrFail, tryCatch, tryCatchThe, MonadExceptOf.tryCatch,
    EStateM.tryCatch, hemit, reported, finished]
  cases (Delivery.deliver publisher PyExc.isPoisonRecordError built s).1.failure with
  | none =>
    have hhashes : (built.map hashEntry).map Prod.fst = built.map fun r => r.source_metadata.source_hash := by
      rw [List.map_map]
      rfl
    simp only [Nat.zero_add, List.nil_append, hhashes]
    rfl
  | some e =>
    simp only [routeError]
    cases e.isHttpPushError <;> rfl

theorem sim_gate_ok {settings settings' : SimSettings} (h : sim_gate settings = .ok settings') :
    settings' = settings ∧ settings.enabled = true ∧ isProduction settings.environment = false := by
  unfold sim_gate at h
  split_ifs at h with hclosed
  · cases h
  · cases h
    simp only [Bool.or_eq_true, not_or, Bool.not_eq_true', Bool.not_eq_false] at hclosed
    exact ⟨rfl, hclosed.1, by simpa using hclosed.2⟩

section Route

variable {svc : SimService} {construct : PublisherBinding → Except PyExc (PublisherPort Empty π)}
  {settings : SimSettings} {request : DispatchRequest} {batch : GeneratedBatch}

theorem route_of_gate (hgate : sim_gate settings = .ok settings)
    {publisher : Option (PublisherPort Empty π)}
    (hpub : get_publisher construct settings = .ok publisher) :
    route svc construct settings request = dispatch svc settings publisher request := by
  rw [route, hgate, fromExcept_ok_bind, hpub, fromExcept_ok_bind]

/-- An admitted request delivers the records built from its batch. -/
theorem route_admitted (h : Admitted svc settings request batch) {publisher : PublisherPort Empty π}
    (hpub : get_publisher construct settings = .ok (some publisher))
    {built : List (CanonicalRecord Empty)}
    (hbuilt : build_canonical_records request.context svc.fresh batch = .ok built) (s : π) :
    route svc construct settings request s =
      finished batch built (Delivery.deliver publisher PyExc.isPoisonRecordError built s) := by
  rw [route_of_gate h.gate hpub, dispatch, h.requested, fromExcept_ok_bind, if_neg (not_lt.mpr h.cap),
    if_neg (by simp [h.real]), emitBatch_eq hbuilt]

theorem route_cases (svc : SimService)
    (construct : PublisherBinding → Except PyExc (PublisherPort Empty π)) (settings : SimSettings)
    (request : DispatchRequest) (s : π) :
    (∃ batch publisher built, Admitted svc settings request batch ∧
      get_publisher construct settings = .ok (some publisher) ∧
      build_canonical_records request.context svc.fresh batch = .ok built) ∨
    (∃ response, route svc construct settings request s = .ok response s) ∨
    ∃ e, route svc construct settings request s = .error e s := by
  cases hgate : sim_gate settings with
  | error e => exact Or.inr (Or.inr ⟨e, by rw [route, hgate, fromExcept_error_bind]⟩)
  | ok settings' =>
    obtain ⟨rfl, _, _⟩ := sim_gate_ok hgate
    cases hpub : get_publisher construct settings' with
    | error e =>
      exact Or.inr (Or.inr ⟨e, by rw [route, hgate, fromExcept_ok_bind, hpub, fromExcept_error_bind]⟩)
    | ok publisher =>
      rw [route_of_gate hgate hpub, dispatch]
      cases hbatch : requestedBatch svc request with
      | error e => exact Or.inr (Or.inr ⟨e, by rw [fromExcept_error_bind]⟩)
      | ok batch =>
        rw [fromExcept_ok_bind]
        split_ifs with hcap hdry
        · exact Or.inr (Or.inr ⟨_, rfl⟩)
        · exact Or.inr (Or.inl ⟨_, rfl⟩)
        · cases publisher with
          | none => exact Or.inr (Or.inr ⟨_, rfl⟩)
          | some publisher =>
            cases hbuilt : build_canonical_records request.context svc.fresh batch with
            | error e =>
              exact Or.inr (Or.inr ⟨e, by rw [emitBatch, hbuilt, fromExcept_error_bind]⟩)
            | ok built =>
              exact Or.inl ⟨batch, publisher, built,
                ⟨hgate, hbatch, not_lt.mp hcap, by simpa using hdry⟩, rfl, hbuilt⟩

theorem accepted_cases {s t : π} {response : DispatchResponse}
    (h : route svc construct settings request s = .ok response t) :
    (request.dry_run = true ∧ ∃ n preview ground_truth, response = .dry_run n preview ground_truth) ∨
    ∃ batch publisher built, Admitted svc settings request batch ∧
      get_publisher construct settings = .ok (some publisher) ∧
      build_canonical_records request.context svc.fresh batch = .ok built := by
  cases hgate : sim_gate settings with
  | error e =>
    rw [route, hgate, fromExcept_error_bind] at h
    cases h
  | ok settings' =>
    obtain ⟨rfl, _, _⟩ := sim_gate_ok hgate
    cases hpub : get_publisher construct settings' with
    | error e =>
      rw [route, hgate, fromExcept_ok_bind, hpub, fromExcept_error_bind] at h
      cases h
    | ok publisher =>
      rw [route_of_gate hgate hpub, dispatch] at h
      cases hbatch : requestedBatch svc request with
      | error e =>
        rw [hbatch, fromExcept_error_bind] at h
        cases h
      | ok batch =>
        rw [hbatch, fromExcept_ok_bind] at h
        split_ifs at h with hcap hdry
        · cases h
        · cases h
          exact Or.inl ⟨hdry, _, _, _, rfl⟩
        · cases publisher with
          | none => cases h
          | some publisher =>
            cases hbuilt : build_canonical_records request.context svc.fresh batch with
            | error e =>
              rw [emitBatch, hbuilt, fromExcept_error_bind] at h
              cases h
            | ok built =>
              exact Or.inr ⟨batch, publisher, built,
                ⟨hgate, hbatch, not_lt.mp hcap, by simpa using hdry⟩, rfl, hbuilt⟩

theorem admitted_of_emitted {s t : π} {report : EmitReport} {ground_truth : Payload PyFloat}
    (h : route svc construct settings request s = .ok (.emitted report ground_truth) t) :
    ∃ batch publisher built, Admitted svc settings request batch ∧
      get_publisher construct settings = .ok (some publisher) ∧
      build_canonical_records request.context svc.fresh batch = .ok built := by
  rcases accepted_cases h with ⟨_, _, _, _, hresponse⟩ | hadmitted
  · cases hresponse
  · exact hadmitted

end Route

def recordedBinding (construct : PublisherBinding → Except PyExc (PublisherPort Empty π))
    (binding : PublisherBinding) :
    Except PyExc (PublisherPort Empty (π × List (CanonicalRecord Empty))) :=
  (construct binding).map Delivery.recorded

/-- The records that the route hands to `publish`, in order. -/
def calls (svc : SimService) (construct : PublisherBinding → Except PyExc (PublisherPort Empty π))
    (settings : SimSettings) (request : DispatchRequest) (s : π) : List (CanonicalRecord Empty) :=
  match route svc (recordedBinding construct) settings request (s, []) with
  | .ok _ t => t.2
  | .error _ t => t.2

section Calls

variable {svc : SimService} {construct : PublisherBinding → Except PyExc (PublisherPort Empty π)}
  {settings : SimSettings} {request : DispatchRequest} {batch : GeneratedBatch}

theorem get_publisher_recorded (construct : PublisherBinding → Except PyExc (PublisherPort Empty π))
    (settings : SimSettings) : get_publisher (recordedBinding construct) settings =
      (get_publisher construct settings).map (Option.map Delivery.recorded) := by
  unfold get_publisher recordedBinding
  cases publisherBinding settings with
  | none => rfl
  | some binding =>
    dsimp only
    cases construct binding <;> rfl

theorem calls_admitted (h : Admitted svc settings request batch) {publisher : PublisherPort Empty π}
    (hpub : get_publisher construct settings = .ok (some publisher))
    {built : List (CanonicalRecord Empty)}
    (hbuilt : build_canonical_records request.context svc.fresh batch = .ok built) (s : π) :
    calls svc construct settings request s =
      (Delivery.deliver publisher PyExc.isPoisonRecordError built s).1.attempted := by
  have hrec : get_publisher (recordedBinding construct) settings =
      .ok (some (Delivery.recorded publisher)) := by
    rw [get_publisher_recorded, hpub]
    rfl
  rw [calls, route_admitted h hrec hbuilt, Delivery.deliver_recorded, finished]
  cases (Delivery.deliver publisher PyExc.isPoisonRecordError built s).1.failure <;> rfl

theorem calls_cases (svc : SimService)
    (construct : PublisherBinding → Except PyExc (PublisherPort Empty π)) (settings : SimSettings)
    (request : DispatchRequest) (s : π) :
    calls svc construct settings request s = [] ∨
    ∃ batch publisher built, Admitted svc settings request batch ∧
      get_publisher construct settings = .ok (some publisher) ∧
      build_canonical_records request.context svc.fresh batch = .ok built := by
  rcases route_cases svc (recordedBinding construct) settings request (s, []) with h | ⟨_, h⟩ | ⟨_, h⟩
  · obtain ⟨batch, recorder, built, hadm, hrec, hbuilt⟩ := h
    rw [get_publisher_recorded] at hrec
    cases hpub : get_publisher construct settings with
    | error e =>
      rw [hpub] at hrec
      cases hrec
    | ok publisher =>
      cases publisher with
      | none =>
        rw [hpub] at hrec
        cases hrec
      | some publisher => exact Or.inr ⟨batch, publisher, built, hadm, rfl, hbuilt⟩
  · exact Or.inl (by rw [calls, h])
  · exact Or.inl (by rw [calls, h])

theorem calls_dry_run (h : request.dry_run = true) (s : π) :
    calls svc construct settings request s = [] := by
  rcases calls_cases svc construct settings request s with hnone | ⟨_, _, _, hadm, _⟩
  · exact hnone
  · rw [hadm.real] at h
    cases h

theorem calls_accepted {s t : π} {response : DispatchResponse} (hreal : request.dry_run = false)
    (h : route svc construct settings request s = .ok response t) : ∃ batch built,
      Admitted svc settings request batch ∧
      build_canonical_records request.context svc.fresh batch = .ok built ∧
      calls svc construct settings request s = built := by
  rcases accepted_cases h with ⟨hdry, _⟩ | ⟨batch, publisher, built, hadm, hpub, hbuilt⟩
  · rw [hreal] at hdry
    cases hdry
  · refine ⟨batch, built, hadm, hbuilt, ?_⟩
    rw [calls_admitted hadm hpub hbuilt s]
    rw [route_admitted hadm hpub hbuilt, finished] at h
    cases hfail : (Delivery.deliver publisher PyExc.isPoisonRecordError built s).1.failure with
    | none => exact (Delivery.complete_of_failure_eq_none _ _ hfail).1
    | some e =>
      rw [hfail] at h
      cases h

end Calls

end AtlasConnectors
