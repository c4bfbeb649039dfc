import AtlasConnectors.BatchSize
import AtlasConnectors.SentAnswers

/-! Which requests the service answers, which it refuses, and which break it. -/
namespace AtlasConnectors

open Raising

variable {π : Type}

/-- The exception is answered with its own status: it is an `HTTPException`, and its detail renders. -/
def PyExc.answered : PyExc → Bool
  | .httpException _ detail => renders detail
  | _ => false

theorem sent_internal_iff (encodes : Json PyFloat → Bool) (r : EStateM.Result PyExc π DispatchResponse) :
    (httpResult r).sent encodes = .internal ↔ (∃ e t, r = .error e t ∧ e.answered = false) ∨
      ∃ response t, r = .ok response t ∧ encodes response.json = false := by
  cases r with
  | ok response t => simp [httpResult, HttpResult.sent]
  | error e t =>
    cases e with
    | httpException status detail => simp [httpResult, HttpResult.sent, PyExc.answered]
    | _ => simp [httpResult, HttpResult.sent, PyExc.answered]

def Guarded (publisher : PublisherPort Empty π) : Prop :=
  ∀ record s e t, publisher record s = .error e t → e.isHttpPushError = true

/-- A request for a preset whose parameters its generation cannot take. -/
structure Breaking (rt : PyRuntime) (request : DispatchRequest) (gen : PresetGenerator) : Prop where
  mode : request.mode = .auto
  preset_id : request.preset_id = some gen.preset_id
  registered : gen ∈ generators rt
  params : Overflowing rt.fmt gen.param_schema request.params ∨ CountsNan rt.fmt gen.preset_id request.params

section Requested

variable {rt : PyRuntime} {parsers : DateParsers} {today : Date} {fresh : ℕ → Fresh}
  {request : DispatchRequest}

theorem lookup_registered {gen : PresetGenerator} (h : gen ∈ generators rt) :
    (REGISTRY rt).lookup gen.preset_id = some gen :=
  (Dict.lookup_eq_some_iff (REGISTRY_nodup rt)).mpr (List.mem_map_of_mem h)

theorem registered_names {gen : PresetGenerator} (h : gen ∈ generators rt) :
    gen.preset_id ≠ "" ∧ gen.phase = 1 := by
  revert gen
  apply forall_generators <;> simp [ConnectFirewall.generator, ConnectIngestion.generator,
    FinhubAnomaly.generator, FinhubCircuitBreaker.generator, FinhubConsolidation.generator,
    FinhubForecasting.generator, FinhubReconciliation.generator]

theorem requestedBatch_auto {gen : PresetGenerator} (hmode : request.mode = .auto)
    (hid : request.preset_id = some gen.preset_id) (hgen : gen ∈ generators rt) :
    requestedBatch (SimService.standard rt parsers today fresh) request =
      gen.generate request.params request.seed request.target_label today := by
  obtain ⟨hname, hphase⟩ := registered_names hgen
  have hlook : (SimService.standard rt parsers today fresh).registry.lookup gen.preset_id = some gen :=
    lookup_registered hgen
  rw [requestedBatch, if_pos hmode]
  simp only [generate_auto, hid, hlook]
  rw [if_neg hname, if_neg (by simp [hphase])]
  rfl

variable (parsers today fresh) in
theorem requestedBatch_checked (h : ∀ gen ∈ generators rt, ¬(request.mode = .auto ∧
      request.preset_id = some gen.preset_id)) :
    (∃ batch, requestedBatch (SimService.standard rt parsers today fresh) request = .ok batch) ∨
    (∃ text, requestedBatch (SimService.standard rt parsers today fresh) request = httpError 422 (.str text)) ∨
    ∃ items, request.mode = .manual ∧ request.payload = some items ∧
      requestedBatch (SimService.standard rt parsers today fresh) request = httpError 422 (.obj [("invalid_records",
        .arr (items.zipIdx.foldl (validateStep (SIM_MODELS parsers)) ⟨[], []⟩).errors)]) := by
  cases hmode : request.mode with
  | auto =>
    rw [requestedBatch, if_pos hmode]
    unfold generate_auto
    cases hid : request.preset_id with
    | none => exact Or.inr (Or.inl ⟨_, rfl⟩)
    | some preset_id =>
      dsimp only
      split_ifs with hname
      · exact Or.inr (Or.inl ⟨_, rfl⟩)
      · cases hlook : (SimService.standard rt parsers today fresh).registry.lookup preset_id with
        | none => exact Or.inr (Or.inl ⟨_, rfl⟩)
        | some gen =>
          obtain ⟨hgen, heq⟩ := mem_generators_of_lookup hlook
          exact absurd ⟨hmode, by rw [hid, heq]⟩ (h gen hgen)
  | manual =>
    rw [requestedBatch, if_neg (by simp [hmode])]
    unfold validate_manual
    split
    · exact Or.inr (Or.inl ⟨_, rfl⟩)
    · exact Or.inr (Or.inl ⟨_, rfl⟩)
    · rename_i items _ hpayload
      dsimp only
      split_ifs
      · exact Or.inr (Or.inr ⟨items, rfl, hpayload, rfl⟩)
      · exact Or.inl ⟨_, rfl⟩

variable (rt today fresh) in
theorem requestedBatch_echoes (h : EchoesNonFinite parsers request) : ∃ detail,
    requestedBatch (SimService.standard rt parsers today fresh) request = httpError 422 detail ∧
      renders detail = false := by
  obtain ⟨hmode, items, hpayload, item, hitem, error, hcheck, _⟩ := id h
  cases items with
  | nil => cases hitem
  | cons first rest =>
    refine ⟨_, ?_, (renders_errors_iff hmode hpayload).mpr h⟩
    obtain ⟨i, hi⟩ := List.mem_iff_getElem?.mp hitem
    have hmem := (mem_errors_iff (SIM_MODELS parsers) (first :: rest).zipIdx ⟨[], []⟩ (indexedError i error)).mpr
      (Or.inr ⟨(item, i), List.mem_zipIdx_iff_getElem?.mpr hi, error, hcheck, rfl⟩)
    have herrors := List.ne_nil_of_mem hmem
    simp only [requestedBatch, hmode, reduceCtorEq, if_false, validate_manual, hpayload, SimService.standard, herrors,
      ne_eq, not_false_iff, if_true]

variable (parsers fresh) in
/-- The checks of a request break exactly on the parameters that generation cannot take, and on a report
that echoes. -/
theorem requestedBatch_unanswered_iff (hroom : HasRoom today) :
    (∃ e, requestedBatch (SimService.standard rt parsers today fresh) request = .error e ∧
        e.answered = false) ↔ (∃ gen, Breaking rt request gen) ∨ EchoesNonFinite parsers request := by
  constructor
  · rintro ⟨e, he, hanswered⟩
    by_cases h : ∃ gen ∈ generators rt, request.mode = .auto ∧ request.preset_id = some gen.preset_id
    · obtain ⟨gen, hgen, hmode, hid⟩ := h
      rw [requestedBatch_auto hmode hid hgen] at he
      by_cases hbreaking : Breaking rt request gen
      · exact Or.inl ⟨gen, hbreaking⟩
      · have hsound : ¬(Overflowing rt.fmt gen.param_schema request.params ∨
            CountsNan rt.fmt gen.preset_id request.params) := fun h => hbreaking ⟨hmode, hid, hgen, h⟩
        rw [not_or] at hsound
        obtain ⟨b, hb⟩ := (preset_generates hgen request.params request.seed request.target_label
          hroom).batch hsound.1 hsound.2
        rw [hb] at he
        cases he
    · have hnone : ∀ gen ∈ generators rt, ¬(request.mode = .auto ∧ request.preset_id = some gen.preset_id) :=
        fun gen hgen hname => h ⟨gen, hgen, hname⟩
      rcases requestedBatch_checked parsers today fresh hnone with ⟨batch, hb⟩ | ⟨text, ht⟩ | ⟨items, hmode, hpayload, hd⟩
      · rw [hb] at he
        cases he
      · rw [ht] at he
        cases he
        cases hanswered
      · rw [hd] at he
        cases he
        exact Or.inr ((renders_errors_iff hmode hpayload).mp hanswered)
  · rintro (⟨gen, hbreaking⟩ | hechoes)
    · have hgenerates := preset_generates hbreaking.registered request.params request.seed request.target_label hroom
      rw [requestedBatch_auto hbreaking.mode hbreaking.preset_id hbreaking.registered]
      by_cases hover : Overflowing rt.fmt gen.param_schema request.params
      · exact ⟨_, hgenerates.overflow hover, rfl⟩
      · exact ⟨_, hgenerates.nan hover (hbreaking.params.resolve_left hover), rfl⟩
    · obtain ⟨detail, hdetail, hrenders⟩ := requestedBatch_echoes rt today fresh hechoes
      exact ⟨_, hdetail, hrenders⟩

end Requested

section Answers

variable {rt : PyRuntime} {parsers : DateParsers} {today : Date} {fresh : ℕ → Fresh}
  {construct : PublisherBinding → Except PyExc (PublisherPort Empty π)} {settings : SimSettings}
  {request : DispatchRequest}

theorem exitOf_served {publisher : Option (PublisherPort Empty π)}
    (hguarded : ∀ p, publisher = some p → Guarded p) {batch : GeneratedBatch}
    (hknown : ∀ r ∈ batch.records, r.1 ∈ SIM_RECORD_TYPES) (s : π) {e : PyExc} {t : π}
    (h : exitOf (SimService.standard rt parsers today fresh) publisher request batch s = .error e t) :
    e.answered = true := by
  unfold exitOf at h
  split_ifs at h
  · cases h
  · cases publisher with
    | none =>
      cases h
      rfl
    | some p =>
      rw [emitBatch_eq (build_canonical_records_eq hknown), finished] at h
      cases hfail : (Delivery.deliver p PyExc.isPoisonRecordError
          (batch.records.zipIdx.map (builtRecord request.context fresh batch)) s).1.failure with
      | none =>
        simp only [SimService.standard, hfail] at h
        cases h
      | some e' =>
        obtain ⟨record, u, v, hraised⟩ := Delivery.exists_raised _ _ hfail
        simp only [SimService.standard, hfail] at h
        cases h
        rw [routeError, if_pos (hguarded p rfl record u e' v hraised)]
        rfl

theorem exitOf_renders {publisher : Option (PublisherPort Empty π)} {batch : GeneratedBatch}
    (hknown : ∀ r ∈ batch.records, r.1 ∈ SIM_RECORD_TYPES) (htruth : renders (.obj batch.ground_truth) = true) (s : π)
    {response : DispatchResponse} {t : π}
    (h : exitOf (SimService.standard rt parsers today fresh) publisher request batch s = .ok response t) :
    renders response.json = true := by
  unfold exitOf at h
  split_ifs at h
  · cases h
    exact renders_dry_run _ _ htruth
  · cases publisher with
    | none => cases h
    | some p =>
      rw [emitBatch_eq (build_canonical_records_eq hknown), finished] at h
      cases hfail : (Delivery.deliver p PyExc.isPoisonRecordError
          (batch.records.zipIdx.map (builtRecord request.context fresh batch)) s).1.failure with
      | none =>
        simp only [SimService.standard, hfail] at h
        cases h
        exact renders_emitted _ htruth _
      | some e =>
        simp only [SimService.standard, hfail] at h
        cases h

/-- Which exceptions come out of the route without an answer: those of an open service that the checks of
the request raise. -/
theorem route_unanswered_iff {publisher : Option (PublisherPort Empty π)}
    (hpub : get_publisher construct settings = .ok publisher)
    (hguarded : ∀ p, publisher = some p → Guarded p) (request : DispatchRequest) (s : π) :
    (∃ e t, route (SimService.standard rt parsers today fresh) construct settings request s = .error e t ∧
        e.answered = false) ↔
      ¬Closed settings ∧ ∃ e, requestedBatch (SimService.standard rt parsers today fresh) request = .error e ∧
        e.answered = false := by
  rw [route_eq hpub]
  by_cases hclosed : Closed settings
  · have hadmission : admission (SimService.standard rt parsers today fresh) settings request =
        httpError 404 (.str "Not Found") := by
      rw [admission, closed_iff.mp hclosed]
      rfl
    rw [hadmission]
    constructor
    · rintro ⟨e, t, ⟨⟩, hanswered⟩
      cases hanswered
    · rintro ⟨hopen, _⟩
      exact absurd hclosed hopen
  · have hgate := open_of_not_closed hclosed
    cases hbatch : requestedBatch (SimService.standard rt parsers today fresh) request with
    | error e =>
      have hadmission : admission (SimService.standard rt parsers today fresh) settings request = .error e := by
        rw [admission, hgate, hbatch]
        rfl
      rw [hadmission]
      constructor
      · rintro ⟨_, _, ⟨⟩, hanswered⟩
        exact ⟨hclosed, e, rfl, hanswered⟩
      · rintro ⟨_, _, ⟨⟩, hanswered⟩
        exact ⟨e, s, rfl, hanswered⟩
    | ok batch =>
      constructor
      · rintro ⟨e, t, hrun, hanswered⟩
        exfalso
        cases hadmission : admission (SimService.standard rt parsers today fresh) settings request with
        | error e' =>
          rw [hadmission] at hrun
          cases hrun
          rw [admission, hgate, hbatch] at hadmission
          simp only [bind, Except.bind] at hadmission
          split_ifs at hadmission
          · cases hadmission
            cases hanswered
          · cases hadmission
        | ok batch' =>
          rw [hadmission] at hrun
          obtain ⟨_, hrequested, _⟩ := admission_eq_ok.mp hadmission
          have hserved := exitOf_served hguarded (fun r hr => (standard_typed hrequested r hr).known_type) s hrun
          rw [hserved] at hanswered
          cases hanswered
      · rintro ⟨_, e, ⟨⟩, _⟩

theorem route_renders {publisher : Option (PublisherPort Empty π)}
    (hpub : get_publisher construct settings = .ok publisher) (hscore : ¬NanScore rt request) {s t : π}
    {response : DispatchResponse}
    (h : route (SimService.standard rt parsers today fresh) construct settings request s = .ok response t) :
    renders response.json = true := by
  rw [route_eq hpub] at h
  cases hadmission : admission (SimService.standard rt parsers today fresh) settings request with
  | error e =>
    rw [hadmission] at h
    cases h
  | ok batch =>
    rw [hadmission] at h
    obtain ⟨_, hrequested, _⟩ := admission_eq_ok.mp hadmission
    exact exitOf_renders (fun r hr => (standard_typed hrequested r hr).known_type)
      (requested_renders hscore hrequested) s h

/-- The service sends a 500 exactly when it is open and the request is for a preset with parameters that
its generation cannot take, or the report on a manual payload repeats a number that JSON has no text for. -/
theorem internal_error_iff (hroom : HasRoom today) {encodes : Json PyFloat → Bool}
    (hencodes : ∀ j, renders j = true → encodes j = true) {publisher : Option (PublisherPort Empty π)}
    (hpub : get_publisher construct settings = .ok publisher)
    (hguarded : ∀ p, publisher = some p → Guarded p) (request : DispatchRequest) (hscore : ¬NanScore rt request)
    (s : π) :
    (httpResult (route (SimService.standard rt parsers today fresh) construct settings request s)).sent encodes =
        .internal ↔
      ¬Closed settings ∧ ((∃ gen, Breaking rt request gen) ∨ EchoesNonFinite parsers request) := by
  rw [sent_internal_iff, route_unanswered_iff hpub hguarded, requestedBatch_unanswered_iff parsers fresh hroom]
  constructor
  · rintro (h | ⟨response, t, hroute, hbody⟩)
    · exact h
    · rw [hencodes _ (route_renders hpub hscore hroute)] at hbody
      cases hbody
  · exact Or.inl

/-- The ingestion preset is asked for more records than the cap. -/
def PastCap (rt : PyRuntime) (settings : SimSettings) (request : DispatchRequest) (gen : PresetGenerator)
    (size : ℤ) : Prop :=
  gen.preset_id = "connect.ingestion.v1" ∧ settings.max_records_per_run < size ∧
    ∃ n_accounts flows_per_account p, size = n_accounts * (1 + flows_per_account) ∧
      ConnectIngestion.Sized rt.fmt request.params n_accounts flows_per_account p

structure Answered (request : DispatchRequest) (batch : GeneratedBatch) (response : DispatchResponse) : Prop where
  dry_run : request.dry_run = true →
    response = .dry_run batch.records.length (batch.records.take PREVIEW_LIMIT) batch.ground_truth
  emitted : request.dry_run = false → ∃ report truth, response = .emitted report truth ∧
    report.expected = batch.records.length ∧ report.emitted + report.rejected = batch.records.length

theorem ConnectIngestion.Sized.unique {fmt : FloatFormat} {params p p' : Params} {n n' flows flows' : ℤ}
    (h : ConnectIngestion.Sized fmt params n flows p) (h' : ConnectIngestion.Sized fmt params n' flows' p') :
    n = n' ∧ flows = flows' := by
  cases h.coerced.symm.trans h'.coerced
  exact ⟨Except.ok.inj (h.accounts.symm.trans h'.accounts), Except.ok.inj (h.flows.symm.trans h'.flows)⟩

/-- The only generated batch past a cap that holds 4001 records is one of the ingestion preset. -/
theorem pastCap_iff (hcap : 4001 ≤ settings.max_records_per_run) {gen : PresetGenerator}
    (hgen : gen ∈ generators rt) {batch : GeneratedBatch}
    (h : gen.generate request.params request.seed request.target_label today = .ok batch) (size : ℤ) :
    PastCap rt settings request gen size ↔
      size = batch.records.length ∧ settings.max_records_per_run < batch.records.length := by
  by_cases hname : gen.preset_id = "connect.ingestion.v1"
  · have hingestion : gen = ConnectIngestion.generator rt := by
      have hlook := lookup_registered hgen
      rw [hname] at hlook
      have hmem : ConnectIngestion.generator rt ∈ generators rt := by simp [generators]
      exact Option.some.inj (hlook.symm.trans (lookup_registered hmem))
    subst hingestion
    obtain ⟨n_accounts, flows_per_account, p, hsized, hlength⟩ := ConnectIngestion.length_records h
    constructor
    · rintro ⟨_, hlt, n, flows, p', hsize, hsized'⟩
      obtain ⟨rfl, rfl⟩ := hsized'.unique hsized
      rw [hlength]
      exact ⟨hsize, hsize ▸ hlt⟩
    · rintro ⟨rfl, hlt⟩
      exact ⟨rfl, hlt, n_accounts, flows_per_account, p, hlength, hsized⟩
  · have hle := length_records_le hgen hname h
    constructor
    · exact fun hpast => absurd hpast.1 hname
    · rintro ⟨_, hlt⟩
      omega

/-- With room for 4001 records and a publisher that only refuses poison, every request for a preset is
answered with its batch, unless its parameters break it or ask the ingestion preset for more than the cap.
The answer is sent as it is, but for a NaN that is supplied as a score. -/
theorem preset_request_answered (hroom : HasRoom today) {encodes : Json PyFloat → Bool}
    (hencodes : ∀ j, renders j = true → encodes j = true) (hopen : ¬Closed settings)
    (hcap : 4001 ≤ settings.max_records_per_run) {publisher : PublisherPort Empty π}
    (htolerable : Tolerable publisher) (hpub : get_publisher construct settings = .ok (some publisher))
    {gen : PresetGenerator} (hgen : gen ∈ generators rt) (hmode : request.mode = .auto)
    (hid : request.preset_id = some gen.preset_id) (hsound : ¬Breaking rt request gen) (s : π) :
    (∀ size, PastCap rt settings request gen size →
      route (SimService.standard rt parsers today fresh) construct settings request s =
        .error (capError size.toNat settings.max_records_per_run) s ∧
      ∃ detail, capError size.toNat settings.max_records_per_run = .httpException 422 detail ∧
        (httpResult (route (SimService.standard rt parsers today fresh) construct settings request s)).sent encodes =
          .error 422 detail) ∧
    ((∀ size, ¬PastCap rt settings request gen size) → ∃ batch response t,
      gen.generate request.params request.seed request.target_label today = .ok batch ∧
      route (SimService.standard rt parsers today fresh) construct settings request s = .ok response t ∧
      Answered request batch response ∧
      (¬NanScore rt request → (httpResult (route (SimService.standard rt parsers today fresh) construct settings
        request s)).sent encodes = .ok response)) := by
  have hclean : ¬(Overflowing rt.fmt gen.param_schema request.params ∨
      CountsNan rt.fmt gen.preset_id request.params) := fun h => hsound ⟨hmode, hid, hgen, h⟩
  rw [not_or] at hclean
  obtain ⟨batch, hbatch⟩ := (preset_generates hgen request.params request.seed request.target_label
    hroom).batch hclean.1 hclean.2
  have hpast := pastCap_iff hcap hgen hbatch
  have hgate := open_of_not_closed hopen
  have hrequested : requestedBatch (SimService.standard rt parsers today fresh) request = .ok batch :=
    (requestedBatch_auto hmode hid hgen).trans hbatch
  constructor
  · intro size hsize
    obtain ⟨rfl, hlt⟩ := (hpast size).mp hsize
    rw [route_of_gate hgate hpub, dispatch, hrequested, fromExcept_ok_bind, if_pos hlt]
    exact ⟨rfl, _, rfl, rfl⟩
  · intro hnone
    have hle : (batch.records.length : ℤ) ≤ settings.max_records_per_run := by
      by_contra hlt
      exact hnone _ ((hpast _).mpr ⟨rfl, not_le.mp hlt⟩)
    obtain ⟨response, t, hroute, hanswered⟩ : ∃ response t,
        route (SimService.standard rt parsers today fresh) construct settings request s = .ok response t ∧
          Answered request batch response := by
      cases hdry : request.dry_run with
      | true =>
        refine ⟨_, s, ?_, fun _ => rfl, fun hreal => ?_⟩
        · rw [route_of_gate hgate hpub, dispatch, hrequested, fromExcept_ok_bind, if_neg (not_lt.mpr hle),
            if_pos hdry]
          rfl
        · rw [hdry] at hreal
          cases hreal
      | false =>
        have hknown : ∀ r ∈ batch.records, r.1 ∈ SIM_RECORD_TYPES :=
          fun r hr => (standard_typed hrequested r hr).known_type
        have hbuilt : build_canonical_records request.context fresh batch =
            .ok (batch.records.zipIdx.map (builtRecord request.context fresh batch)) :=
          build_canonical_records_eq hknown
        have hfail := htolerable.failure_eq_none
          (batch.records.zipIdx.map (builtRecord request.context fresh batch)) s
        have hcounts := (Delivery.complete_of_failure_eq_none publisher PyExc.isPoisonRecordError hfail).2
        have hroute := route_admitted ⟨hgate, hrequested, hle, hdry⟩ hpub hbuilt s
        rw [finished, hfail] at hroute
        refine ⟨_, _, hroute, fun h => ?_, fun _ => ⟨_, _, rfl, ?_, ?_⟩⟩
        · rw [hdry] at h
          cases h
        · simp
        · simpa using hcounts
    refine ⟨batch, response, t, hbatch, hroute, hanswered, fun hscore => ?_⟩
    have hbody := hencodes _ (route_renders hpub hscore hroute)
    rw [hroute, httpResult, HttpResult.sent, if_pos hbody]

end Answers

def nanRequest : DispatchRequest := autoRequest "connect.firewall.v1" [("bad_ratio", .float .nan)]

def nanBalance : ManualRecord :=
  { manualAccount with payload := Dict.set manualAccount.payload "balance" (.float .nan) }

def defaultsRequest : DispatchRequest := autoRequest "connect.ingestion.v1" []

theorem acceptAll_guarded (p : PublisherPort Empty Unit) (h : some acceptAll = some p) : Guarded p := by
  cases h
  rintro record s e t ⟨⟩

theorem openSettings_open : ¬Closed openSettings := by
  rintro (⟨⟨⟩⟩ | h)
  exact absurd h (by decide)

theorem nanRequest_internal :
    (httpResult (route leastService (fun _ => .ok acceptAll) openSettings nanRequest ())).sent renders = .internal ∧
    (httpResult (route leastService (fun _ => .ok acceptAll) openSettings (manualRequest [nanBalance]) ())).sent
      renders = .internal := by
  constructor
  · refine (internal_error_iff newYear_hasRoom (fun _ h => h) rfl acceptAll_guarded nanRequest ?_ ()).mpr
      ⟨openSettings_open, Or.inl ⟨ConnectFirewall.generator leastDraws, rfl, rfl, List.mem_cons_self,
        Or.inr ⟨"bad_ratio", .float .nan, rfl, rfl, rfl⟩⟩⟩
    rintro ⟨_, hname, _⟩
    exact absurd hname (by decide)
  · refine (internal_error_iff newYear_hasRoom (fun _ h => h) rfl acceptAll_guarded (manualRequest [nanBalance])
      ?_ ()).mpr ⟨openSettings_open, Or.inr ⟨rfl, [nanBalance], rfl, nanBalance, List.mem_cons_self, _, rfl, rfl⟩⟩
    rintro ⟨hmode, _⟩
    cases hmode

theorem defaultsRequest_answered : ¬NanScore leastDraws defaultsRequest ∧ ∃ batch response t,
    (ConnectIngestion.generator leastDraws).generate [] 42 "Société" newYear = .ok batch ∧
      route leastService (fun _ => .ok acceptAll) openSettings defaultsRequest () = .ok response t ∧
        Answered defaultsRequest batch response ∧ (¬NanScore leastDraws defaultsRequest →
          (httpResult (route leastService (fun _ => .ok acceptAll) openSettings defaultsRequest ())).sent renders =
            .ok response) := by
  have hsound : ¬Breaking leastDraws defaultsRequest (ConnectIngestion.generator leastDraws) := by
    rintro ⟨_, _, _, ⟨spec, _, w, hw, _⟩ | ⟨name, w, hname, _⟩⟩
    · cases hw
    · cases hname
  refine ⟨fun hscore => absurd hscore.preset_id (by decide), ?_⟩
  refine (preset_request_answered newYear_hasRoom (fun _ h => h) openSettings_open (by decide)
    (fun _ _ => Or.inl ⟨(), rfl⟩) rfl
    (by simp [generators]) rfl rfl hsound ()).2 ?_
  rintro size ⟨_, hlt, n_accounts, flows_per_account, p, rfl, hsized⟩
  have hdefaults : ConnectIngestion.Sized binary64 [] 3 30 _ := ⟨rfl, rfl, rfl⟩
  obtain ⟨rfl, rfl⟩ := hsized.unique hdefaults
  exact absurd hlt (by decide)

end AtlasConnectors
