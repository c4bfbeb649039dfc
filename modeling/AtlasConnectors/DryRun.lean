import AtlasConnectors.EmittedManifest

/-! A dry run and the real run of one request: both pass the same checks, and the real run publishes
what the dry run shows. -/
namespace AtlasConnectors

open Raising

variable {π : Type}

/-- The checks before the two exits of the route: the gate, the request, then the cap. -/
def admission (svc : SimService) (settings : SimSettings) (request : DispatchRequest) :
    Except PyExc GeneratedBatch := do
  let settings ← sim_gate settings
  let batch ← requestedBatch svc request
  if settings.max_records_per_run < batch.records.length then
    throw (capError batch.records.length settings.max_records_per_run)
  pure batch

def exitOf (svc : SimService) (publisher : Option (PublisherPort Empty π)) (request : DispatchRequest)
    (batch : GeneratedBatch) : EStateM PyExc π DispatchResponse :=
  if request.dry_run then
    pure (.dry_run batch.records.length (batch.records.take PREVIEW_LIMIT) batch.ground_truth)
  else emitBatch svc publisher request batch

section Admission

variable {svc : SimService} {construct : PublisherBinding → Except PyExc (PublisherPort Empty π)}
  {settings : SimSettings} {request : DispatchRequest} {batch : GeneratedBatch}

theorem admission_eq_ok : admission svc settings request = .ok batch ↔ sim_gate settings = .ok settings ∧
    requestedBatch svc request = .ok batch ∧ (batch.records.length : ℤ) ≤ settings.max_records_per_run := by
  constructor
  · intro h
    unfold admission at h
    cases hgate : sim_gate settings with
    | error e =>
      rw [hgate] at h
      cases h
    | ok settings' =>
      obtain ⟨rfl, _, _⟩ := sim_gate_ok hgate
      cases hbatch : requestedBatch svc request with
      | error e =>
        rw [hgate, hbatch] at h
        cases h
      | ok batch' =>
        simp only [hgate, hbatch, bind, Except.bind] at h
        split_ifs at h with hcap
        cases h
        exact ⟨rfl, rfl, not_lt.mp hcap⟩
  · rintro ⟨hgate, hbatch, hcap⟩
    simp only [admission, hgate, hbatch, bind, Except.bind, if_neg (not_lt.mpr hcap)]
    rfl

theorem route_eq {publisher : Option (PublisherPort Empty π)}
    (hpub : get_publisher construct settings = .ok publisher) (s : π) :
    route svc construct settings request s = match admission svc settings request with
      | .ok batch => exitOf svc publisher request batch s
      | .error e => .error e s := by
  unfold admission
  cases hgate : sim_gate settings with
  | error e =>
    rw [route, hgate, fromExcept_error_bind]
    rfl
  | ok settings' =>
    obtain ⟨rfl, _, _⟩ := sim_gate_ok hgate
    rw [route_of_gate hgate hpub, dispatch]
    cases hbatch : requestedBatch svc request with
    | error e =>
      rw [fromExcept_error_bind]
      rfl
    | ok batch =>
      rw [fromExcept_ok_bind]
      simp only [bind, Except.bind, exitOf]
      split_ifs <;> rfl

end Admission

/-- A publisher that accepts a record or refuses it as poison. -/
def Tolerable (publisher : PublisherPort Empty π) : Prop :=
  ∀ record s, (∃ t, publisher record s = .ok () t) ∨
    ∃ msg t, publisher record s = .error (.poisonRecordError msg) t

theorem Tolerable.failure_eq_none {publisher : PublisherPort Empty π} (h : Tolerable publisher)
    (built : List (CanonicalRecord Empty)) (s : π) :
    (Delivery.deliver publisher PyExc.isPoisonRecordError built s).1.failure = none := by
  apply Delivery.failure_eq_none_of_tolerated
  intro record s e t he
  rcases h record s with ⟨u, hu⟩ | ⟨msg, u, hu⟩
  · rw [hu] at he
    cases he
  · rw [hu] at he
    cases he
    rfl

def shown (cr : CanonicalRecord Empty) : SimRecord := (cr.record_type.name, cr.payload)

structure Announced (expected_records : ℕ) (preview : List SimRecord) (ground_truth : Payload PyFloat)
    (handed : List (CanonicalRecord Empty)) (emitted_truth : Payload PyFloat) : Prop where
  length : handed.length = expected_records
  preview : preview = (handed.take (min expected_records PREVIEW_LIMIT)).map shown
  ground_truth : strip (.obj emitted_truth) = .obj ground_truth

section DryRun

variable {rt : PyRuntime} {parsers : DateParsers} {today : Date}
  {construct : PublisherBinding → Except PyExc (PublisherPort Empty π)} {settings : SimSettings}

theorem real_run {fresh : ℕ → Fresh} {publisher : PublisherPort Empty π} (htolerable : Tolerable publisher)
    (hpub : get_publisher construct settings = .ok (some publisher)) {request : DispatchRequest}
    (hreal : request.dry_run = false) {batch : GeneratedBatch}
    (h : admission (SimService.standard rt parsers today fresh) settings request = .ok batch) (s : π) :
    ∃ report truth t, route (SimService.standard rt parsers today fresh) construct settings request s =
        .ok (.emitted report truth) t ∧
      Announced batch.records.length (batch.records.take PREVIEW_LIMIT) batch.ground_truth
        (calls (SimService.standard rt parsers today fresh) construct settings request s) truth := by
  obtain ⟨hgate, hbatch, hcap⟩ := admission_eq_ok.mp h
  have hadm : Admitted (SimService.standard rt parsers today fresh) settings request batch :=
    ⟨hgate, hbatch, hcap, hreal⟩
  have hknown : ∀ r ∈ batch.records, r.1 ∈ SIM_RECORD_TYPES := fun r hr => (standard_typed hbatch r hr).known_type
  have hbuilt : build_canonical_records request.context fresh batch =
      .ok (batch.records.zipIdx.map (builtRecord request.context fresh batch)) :=
    build_canonical_records_eq hknown
  have hfail := htolerable.failure_eq_none
    (batch.records.zipIdx.map (builtRecord request.context fresh batch)) s
  have hcalls := (calls_admitted hadm hpub hbuilt s).trans
    (Delivery.complete_of_failure_eq_none publisher PyExc.isPoisonRecordError hfail).1
  have hroute := route_admitted hadm hpub hbuilt s
  rw [finished, hfail] at hroute
  refine ⟨_, _, _, hroute, ?_⟩
  exact {
    length := by rw [hcalls]; simp
    preview := by
      have hshown : (batch.records.zipIdx.map (builtRecord request.context fresh batch)).map shown =
          batch.records := (build_ok_shown hbuilt).1
      have hlength : (batch.records.zipIdx.map (builtRecord request.context fresh batch)).length =
          batch.records.length := by simp
      rw [hcalls, ← hlength, Nat.min_comm, ← List.take_eq_take_min, List.map_take, hshown]
    ground_truth := strip_enriched (requested_pointsInto hbatch) _ }

/-- A dry run fails exactly as the real run of the same request does, and where it answers, the real
run publishes what it announced. -/
theorem dry_run_predicts (fresh fresh' : ℕ → Fresh) {publisher : PublisherPort Empty π}
    (htolerable : Tolerable publisher) (hpub : get_publisher construct settings = .ok (some publisher))
    (request : DispatchRequest) (s s' : π) :
    (∀ e, (∃ t, route (SimService.standard rt parsers today fresh) construct settings
          { request with dry_run := true } s = .error e t) ↔
        ∃ t, route (SimService.standard rt parsers today fresh') construct settings
          { request with dry_run := false } s' = .error e t) ∧
      ∀ expected_records preview ground_truth t,
        route (SimService.standard rt parsers today fresh) construct settings
            { request with dry_run := true } s = .ok (.dry_run expected_records preview ground_truth) t →
          ∃ report truth t', route (SimService.standard rt parsers today fresh') construct settings
                { request with dry_run := false } s' = .ok (.emitted report truth) t' ∧
            Announced expected_records preview ground_truth
              (calls (SimService.standard rt parsers today fresh') construct settings
                { request with dry_run := false } s') truth := by
  -- neither the clock nor the exit asked for has a part in the checks
  have hsame : admission (SimService.standard rt parsers today fresh) settings { request with dry_run := true } =
      admission (SimService.standard rt parsers today fresh') settings { request with dry_run := false } := rfl
  have hdry : route (SimService.standard rt parsers today fresh) construct settings
      { request with dry_run := true } s = _ := route_eq hpub s
  have hreal : route (SimService.standard rt parsers today fresh') construct settings
      { request with dry_run := false } s' = _ := route_eq hpub s'
  rw [hsame] at hdry
  cases hadm : admission (SimService.standard rt parsers today fresh') settings
      { request with dry_run := false } with
  | error e =>
    rw [hadm] at hdry hreal
    rw [hdry, hreal]
    constructor
    · intro e'
      constructor
      · rintro ⟨_, ⟨⟩⟩
        exact ⟨s', rfl⟩
      · rintro ⟨_, ⟨⟩⟩
        exact ⟨s, rfl⟩
    · rintro _ _ _ _ ⟨⟩
  | ok batch =>
    rw [hadm] at hdry
    obtain ⟨report, truth, t', hrun, hannounced⟩ := real_run htolerable hpub rfl hadm s'
    rw [hdry, hrun]
    constructor
    · intro e
      constructor
      · rintro ⟨_, ⟨⟩⟩
      · rintro ⟨_, ⟨⟩⟩
    · rintro _ _ _ _ ⟨⟩
      exact ⟨report, truth, t', rfl, hannounced⟩

end DryRun

theorem scripted_tolerable (outcome : ℕ → Option String) : Tolerable (scripted outcome) := by
  intro record attempts
  cases h : outcome attempts.length with
  | none => exact Or.inl ⟨attempts ++ [record], by rw [scripted_respond, refusal, h]; rfl⟩
  | some msg => exact Or.inr ⟨msg, attempts ++ [record], by rw [scripted_respond, refusal, h]; rfl⟩

theorem anomaly_announced : ∃ report truth attempts,
    route leastService (fun _ => .ok (scripted refuseSecond)) openSettings anomalyRequest [] =
        .ok (.emitted report truth) attempts ∧
      Announced 12 ((FinhubAnomaly.leastBatch FinhubAnomaly.oneAnomaly).records.take 20)
        (FinhubAnomaly.leastBatch FinhubAnomaly.oneAnomaly).ground_truth
        (calls leastService (fun _ => .ok (scripted refuseSecond)) openSettings anomalyRequest []) truth := by
  have hpub : get_publisher (fun _ => .ok (scripted refuseSecond)) openSettings =
      .ok (some (scripted refuseSecond)) := rfl
  have hadm : admission leastService openSettings { anomalyRequest with dry_run := true } =
      .ok (FinhubAnomaly.leastBatch FinhubAnomaly.oneAnomaly) :=
    admission_eq_ok.mpr ⟨rfl, anomaly_admitted.requested, anomaly_admitted.cap⟩
  have hlength : (FinhubAnomaly.leastBatch FinhubAnomaly.oneAnomaly).records.length = 12 := by decide +kernel
  have hdry : route leastService (fun _ => .ok (scripted refuseSecond)) openSettings
      { anomalyRequest with dry_run := true } [] =
        .ok (.dry_run 12 ((FinhubAnomaly.leastBatch FinhubAnomaly.oneAnomaly).records.take 20)
          (FinhubAnomaly.leastBatch FinhubAnomaly.oneAnomaly).ground_truth) [] := by
    rw [route_eq hpub, hadm, ← hlength]
    rfl
  exact (dry_run_predicts (fun _ => someFresh) (fun _ => someFresh) (scripted_tolerable refuseSecond) hpub
    anomalyRequest [] []).2 12 _ _ [] hdry

end AtlasConnectors
