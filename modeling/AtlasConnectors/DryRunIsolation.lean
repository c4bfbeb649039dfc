import AtlasConnectors.DryRun

/-! What a dry run has to do with the publisher: two settings that differ in the publisher only. -/
namespace AtlasConnectors

open Raising

variable {π : Type}

inductive PublisherEvent
  | constructed (binding : PublisherBinding)
  | published (record : CanonicalRecord Empty)

def tracedPort (publisher : PublisherPort Empty π) : PublisherPort Empty (π × List PublisherEvent) :=
  fun record s =>
    match publisher record s.1 with
    | .ok u t => .ok u (t, s.2 ++ [.published record])
    | .error e t => .error e (t, s.2 ++ [.published record])

/-- A construction that is traced, also where it raises. -/
def tracedConstruct (construct : PublisherBinding → Except PyExc (PublisherPort Empty π))
    (binding : PublisherBinding) :
    EStateM PyExc (π × List PublisherEvent) (PublisherPort Empty (π × List PublisherEvent)) :=
  fun s =>
    match construct binding with
    | .ok publisher => .ok (tracedPort publisher) (s.1, s.2 ++ [.constructed binding])
    | .error e => .error e (s.1, s.2 ++ [.constructed binding])

def tracedPublisher (construct : PublisherBinding → Except PyExc (PublisherPort Empty π)) (settings : SimSettings) :
    EStateM PyExc (π × List PublisherEvent) (Option (PublisherPort Empty (π × List PublisherEvent))) :=
  match publisherBinding settings with
  | some binding => some <$> tracedConstruct construct binding
  | none => pure none

/-- The route, whose dependencies are resolved before its body. -/
def tracedRoute (svc : SimService) (construct : PublisherBinding → Except PyExc (PublisherPort Empty π))
    (settings : SimSettings) (request : DispatchRequest) :
    EStateM PyExc (π × List PublisherEvent) DispatchResponse := do
  let settings ← fromExcept (sim_gate settings)
  let publisher ← tracedPublisher construct settings
  dispatch svc settings publisher request

/-- The status and the body, before they are written: 200, that of an `HTTPException`, or 500 for every
other exception. -/
inductive HttpResult
  | ok (body : DispatchResponse)
  | error (status : ℕ) (detail : Json PyFloat)
  | internal

def httpResult {σ : Type} : EStateM.Result PyExc σ DispatchResponse → HttpResult
  | .ok response _ => .ok response
  | .error (.httpException status detail) _ => .error status detail
  | .error _ _ => .internal

def events : EStateM.Result PyExc (π × List PublisherEvent) DispatchResponse → List PublisherEvent
  | .ok _ t => t.2
  | .error _ t => t.2

structure SamePolicy (settings settings' : SimSettings) : Prop where
  enabled : settings'.enabled = settings.enabled
  environment : settings'.environment = settings.environment
  max_records_per_run : settings'.max_records_per_run = settings.max_records_per_run

def Closed (settings : SimSettings) : Prop := settings.enabled = false ∨ isProduction settings.environment = true

def Unconfigured (settings : SimSettings) : Prop :=
  (settings.gcp_project = "" ∨ settings.canonical_topic = "") ∧ settings.core_ingest_url = ""

/-- Two runs of one request answer alike, and neither constructs or calls a publisher. The runs
start from any states of the publishers and take their identifiers from any clock. -/
structure Isolated (svc : SimService) (fresh' : ℕ → Fresh)
    (construct : PublisherBinding → Except PyExc (PublisherPort Empty π)) (request : DispatchRequest)
    (settings settings' : SimSettings) (s s' : π) : Prop where
  same_result : httpResult (tracedRoute svc construct settings request (s, [])) =
    httpResult (tracedRoute { svc with fresh := fresh' } construct settings' request (s', []))
  untouched : events (tracedRoute svc construct settings request (s, [])) = []
  untouched' : events (tracedRoute { svc with fresh := fresh' } construct settings' request (s', [])) = []

theorem closed_iff {settings : SimSettings} : Closed settings ↔ sim_gate settings = httpError 404 (.str "Not Found") := by
  unfold sim_gate Closed
  by_cases h : (!settings.enabled || isProduction settings.environment) = true
  · rw [if_pos h]
    simpa using h
  · rw [if_neg h]
    constructor
    · intro hclosed
      exact absurd (by simpa using hclosed) h
    · rintro ⟨⟩

theorem open_of_not_closed {settings : SimSettings} (h : ¬Closed settings) : sim_gate settings = .ok settings := by
  rw [closed_iff] at h
  unfold sim_gate at h ⊢
  split_ifs at h ⊢ with hclosed
  · exact absurd rfl h
  · rfl

theorem unconfigured_iff {settings : SimSettings} : Unconfigured settings ↔ publisherBinding settings = none := by
  unfold publisherBinding Unconfigured
  by_cases hbroker : settings.gcp_project ≠ "" ∧ settings.canonical_topic ≠ ""
  · rw [if_pos hbroker]
    simp [hbroker.1, hbroker.2]
  · rw [if_neg hbroker]
    rw [not_and_or, not_not, not_not] at hbroker
    by_cases hurl : settings.core_ingest_url = ""
    · simp [hurl, hbroker]
    · simp [hurl]

section OneRun

variable {svc : SimService} {construct : PublisherBinding → Except PyExc (PublisherPort Empty π)}
  {settings settings' : SimSettings} {request : DispatchRequest}

/-- What a dry run answers when its dependencies are resolved. -/
def dryAnswer (svc : SimService) (settings : SimSettings) (request : DispatchRequest) : Except PyExc DispatchResponse :=
  (admission svc settings request).map fun batch =>
    .dry_run batch.records.length (batch.records.take PREVIEW_LIMIT) batch.ground_truth

theorem dispatch_dry_run {σ : Type} (hopen : ¬Closed settings) (hdry : request.dry_run = true)
    (publisher : Option (PublisherPort Empty σ)) (s : σ) :
    dispatch svc settings publisher request s = fromExcept (dryAnswer svc settings request) s := by
  rw [dispatch, dryAnswer, admission, open_of_not_closed hopen]
  cases requestedBatch svc request with
  | error e => rfl
  | ok batch =>
    rw [fromExcept_ok_bind]
    simp only [bind, Except.bind]
    split_ifs with hcap
    · rfl
    · rfl

theorem tracedRoute_closed (h : Closed settings) (s : π) :
    tracedRoute svc construct settings request (s, []) =
      .error (.httpException 404 (.str "Not Found")) (s, []) := by
  rw [tracedRoute, closed_iff.mp h, httpError, fromExcept_error_bind]

theorem tracedRoute_unconfigured (hopen : ¬Closed settings) (h : Unconfigured settings) (hdry : request.dry_run = true)
    (s : π) : tracedRoute svc construct settings request (s, []) =
      fromExcept (dryAnswer svc settings request) (s, []) := by
  rw [tracedRoute, open_of_not_closed hopen, fromExcept_ok_bind, tracedPublisher, unconfigured_iff.mp h]
  exact dispatch_dry_run hopen hdry none (s, [])

theorem tracedRoute_configured (hopen : ¬Closed settings) {binding : PublisherBinding}
    (h : publisherBinding settings = some binding) (hdry : request.dry_run = true) (s : π) :
    tracedRoute svc construct settings request (s, []) = match construct binding with
      | .ok _ => fromExcept (dryAnswer svc settings request) (s, [.constructed binding])
      | .error e => .error e (s, [.constructed binding]) := by
  rw [tracedRoute, open_of_not_closed hopen, fromExcept_ok_bind, tracedPublisher, h]
  change EStateM.bind (EStateM.map some (tracedConstruct construct binding)) _ (s, []) = _
  cases hconstruct : construct binding with
  | error e => simp only [EStateM.bind, EStateM.map, tracedConstruct, hconstruct, List.nil_append]
  | ok publisher =>
    simp only [EStateM.bind, EStateM.map, tracedConstruct, hconstruct, List.nil_append]
    exact dispatch_dry_run hopen hdry (some (tracedPort publisher)) (s, [.constructed binding])

theorem events_fromExcept (x : Except PyExc DispatchResponse) (t : π × List PublisherEvent) :
    events (fromExcept x t) = t.2 := by
  cases x <;> rfl

theorem httpResult_fromExcept {σ τ : Type} (x : Except PyExc DispatchResponse) (s : σ) (t : τ) :
    httpResult (fromExcept x s) = httpResult (fromExcept x t) := by
  cases x with
  | ok response => rfl
  | error e => cases e <;> rfl

theorem events_configured (hopen : ¬Closed settings) {binding : PublisherBinding}
    (h : publisherBinding settings = some binding) (hdry : request.dry_run = true) (s : π) :
    events (tracedRoute svc construct settings request (s, [])) = [.constructed binding] := by
  rw [tracedRoute_configured hopen h hdry]
  cases construct binding with
  | error e => rfl
  | ok publisher => exact events_fromExcept _ _

/-- The trace only watches: a dry run answers as the route does. -/
theorem httpResult_tracedRoute (hdry : request.dry_run = true) (s : π) :
    httpResult (tracedRoute svc construct settings request (s, [])) =
      httpResult (route svc construct settings request s) := by
  by_cases hclosed : Closed settings
  · rw [tracedRoute_closed hclosed, route, closed_iff.mp hclosed, httpError, fromExcept_error_bind]
    rfl
  · rw [route, open_of_not_closed hclosed, fromExcept_ok_bind, get_publisher]
    cases hbinding : publisherBinding settings with
    | none =>
      rw [tracedRoute_unconfigured hclosed (unconfigured_iff.mpr hbinding) hdry, fromExcept_ok_bind,
        dispatch_dry_run hclosed hdry]
      exact httpResult_fromExcept _ _ _
    | some binding =>
      rw [tracedRoute_configured hclosed hbinding hdry]
      dsimp only
      cases construct binding with
      | error e => cases e <;> rfl
      | ok publisher =>
        change _ = httpResult (dispatch svc settings (some publisher) request s)
        rw [dispatch_dry_run hclosed hdry]
        exact httpResult_fromExcept _ _ _

theorem SamePolicy.closed_iff (h : SamePolicy settings settings') : Closed settings' ↔ Closed settings := by
  unfold Closed
  rw [h.enabled, h.environment]

theorem SamePolicy.dryAnswer_eq (h : SamePolicy settings settings') (hopen : ¬Closed settings) (fresh' : ℕ → Fresh) :
    dryAnswer { svc with fresh := fresh' } settings' request = dryAnswer svc settings request := by
  have hopen' : ¬Closed settings' := mt h.closed_iff.mp hopen
  have hsame : requestedBatch { svc with fresh := fresh' } request = requestedBatch svc request := rfl
  unfold dryAnswer admission
  rw [open_of_not_closed hopen, open_of_not_closed hopen', hsame]
  simp only [bind, Except.bind, h.max_records_per_run]

end OneRun

/-- A dry run is isolated from the publisher exactly where the route is closed or both settings
name no publisher. -/
theorem isolated_iff (svc : SimService) (fresh' : ℕ → Fresh)
    (construct : PublisherBinding → Except PyExc (PublisherPort Empty π)) {request : DispatchRequest}
    (hdry : request.dry_run = true) {settings settings' : SimSettings} (hpolicy : SamePolicy settings settings')
    (s s' : π) :
    Isolated svc fresh' construct request settings settings' s s' ↔
      Closed settings ∨ (Unconfigured settings ∧ Unconfigured settings') := by
  have hunconfigured : ∀ (svc : SimService) (settings : SimSettings) (s : π), ¬Closed settings →
      events (tracedRoute svc construct settings request (s, [])) = [] → Unconfigured settings := by
    intro svc settings s hopen huntouched
    rw [unconfigured_iff]
    cases hbinding : publisherBinding settings with
    | none => rfl
    | some binding =>
      rw [events_configured hopen hbinding hdry] at huntouched
      cases huntouched
  constructor
  · intro h
    by_cases hclosed : Closed settings
    · exact Or.inl hclosed
    · have hopen' : ¬Closed settings' := mt hpolicy.closed_iff.mp hclosed
      exact Or.inr ⟨hunconfigured _ _ s hclosed h.untouched, hunconfigured _ _ s' hopen' h.untouched'⟩
  · intro h
    by_cases hclosed : Closed settings
    · have hclosed' := hpolicy.closed_iff.mpr hclosed
      constructor
      · rw [tracedRoute_closed hclosed, tracedRoute_closed hclosed']
        rfl
      · rw [tracedRoute_closed hclosed]
        rfl
      · rw [tracedRoute_closed hclosed']
        rfl
    · obtain ⟨hnone, hnone'⟩ := h.resolve_left hclosed
      have hopen' : ¬Closed settings' := mt hpolicy.closed_iff.mp hclosed
      constructor
      · rw [tracedRoute_unconfigured hclosed hnone hdry, tracedRoute_unconfigured hopen' hnone' hdry,
          hpolicy.dryAnswer_eq hclosed]
        exact httpResult_fromExcept _ _ _
      · rw [tracedRoute_unconfigured hclosed hnone hdry, events_fromExcept]
      · rw [tracedRoute_unconfigured hopen' hnone' hdry, events_fromExcept]

def dryRequest : DispatchRequest := { manualRequest [manualAccount] with dry_run := true }

def noPublisher : SimSettings := { openSettings with core_ingest_url := "" }

def projectOnly : SimSettings := { noPublisher with gcp_project := "atlas" }

def brokerSettings : SimSettings := { projectOnly with canonical_topic := "records" }

def withoutSdk : PublisherBinding → Except PyExc (PublisherPort Empty Unit)
  | .pubsub _ _ => .error (.other "ModuleNotFoundError")
  | .http_push _ => .ok acceptAll

theorem projectOnly_isolated :
    Isolated leastService leastService.fresh withoutSdk dryRequest noPublisher projectOnly () () := by
  have hpolicy : SamePolicy noPublisher projectOnly := ⟨rfl, rfl, rfl⟩
  have hdry : dryRequest.dry_run = true := rfl
  apply (isolated_iff leastService leastService.fresh withoutSdk hdry hpolicy () ()).mpr
  exact Or.inr ⟨⟨Or.inl rfl, rfl⟩, ⟨Or.inr rfl, rfl⟩⟩

/-- With a broker configured and its SDK missing a dry run answers 500, and without a publisher it
answers with the preview. -/
theorem missing_sdk_breaks_dry_run :
    httpResult (tracedRoute leastService withoutSdk brokerSettings dryRequest ((), [])) = .internal ∧
      httpResult (tracedRoute leastService withoutSdk noPublisher dryRequest ((), [])) =
        .ok (.dry_run 1 [courant.record] manualBatch.ground_truth) ∧
      SamePolicy noPublisher brokerSettings ∧
      ¬Isolated leastService leastService.fresh withoutSdk dryRequest noPublisher brokerSettings () () := by
  have hbroken : httpResult (tracedRoute leastService withoutSdk brokerSettings dryRequest ((), [])) = .internal := rfl
  have hpreview : httpResult (tracedRoute leastService withoutSdk noPublisher dryRequest ((), [])) =
      .ok (.dry_run 1 [courant.record] manualBatch.ground_truth) := rfl
  refine ⟨hbroken, hpreview, ⟨rfl, rfl, rfl⟩, ?_⟩
  intro h
  have hsame := h.same_result
  rw [hpreview] at hsame
  cases hsame.trans hbroken

end AtlasConnectors
