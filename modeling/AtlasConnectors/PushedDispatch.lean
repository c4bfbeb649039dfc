import AtlasConnectors.Wire

/-! The route with the HTTP binding: which outcomes of the posts it answers with 502. -/
namespace AtlasConnectors

/-- A response after which the emission goes on: an acceptance, or a poison record. -/
def HttpOutcome.goesOn : HttpOutcome → Bool
  | .response status_code _ => status_code = 400 || (200 ≤ status_code && status_code < 300)
  | .raised _ => false

theorem HttpOutcome.goesOn_iff (o : HttpOutcome) :
    o.goesOn = true ↔ ∀ e, o.failure = some e → e.isPoisonRecordError = true := by
  cases o with
  | raised name => simp [goesOn, failure, PyExc.isPoisonRecordError]
  | response status_code text =>
    by_cases h400 : status_code = 400
    · simp [goesOn, failure, h400, PyExc.isPoisonRecordError]
    · by_cases hok : 200 ≤ status_code ∧ status_code < 300
      · simp [goesOn, failure, h400, hok]
      · simp [goesOn, failure, h400, hok, PyExc.isPoisonRecordError]

theorem HttpOutcome.isHttpPushError_of_response {status_code : ℕ} {text : String} {e : PyExc}
    (h : (HttpOutcome.response status_code text).failure = some e) : e.isHttpPushError = true := by
  simp only [failure] at h
  split_ifs at h with h400 hok
  · cases h
    rfl
  · cases h
    rfl

/-- The first of `n` outcomes that stops the emission. -/
def FirstStop (outcomes : ℕ → HttpOutcome) (n k : ℕ) : Prop :=
  k < n ∧ (outcomes k).goesOn = false ∧ ∀ i < k, (outcomes i).goesOn = true

section Push

variable {self : HttpPushPublisher Empty} {built : List (CanonicalRecord Empty)}

theorem length_push (posts : List Post) (record : CanonicalRecord Empty) :
    (posts ++ [self.request record]).length = posts.length + 1 := by simp

/-- Outcome by outcome, what publishing raises. -/
def HttpPushPublisher.failureAt (self : HttpPushPublisher Empty) (n : ℕ) : Option PyExc :=
  (self.outcomes n).failure

theorem publish_respond (record : CanonicalRecord Empty) (posts : List Post) :
    self.publish record posts =
      Delivery.respond (self.failureAt posts.length) (posts ++ [self.request record]) :=
  self.publish_eq record posts

theorem deliver_posts (s : List Post) :
    (Delivery.deliver self.publish PyExc.isPoisonRecordError built s).2 = s ++
      (Delivery.deliver self.publish PyExc.isPoisonRecordError built s).1.attempted.map self.request := by
  rw [Delivery.deliver_state publish_respond, Delivery.foldl_log]

theorem deliver_goesOn (h : ∀ i < built.length, (self.outcomes i).goesOn = true) :
    (Delivery.deliver self.publish PyExc.isPoisonRecordError built []).1.failure = none ∧
      (Delivery.deliver self.publish PyExc.isPoisonRecordError built []).2 = built.map self.request := by
  have hfail : (Delivery.deliver self.publish PyExc.isPoisonRecordError built []).1.failure = none := by
    rw [Delivery.failure_eq_none_iff length_push publish_respond]
    intro i hi e he
    rw [List.length_nil, Nat.zero_add] at he
    exact (HttpOutcome.goesOn_iff _).mp (h i hi) e he
  refine ⟨hfail, ?_⟩
  rw [deliver_posts, (Delivery.complete_of_failure_eq_none _ _ hfail).1, List.nil_append]

theorem deliver_stop {k : ℕ} (h : FirstStop self.outcomes built.length k) : ∃ e,
    (self.outcomes k).failure = some e ∧ e.isPoisonRecordError = false ∧
      (Delivery.deliver self.publish PyExc.isPoisonRecordError built []).1.failure = some e ∧
      (Delivery.deliver self.publish PyExc.isPoisonRecordError built []).2 =
        (built.take (k + 1)).map self.request := by
  obtain ⟨hk, hstop, hbefore⟩ := h
  obtain ⟨e, he, hpoison⟩ : ∃ e, (self.outcomes k).failure = some e ∧ e.isPoisonRecordError = false := by
    by_contra hnone
    have hgoes : (self.outcomes k).goesOn = true := by
      apply (HttpOutcome.goesOn_iff _).mpr
      intro e he
      by_contra hpoison
      exact hnone ⟨e, he, by simpa using hpoison⟩
    rw [hstop] at hgoes
    cases hgoes
  have hout : self.failureAt (([] : List Post).length + k) = some e := by
    rw [List.length_nil, Nat.zero_add]
    exact he
  have htolerated : ∀ i < k, ∀ e', self.failureAt (([] : List Post).length + i) = some e' →
      e'.isPoisonRecordError = true := by
    intro i hi e' he'
    rw [List.length_nil, Nat.zero_add] at he'
    exact (HttpOutcome.goesOn_iff _).mp (hbefore i hi) e' he'
  obtain ⟨hfail, hattempted⟩ := Delivery.deliver_stops length_push publish_respond hk hout hpoison
    htolerated
  exact ⟨e, he, hpoison, hfail, by rw [deliver_posts, hattempted, List.nil_append]⟩

end Push

/-- The route posts the records up to the first outcome that stops it, and answers 502 for that
outcome and 200 without one. -/
def ReportsFailure (svc : SimService)
    (construct : PublisherBinding → Except PyExc (PublisherPort Empty (List Post)))
    (settings : SimSettings) (request : DispatchRequest) (self : HttpPushPublisher Empty)
    (built : List (CanonicalRecord Empty)) : Prop :=
  ((∀ i < built.length, (self.outcomes i).goesOn = true) → ∃ response,
    route svc construct settings request [] = .ok response (built.map self.request)) ∧
  ∀ k, FirstStop self.outcomes built.length k → ∃ detail,
    route svc construct settings request [] =
      .error (.httpException 502 detail) ((built.take (k + 1)).map self.request)

/-- A failed emission is reported exactly when it is a response that stops it. -/
theorem reportsFailure_iff {rt : PyRuntime} {parsers : DateParsers} {today : Date} {fresh : ℕ → Fresh}
    {construct : PublisherBinding → Except PyExc (PublisherPort Empty (List Post))}
    {settings : SimSettings} {request : DispatchRequest} {batch : GeneratedBatch}
    {self : HttpPushPublisher Empty}
    (h : Admitted (SimService.standard rt parsers today fresh) settings request batch)
    (hpub : get_publisher construct settings = .ok (some self.publish)) :
    ∃ built, build_canonical_records request.context fresh batch = .ok built ∧
      (ReportsFailure (SimService.standard rt parsers today fresh) construct settings request self built ↔
        ∀ k, FirstStop self.outcomes built.length k →
          ∃ status_code text, self.outcomes k = .response status_code text) := by
  have htyped := standard_typed h.requested
  have hbuilt : build_canonical_records request.context fresh batch = .ok _ :=
    build_canonical_records_eq fun r hr => (htyped r hr).known_type
  refine ⟨_, hbuilt, ?_⟩
  generalize batch.records.zipIdx.map (builtRecord request.context fresh batch) = built at hbuilt ⊢
  constructor
  · intro hreports k hstop
    cases hout : self.outcomes k with
    | response status_code text => exact ⟨status_code, text, rfl⟩
    | raised name =>
      obtain ⟨e, he, _, hfail, hposts⟩ := deliver_stop hstop
      obtain ⟨detail, hroute⟩ := hreports.2 k hstop
      rw [route_admitted h hpub hbuilt, finished, hfail] at hroute
      rw [hout] at he
      cases he
      cases hroute
  · intro hresponse
    constructor
    · intro hgoes
      obtain ⟨hfail, hposts⟩ := deliver_goesOn hgoes
      rw [route_admitted h hpub hbuilt, finished, hfail, hposts]
      exact ⟨_, rfl⟩
    · intro k hstop
      obtain ⟨status_code, text, hout⟩ := hresponse k hstop
      obtain ⟨e, he, hpoison, hfail, hposts⟩ := deliver_stop hstop
      have hpush : e.isHttpPushError = true := by
        rw [hout] at he
        exact HttpOutcome.isHttpPushError_of_response he
      have herror : routeError e = .httpException 502 (.str ("emission failed: " ++ e.message)) :=
        if_pos hpush
      rw [route_admitted h hpub hbuilt, finished, hfail, hposts]
      exact ⟨_, congrArg (fun e => EStateM.Result.error e _) herror⟩

/-- The HTTP binding whose posts all have one outcome. -/
def pushing (outcome : HttpOutcome) : HttpPushPublisher Empty where
  core_url := "http://core:8080"
  model_dump_json := compactDump
  outcomes := fun _ => outcome

theorem accepted_reportsFailure : ∃ built,
    build_canonical_records (manualRequest [manualAccount]).context leastService.fresh manualBatch =
      .ok built ∧
    ReportsFailure leastService (fun _ => .ok (pushing (.response 200 "")).publish) openSettings
      (manualRequest [manualAccount]) (pushing (.response 200 "")) built := by
  have hpub : get_publisher (fun _ => .ok (pushing (.response 200 "")).publish) openSettings =
      .ok (some (pushing (.response 200 "")).publish) := rfl
  obtain ⟨built, hbuilt, hiff⟩ := reportsFailure_iff manualBatch_admitted hpub
  exact ⟨built, hbuilt, hiff.mpr fun _ _ => ⟨200, "", rfl⟩⟩

/-- A connection error leaves the route as it is. -/
theorem refused_leaks : ∃ posts,
    route leastService (fun _ => .ok (pushing (.raised "ConnectError")).publish) openSettings
      (manualRequest [manualAccount]) [] = .error (.transportError "ConnectError") posts ∧
    ¬ReportsFailure leastService (fun _ => .ok (pushing (.raised "ConnectError")).publish) openSettings
      (manualRequest [manualAccount]) (pushing (.raised "ConnectError")) [manualRecord] := by
  have hroute : ∃ posts,
      route leastService (fun _ => .ok (pushing (.raised "ConnectError")).publish) openSettings
        (manualRequest [manualAccount]) [] = .error (.transportError "ConnectError") posts := by
    rw [route_admitted manualBatch_admitted rfl manualBatch_built]
    exact ⟨_, rfl⟩
  obtain ⟨posts, hposts⟩ := hroute
  refine ⟨posts, hposts, ?_⟩
  intro hreports
  obtain ⟨detail, hdetail⟩ := hreports.2 0 ⟨by simp, rfl, by simp⟩
  rw [hposts] at hdetail
  cases hdetail

end AtlasConnectors
