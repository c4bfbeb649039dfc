import AtlasConnectors.Kernel
import AtlasConnectors.Base64
import AtlasConnectors.Delivery

/-! The publisher port, its HTTP binding, and the loop that runs one adapter. -/
namespace AtlasConnectors

/-- A publisher with a state of its own; publishing may raise. -/
abbrev PublisherPort (φ π : Type) := CanonicalRecord φ → EStateM PyExc π Unit

/-- `PoisonRecordError` is a subclass of `HttpPushError`. -/
def PyExc.isPoisonRecordError : PyExc → Bool
  | .poisonRecordError _ => true
  | _ => false

def PyExc.isHttpPushError : PyExc → Bool
  | .httpPushError _ => true
  | .poisonRecordError _ => true
  | _ => false

variable {φ π : Type}

/-- A publisher that accepts every message. -/
def acceptAll : PublisherPort Empty Unit := fun _ _ => .ok () ()

theorem year_2026_range : 1 ≤ 2026 ∧ 2026 ≤ 9999 := by decide

theorem january_range : 1 ≤ 1 ∧ 1 ≤ 12 := by decide

theorem first_of_january_range : 1 ≤ 1 ∧ 1 ≤ daysInMonth 2026 1 := by decide

def someFresh : Fresh where
  event_id := ⟨1⟩
  trace_id := ⟨2⟩
  ingested_at := .midnight ⟨2026, 1, 1, year_2026_range, january_range, first_of_january_range⟩ (some 0)
  occurred_at := .midnight ⟨2026, 1, 1, year_2026_range, january_range, first_of_january_range⟩ (some 0)

/-- `s.rstrip("/")`. -/
def rstripSlash (s : String) : String :=
  String.ofList ((s.toList.reverse.dropWhile (· == '/')).reverse)

structure Post where
  url : String
  json : Json Empty
  traceHeader : String

/-- A response with its status and text, or an exception of the client's own. -/
inductive HttpOutcome
  | response (status_code : ℕ) (text : String)
  | raised (name : String)

/-- The Pub/Sub push envelope of a record whose JSON text is `json`. -/
def push_envelope (json : String) (record : CanonicalRecord φ) : Json Empty :=
  .obj [("message", .obj
    [("data", .str (String.ofList (b64encode (Json.utf8 json.toList)))),
      ("attributes", .obj
        [("trace_id", .str record.trace_id.str), ("tenant_id", .str record.tenant_id.str)])])]

/-- A publisher that posts to Core. `outcomes n` is the outcome of the client's post
number `n`; the state is the list of posts made. -/
structure HttpPushPublisher (φ : Type) where
  core_url : String
  model_dump_json : CanonicalRecord φ → String
  outcomes : ℕ → HttpOutcome

namespace HttpPushPublisher

variable (self : HttpPushPublisher φ)

def request (record : CanonicalRecord φ) : Post where
  url := rstripSlash self.core_url ++ "/events/canonical"
  json := push_envelope (self.model_dump_json record) record
  traceHeader := record.trace_id.str

/-- `self._client.post`. -/
def post (p : Post) : EStateM PyExc (List Post) (ℕ × String) := do
  let posts ← get
  set (posts ++ [p])
  match self.outcomes posts.length with
  | .response status_code text => pure (status_code, text)
  | .raised name => throw (.transportError name)

def publish : PublisherPort φ (List Post) := fun record => do
  let (status_code, text) ← self.post (self.request record)
  if status_code = 400 then
    throw (.poisonRecordError
      ("core rejected record as invalid: " ++ String.ofList (text.toList.take 200)))
  if ¬(200 ≤ status_code ∧ status_code < 300) then
    throw (.httpPushError ("core ingestion answered " ++ toString status_code))

end HttpPushPublisher

/-- The exception that publishing raises on an outcome of the post. -/
def HttpOutcome.failure : HttpOutcome → Option PyExc
  | .raised name => some (.transportError name)
  | .response status_code text =>
    if status_code = 400 then
      some (.poisonRecordError
        ("core rejected record as invalid: " ++ String.ofList (text.toList.take 200)))
    else if 200 ≤ status_code ∧ status_code < 300 then none
    else some (.httpPushError ("core ingestion answered " ++ toString status_code))

namespace HttpPushPublisher

variable (self : HttpPushPublisher φ)

theorem post_response {posts : List Post} {status_code : ℕ} {text : String} (p : Post)
    (h : self.outcomes posts.length = .response status_code text) :
    self.post p posts = .ok (status_code, text) (posts ++ [p]) := by
  change (match self.outcomes posts.length with
    | .response status_code text => pure (status_code, text)
    | .raised name => throw (.transportError name) : EStateM PyExc (List Post) (ℕ × String))
      (posts ++ [p]) = _
  rw [h]
  rfl

theorem post_raised {posts : List Post} {name : String} (p : Post)
    (h : self.outcomes posts.length = .raised name) :
    self.post p posts = .error (.transportError name) (posts ++ [p]) := by
  change (match self.outcomes posts.length with
    | .response status_code text => pure (status_code, text)
    | .raised name => throw (.transportError name) : EStateM PyExc (List Post) (ℕ × String))
      (posts ++ [p]) = _
  rw [h]
  rfl

theorem publish_eq (record : CanonicalRecord φ) (posts : List Post) : self.publish record posts =
    Delivery.respond (self.outcomes posts.length).failure (posts ++ [self.request record]) := by
  change EStateM.bind (self.post (self.request record)) _ posts = _
  cases h : self.outcomes posts.length with
  | raised name =>
    rw [EStateM.bind, self.post_raised _ h]
    rfl
  | response status_code text =>
    rw [EStateM.bind, self.post_response _ h]
    by_cases h400 : status_code = 400
    · subst h400
      rfl
    · by_cases hok : 200 ≤ status_code ∧ status_code < 300
      · simp only [HttpOutcome.failure, h400, hok, not_true, and_self, if_false, if_true]
        rfl
      · simp only [HttpOutcome.failure, h400, hok, not_false_iff, if_false, if_true]
        rfl

end HttpPushPublisher

theorem HttpPushPublisher.sends_request (self : HttpPushPublisher φ) (record : CanonicalRecord φ) :
    Delivery.Sends self.publish record (self.request record) := fun posts => ⟨_, self.publish_eq record posts⟩

/-- A connector: what `extract` yields, and the exception that ends it, if any. -/
structure Connector (φ : Type) where
  source_system : String
  yields : List (RawRecord φ)
  failure : Option PyExc

/-- The canonical record that `run_adapter` builds from a raw one. -/
def adapterRecord (tenant_id : UUID) (fresh : Fresh) (raw : RawRecord φ) :
    Except PyExc (CanonicalRecord φ) := do
  let record_type ← canonicalRecordType raw.record_type
  pure { event_id := fresh.event_id, tenant_id := tenant_id, record_type := record_type,
         payload := raw.payload, source_metadata := stamp raw fresh.ingested_at,
         trace_id := fresh.trace_id, occurred_at := fresh.occurred_at }

/-- The body of the runner's loop, on a raw record and its position. -/
def publishRaw (publisher : PublisherPort φ π) (tenant_id : UUID) (fresh : ℕ → Fresh)
    (item : RawRecord φ × ℕ) : EStateM PyExc π Unit := do
  let record ← Raising.fromExcept (adapterRecord tenant_id (fresh item.2) item.1)
  publisher record

/-- The runner's loop; `fresh i` is what record number `i` takes from the clock and `uuid4`. -/
def publishAll (publisher : PublisherPort φ π) (tenant_id : UUID) (fresh : ℕ → Fresh)
    (raws : List (RawRecord φ)) : EStateM PyExc π ℕ :=
  raws.zipIdx.foldlM (fun published item => do
    publishRaw publisher tenant_id fresh item
    pure (published + 1)) 0

/-- Extract everything the connector yields, stamp it, publish it. -/
def run_adapter (publisher : PublisherPort φ π) (tenant_id : UUID) (fresh : ℕ → Fresh)
    (connector : Connector φ) : EStateM PyExc π ℕ := do
  let published ← publishAll publisher tenant_id fresh connector.yields
  match connector.failure with
  | none => pure published
  | some e => throw e

/-- The runner delivers the connector's records and tolerates no exception. -/
theorem run_adapter_eq (publisher : PublisherPort φ π) (tenant_id : UUID) (fresh : ℕ → Fresh)
    (connector : Connector φ) (hend : connector.failure = none) (s : π) :
    run_adapter publisher tenant_id fresh connector s =
      Delivery.counted 0 (Delivery.deliver (publishRaw publisher tenant_id fresh) (fun _ => false)
        connector.yields.zipIdx s) := by
  rw [← Delivery.foldlM_count_eq]
  change EStateM.bind (publishAll publisher tenant_id fresh connector.yields) _ s =
    publishAll publisher tenant_id fresh connector.yields s
  simp only [EStateM.bind, hend]
  cases publishAll publisher tenant_id fresh connector.yields s with
  | ok published t => rfl
  | error e t => rfl

end AtlasConnectors
