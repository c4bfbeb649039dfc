import AtlasConnectors.AnomalyBatch
import AtlasConnectors.PoisonStream
import AtlasConnectors.PresetManifest

/-! The answer to an auto dispatch: its counts and its hashes are those of the records generated,
and the indices of its manifest carry the hashes of the records they name. -/
namespace AtlasConnectors

/-- Counts, hashes and manifest of the answer to a dispatch of `batch`, when attempt number `i` is
accepted or refused as `outcome i` says. -/
structure Answers (outcome : ℕ → Option String) (batch : GeneratedBatch) (report : EmitReport)
    (ground_truth : Payload PyFloat) : Prop where
  expected : report.expected = batch.records.length
  total : report.emitted + report.rejected = report.expected
  emitted : report.emitted = acceptances outcome batch.records.length
  length : report.source_hashes.length = report.expected
  source_hashes : ∀ (i : ℕ) r, batch.records[i]? = some r →
    report.source_hashes[i]? = some (source_hash (canonical_payload_bytes r.2), r.1)
  resolved : Json.EveryObject (Resolved (report.source_hashes.map Prod.fst)) (.obj ground_truth)

theorem built_resolved {batch : GeneratedBatch} (h : PointsInto batch.records.length batch.ground_truth)
    {built : List (CanonicalRecord Empty)} (hlength : built.length = batch.records.length) :
    Json.EveryObject (Resolved ((built.map hashEntry).map Prod.fst)) (.obj (enrich_ground_truth
      batch.ground_truth (built.map fun cr => cr.source_metadata.source_hash))) := by
  have hhashes : (built.map hashEntry).map Prod.fst = built.map fun cr => cr.source_metadata.source_hash := by
    rw [List.map_map]
    rfl
  rw [hhashes]
  apply enrich_resolved
  rwa [List.length_map, hlength]

section Answers

variable {rt : PyRuntime} {parsers : DateParsers} {today : Date} {fresh : ℕ → Fresh}
  {construct : PublisherBinding → Except PyExc (PublisherPort Empty (List (CanonicalRecord Empty)))}
  {settings : SimSettings} {request : DispatchRequest} {outcome : ℕ → Option String}
  {report : EmitReport} {ground_truth : Payload PyFloat} {attempts : List (CanonicalRecord Empty)}

theorem route_scripted {svc : SimService} {batch : GeneratedBatch} (hadm : Admitted svc settings request batch)
    (hpub : get_publisher construct settings = .ok (some (scripted outcome)))
    {built : List (CanonicalRecord Empty)}
    (hbuilt : build_canonical_records request.context svc.fresh batch = .ok built) :
    ∃ report, route svc construct settings request [] = .ok (.emitted report (enrich_ground_truth
        batch.ground_truth (built.map fun cr => cr.source_metadata.source_hash))) built ∧
      report.expected = built.length ∧ report.emitted = acceptances outcome built.length ∧
      report.emitted + report.rejected = built.length ∧ report.source_hashes = built.map hashEntry := by
  obtain ⟨hstate, hfail, hacc⟩ := deliver_scripted outcome built PyExc.isPoisonRecordError
    fun _ _ _ _ => rfl
  have hcounts := (Delivery.complete_of_failure_eq_none (scripted outcome)
    PyExc.isPoisonRecordError hfail).2
  rw [route_admitted hadm hpub hbuilt, finished, hfail, hstate]
  exact ⟨_, rfl, rfl, hacc, hcounts, rfl⟩

end Answers

def autoRequest (preset_id : String) (params : Params) : DispatchRequest :=
  { manualRequest [] with mode := .auto, preset_id := some preset_id, params := params, payload := none }

def refuseSecond (i : ℕ) : Option String := if i = 1 then some "core rejected record as invalid: " else none

def anomalyRequest : DispatchRequest := autoRequest "finhub.anomaly.v1" FinhubAnomaly.oneAnomaly

theorem anomaly_admitted : Admitted leastService openSettings anomalyRequest
    (FinhubAnomaly.leastBatch FinhubAnomaly.oneAnomaly) where
  gate := rfl
  requested := FinhubAnomaly.oneAnomaly_generated
  cap := by decide +kernel
  real := rfl

end AtlasConnectors
