import AtlasConnectors.DryRun
import AtlasConnectors.Replay

/-! Two dispatches of one preset, one parameter map, one seed and one label publish the same payloads
when they run on one date in Paris; on two dates they need not. -/
namespace AtlasConnectors

/-- What decides the batch of an auto dispatch, besides the date. -/
structure SameRequest (request request' : DispatchRequest) : Prop where
  mode : request.mode = .auto
  mode' : request'.mode = .auto
  preset_id : request'.preset_id = request.preset_id
  params : request'.params = request.params
  seed : request'.seed = request.seed
  target_label : request'.target_label = request.target_label
  dry_run : request'.dry_run = request.dry_run

section Dates

variable {rt : PyRuntime} {parsers : DateParsers} {today : Date} {fresh fresh' : ℕ → Fresh} {π π' : Type}
  {construct : PublisherBinding → Except PyExc (PublisherPort Empty π)}
  {construct' : PublisherBinding → Except PyExc (PublisherPort Empty π')}
  {settings settings' : SimSettings} {request request' : DispatchRequest}

theorem SameRequest.requestedBatch (h : SameRequest request request') :
    requestedBatch (SimService.standard rt parsers today fresh') request' =
      requestedBatch (SimService.standard rt parsers today fresh) request := by
  rw [AtlasConnectors.requestedBatch, AtlasConnectors.requestedBatch, if_pos h.mode, if_pos h.mode',
    generate_auto, generate_auto, h.preset_id, h.params, h.seed, h.target_label]
  rfl

/-- On one date, accepted auto dispatches of the same request publish the same contents in order. -/
theorem same_date_same_contents (hsame : SameRequest request request') {s t : π} {s' t' : π'}
    {response response' : DispatchResponse}
    (hroute : route (SimService.standard rt parsers today fresh) construct settings request s =
      .ok response t)
    (hroute' : route (SimService.standard rt parsers today fresh') construct' settings' request' s' =
      .ok response' t') :
    List.Forall₂ SameContent
      (calls (SimService.standard rt parsers today fresh) construct settings request s)
      (calls (SimService.standard rt parsers today fresh') construct' settings' request' s') := by
  by_cases hdry : request.dry_run = true
  · rw [calls_dry_run hdry, calls_dry_run (hsame.dry_run.trans hdry)]
    exact .nil
  · have hreal : request.dry_run = false := by simpa using hdry
    obtain ⟨batch, built, hadm, hbuilt, hcalls⟩ := calls_accepted hreal hroute
    obtain ⟨batch', built', hadm', hbuilt', hcalls'⟩ := calls_accepted (hsame.dry_run.trans hreal) hroute'
    have hbatch : batch' = batch := by
      have hrequested : requestedBatch (SimService.standard rt parsers today fresh) request = .ok batch' :=
        hsame.requestedBatch.symm.trans hadm'.requested
      exact Except.ok.inj (hrequested.symm.trans hadm.requested)
    have hknown : ∀ r ∈ batch.records, r.1 ∈ SIM_RECORD_TYPES := fun r hr =>
      (standard_typed hadm.requested r hr).known_type
    obtain ⟨x, y, hx, hy, hcontent⟩ := built_sameContent (congrArg GeneratedBatch.records hbatch) hknown
      request.context request'.context fresh fresh'
    rw [hcalls, hcalls', ← Except.ok.inj (hx.symm.trans hbuilt), ← Except.ok.inj (hy.symm.trans hbuilt')]
    exact hcontent

end Dates

theorem SameContent.map_bytes {built built' : List (CanonicalRecord Empty)}
    (h : List.Forall₂ SameContent built built') :
    built.map (fun cr => canonical_payload_bytes cr.payload) =
      built'.map fun cr => canonical_payload_bytes cr.payload := by
  rw [← List.forall₂_eq_eq_eq, List.forall₂_map_left_iff, List.forall₂_map_right_iff]
  exact h.imp fun _ _ hcontent => hcontent.bytes

theorem second_of_january_range : 1 ≤ 2 ∧ 2 ≤ daysInMonth 2026 1 := by decide

def secondOfJanuary : Date := ⟨2026, 1, 2, year_2026_range, january_range, second_of_january_range⟩

def leastServiceOn (today : Date) : SimService :=
  SimService.standard leastDraws refuseDates today fun _ => someFresh

def flowRequest : DispatchRequest := autoRequest "connect.ingestion.v1" oneFlow

def flowBatch (today : Date) : GeneratedBatch :=
  ((ConnectIngestion.generator leastDraws).generate oneFlow 42 "Société" today).toOption.getD ⟨[], [], "json"⟩

theorem acceptAll_tolerable : Tolerable acceptAll := fun _ _ => Or.inl ⟨(), rfl⟩

theorem flow_published {today : Date} (h : admission (leastServiceOn today) openSettings flowRequest =
    .ok (flowBatch today)) :
    (∃ response t, route (leastServiceOn today) (fun _ => .ok acceptAll) openSettings flowRequest () =
        .ok response t) ∧
      (calls (leastServiceOn today) (fun _ => .ok acceptAll) openSettings flowRequest ()).map
        (fun cr => canonical_payload_bytes cr.payload) =
          (flowBatch today).records.map fun r => canonical_payload_bytes r.2 := by
  have hpub : get_publisher (fun _ => .ok acceptAll) openSettings = .ok (some acceptAll) := rfl
  obtain ⟨report, truth, t, hroute, _⟩ := real_run acceptAll_tolerable hpub rfl h ()
  obtain ⟨batch, built, hadm, hbuilt, hcalls⟩ := calls_accepted rfl hroute
  have hbatch : batch = flowBatch today :=
    Except.ok.inj (hadm.requested.symm.trans (admission_eq_ok.mp h).2.1)
  refine ⟨⟨_, t, hroute⟩, ?_⟩
  rw [← hbatch, ← (build_ok_shown hbuilt).1, List.map_map]
  exact congrArg (List.map fun cr : CanonicalRecord Empty => canonical_payload_bytes cr.payload) hcalls

theorem flow_admission {today : Date}
    (h : ((ConnectIngestion.generator leastDraws).generate oneFlow 42 "Société" today).toOption.isSome = true)
    (hcap : ((flowBatch today).records.length : ℤ) ≤ 5000) :
    admission (leastServiceOn today) openSettings flowRequest = .ok (flowBatch today) :=
  admission_eq_ok.mpr ⟨rfl, Raising.eq_ok_getD h _, hcap⟩

theorem newYear_admission :
    admission (leastServiceOn newYear) openSettings flowRequest = .ok (flowBatch newYear) :=
  flow_admission (by decide +kernel) (by decide +kernel)

theorem secondOfJanuary_admission :
    admission (leastServiceOn secondOfJanuary) openSettings flowRequest = .ok (flowBatch secondOfJanuary) :=
  flow_admission (by decide +kernel) (by decide +kernel)

def nightRequest : DispatchRequest :=
  { flowRequest with tenant_id := ⟨9⟩, batch_id := ⟨8⟩, trace_id := ⟨7⟩, generated_by := "night" }

theorem flow_same_contents : List.Forall₂ SameContent
    (calls (leastServiceOn newYear) (fun _ => .ok acceptAll) openSettings flowRequest ())
    (calls (leastServiceOn newYear) (fun _ => .ok acceptAll) openSettings nightRequest ()) := by
  have hpub : get_publisher (fun _ => .ok acceptAll) openSettings = .ok (some acceptAll) := rfl
  have hnight : admission (leastServiceOn newYear) openSettings nightRequest = .ok (flowBatch newYear) :=
    newYear_admission
  obtain ⟨_, _, _, hroute, _⟩ := real_run acceptAll_tolerable hpub rfl newYear_admission ()
  obtain ⟨_, _, _, hroute', _⟩ := real_run acceptAll_tolerable hpub rfl hnight ()
  have hsame : SameRequest flowRequest nightRequest := ⟨rfl, rfl, rfl, rfl, rfl, rfl, rfl⟩
  exact same_date_same_contents hsame hroute hroute'

/-- On two days the same request is accepted twice, with different contents. -/
theorem dates_change_contents :
    (∃ response t, route (leastServiceOn newYear) (fun _ => .ok acceptAll) openSettings flowRequest () =
      .ok response t) ∧
    (∃ response t, route (leastServiceOn secondOfJanuary) (fun _ => .ok acceptAll) openSettings flowRequest () =
      .ok response t) ∧
    ¬List.Forall₂ SameContent
      (calls (leastServiceOn newYear) (fun _ => .ok acceptAll) openSettings flowRequest ())
      (calls (leastServiceOn secondOfJanuary) (fun _ => .ok acceptAll) openSettings flowRequest ()) := by
  obtain ⟨haccepted, hbytes⟩ := flow_published newYear_admission
  obtain ⟨haccepted', hbytes'⟩ := flow_published secondOfJanuary_admission
  refine ⟨haccepted, haccepted', ?_⟩
  intro hsame
  have hequal := SameContent.map_bytes hsame
  rw [hbytes, hbytes'] at hequal
  revert hequal
  decide +kernel

end AtlasConnectors
