import AtlasConnectors.Dispatch

/-! Dispatch publishes a batch whose every element was checked, or nothing. -/
namespace AtlasConnectors

variable {π : Type}

/-- What mode a batch came from, and that it was accepted there. -/
inductive AcceptedBatch (svc : SimService) (request : DispatchRequest) (batch : GeneratedBatch) : Prop
  | auto (hmode : request.mode = .auto) (preset_id : String) (gen : PresetGenerator)
      (hid : request.preset_id = some preset_id) (hgen : svc.registry.lookup preset_id = some gen)
      (hphase : gen.phase = 1)
      (hbatch : gen.generate request.params request.seed request.target_label svc.today = .ok batch)
  | manual (hmode : request.mode = .manual) (items : List ManualRecord)
      (hpayload : request.payload = some items) (hne : items ≠ [])
      (hvalid : ∀ item ∈ items, ItemValid svc.models item)
      (hrecords : List.Forall₂ (fun item r => checkItem svc.models item = .ok r) items batch.records)

theorem acceptedBatch_of_ok {svc : SimService} {request : DispatchRequest} {batch : GeneratedBatch}
    (h : requestedBatch svc request = .ok batch) : AcceptedBatch svc request batch := by
  cases hmode : request.mode with
  | auto =>
    rw [requestedBatch, if_pos hmode] at h
    obtain ⟨preset_id, gen, hid, hgen, hphase, hbatch⟩ := generate_auto_ok h
    exact .auto hmode preset_id gen hid hgen hphase hbatch
  | manual =>
    rw [requestedBatch, if_neg (by simp [hmode])] at h
    obtain ⟨items, hpayload, hne, hrecords⟩ := validate_manual_ok h
    refine .manual hmode items hpayload hne ?_ hrecords
    intro item hitem
    obtain ⟨r, _, hr⟩ := Raising.exists_of_mem_left hrecords hitem
    exact checkItem_valid hr

/-- Everything that was checked before the first call, and what the calls are. -/
structure AllChecked (svc : SimService) (settings : SimSettings) (request : DispatchRequest)
    (log : List (CanonicalRecord Empty)) : Prop where
  enabled : settings.enabled = true
  environment : isProduction settings.environment = false
  real : request.dry_run = false
  exists_batch : ∃ batch built, AcceptedBatch svc request batch ∧
    (batch.records.length : ℤ) ≤ settings.max_records_per_run ∧
    (built.map fun r => (r.record_type.name, r.payload)) = batch.records ∧ log <+: built
  cap : (log.length : ℤ) ≤ settings.max_records_per_run
  tenant_id : ∀ r ∈ log, r.tenant_id = request.tenant_id
  trace_id : ∀ r ∈ log, r.trace_id = request.trace_id
  batch_id : ∀ r ∈ log, r.source_metadata.batch_id = some request.batch_id
  seed : ∀ r ∈ log, r.source_metadata.seed = some request.seed
  generated_by : ∀ r ∈ log, r.source_metadata.generated_by = some request.generated_by
  origin : ∀ r ∈ log, r.source_metadata.origin = some "SIMULATION"
  preset_id : ∀ r ∈ log, r.source_metadata.preset_id =
    if request.mode = .auto then request.preset_id else none

theorem allChecked_of_admitted {svc : SimService} {settings : SimSettings} {request : DispatchRequest}
    {batch : GeneratedBatch} {built log : List (CanonicalRecord Empty)}
    (h : Admitted svc settings request batch)
    (hbuilt : build_canonical_records request.context svc.fresh batch = .ok built)
    (hlog : log <+: built) : AllChecked svc settings request log := by
  obtain ⟨_, henabled, henvironment⟩ := sim_gate_ok h.gate
  obtain ⟨hshown, hall⟩ := build_ok_shown hbuilt
  have hstamped : ∀ r ∈ log, Stamped request.context r := fun r hr => hall r (hlog.subset hr)
  have hlength : built.length = batch.records.length := by rw [← hshown, List.length_map]
  have hle := hlog.length_le
  have hcap := h.cap
  exact {
    enabled := henabled
    environment := henvironment
    real := h.real
    exists_batch := ⟨batch, built, acceptedBatch_of_ok h.requested, hcap, hshown, hlog⟩
    cap := by omega
    tenant_id := fun r hr => (hstamped r hr).tenant_id
    trace_id := fun r hr => (hstamped r hr).trace_id
    batch_id := fun r hr => (hstamped r hr).batch_id
    seed := fun r hr => (hstamped r hr).seed
    generated_by := fun r hr => (hstamped r hr).generated_by
    origin := fun r hr => (hstamped r hr).origin
    preset_id := fun r hr => (hstamped r hr).preset_id }

/-- Date parsers that are not called on accounts. -/
def refuseDates : DateParsers where
  date := fun _ => .error ("date_type", "Input should be a valid date")
  datetime := fun _ => .error ("datetime_type", "Input should be a valid datetime")

def newYear : Date := ⟨2026, 1, 1, year_2026_range, january_range, first_of_january_range⟩

def leastService : SimService :=
  SimService.standard leastDraws refuseDates newYear fun _ => someFresh

def openSettings : SimSettings where
  enabled := true
  environment := "dev"
  core_ingest_url := "http://core:8080"
  gcp_project := ""
  canonical_topic := ""
  max_records_per_run := 5000

def manualAccount : ManualRecord where
  record_type := "bank_account"
  payload := [("iban", .str "FR7699999000000000000000000"), ("label", .str "Compte courant 1"),
    ("currency", .str "EUR"), ("entity", .str "Société Holding"), ("balance", .str "1250.50")]

def manualInvoice : ManualRecord := ⟨"invoice", []⟩

def manualRequest (items : List ManualRecord) : DispatchRequest where
  tenant_id := ⟨1⟩
  batch_id := ⟨2⟩
  trace_id := ⟨3⟩
  mode := .manual
  preset_id := none
  params := []
  seed := 42
  payload := some items
  dry_run := false
  generated_by := "console"
  target_label := "Société"

def courant : SimBankAccount where
  iban := ⟨"FR7699999000000000000000000", by decide⟩
  label := "Compte courant 1"
  currency := ⟨"EUR", by decide⟩
  entity := "Société Holding"
  balance := ⟨"1250.50", by decide⟩

def manualBatch : GeneratedBatch where
  records := [courant.record]
  ground_truth := [("mode", .str "manual"), ("expected_records", .int 1)]
  source_format := "json"

theorem manualBatch_requested :
    requestedBatch leastService (manualRequest [manualAccount]) = .ok manualBatch := by
  rfl

theorem manualBatch_admitted :
    Admitted leastService openSettings (manualRequest [manualAccount]) manualBatch :=
  ⟨rfl, manualBatch_requested, by decide, rfl⟩

def manualRecord : CanonicalRecord Empty :=
  builtRecord (manualRequest [manualAccount]).context leastService.fresh manualBatch (courant.record, 0)

theorem manualBatch_built : build_canonical_records (manualRequest [manualAccount]).context
    leastService.fresh manualBatch = .ok [manualRecord] := by
  apply build_canonical_records_eq
  intro r hr
  rw [List.mem_singleton.mp hr]
  exact courant.typed.known_type

end AtlasConnectors
