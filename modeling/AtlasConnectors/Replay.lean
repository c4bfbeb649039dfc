import AtlasConnectors.ConsistentBatch
import AtlasConnectors.Dispatch
import AtlasConnectors.IsoText

/-! A generated batch is a fixed point of manual mode: its records, submitted as a manual
payload, validate to themselves. -/
namespace AtlasConnectors

open Raising

theorem checkIban_own (loc : String) (x : Iban) : checkIban loc x.1 = .ok x := by
  rw [checkIban, dif_pos x.2]

theorem checkCurrency_own (x : CurrencyCode) : checkCurrency x.1 = .ok x := by
  rw [checkCurrency, dif_pos x.2]

theorem checkDecimal_own (loc : String) (x : DecimalText) : checkDecimal loc x.1 = .ok x := by
  have hown := require_decimal_signed x.2
  unfold checkDecimal
  split
  · rename_i out hout
    rw [hown] at hout
    cases hout
    rfl
  · rename_i msg hmsg
    rw [hown] at hmsg
    cases hmsg
  · rename_i hother
    rw [hown] at hother
    cases hother

theorem checkDirection_own (d : Direction) : checkDirection (.str d.text) = .ok d := by
  cases d <;> rfl

/-- pydantic reads back the ISO texts that it writes of dates and of naive times. -/
structure ReadsIso (parsers : DateParsers) : Prop where
  date : ∀ d : Date, parsers.date (.str d.isoformat) = .ok d
  datetime : ∀ t : DateTime, t.offset = none → parsers.datetime (.str t.isoformat) = .ok t

section Fields

variable {payload : Payload PyFloat} {loc : String}

theorem required_of_lookup {α : Type} {check : Json PyFloat → Checked α} {v : Json PyFloat}
    (h : payload.lookup loc = some v) : required payload loc check = check v := by
  rw [required, h]

theorem optional_text {o : Option String} (h : payload.lookup loc = some (Json.lift (optionText o))) :
    optional payload loc (checkText loc) = .ok o := by
  rw [optional, h]
  cases o <;> rfl

theorem optional_datetime {parsers : DateParsers} (hparsers : ReadsIso parsers) {o : Option DateTime}
    (hnaive : ∀ t, o = some t → t.offset = none)
    (h : payload.lookup loc = some (Json.lift (optionText (o.map DateTime.isoformat)))) :
    optional payload loc (checkParsed parsers.datetime loc) = .ok o := by
  rw [optional, h]
  cases o with
  | none => rfl
  | some t =>
    change some <$> checkParsed parsers.datetime loc (.str t.isoformat) = _
    rw [checkParsed, hparsers.datetime t (hnaive t rfl)]
    rfl

end Fields

theorem checkTextWith_str {α : Type} (loc : String) {check : String → Checked α} {text : String} {x : α}
    (h : check text = .ok x) : checkTextWith loc check (.str text) = .ok x := h

theorem SimBankAccount.validate_dump (a : SimBankAccount) :
    model_validate (Json.liftMembers a.model_dump) = .ok a := by
  have hiban : checkTextWith "iban" (checkIban "iban") (.str a.iban.1) = .ok a.iban := checkTextWith_str _ (checkIban_own _ _)
  have hcurrency : checkTextWith "currency" checkCurrency (.str a.currency.1) = .ok a.currency :=
    checkTextWith_str _ (checkCurrency_own _)
  have hbalance : checkTextWith "balance" (checkDecimal "balance") (.str a.balance.1) = .ok a.balance :=
    checkTextWith_str _ (checkDecimal_own _ _)
  rw [model_validate, required_of_lookup (v := .str a.iban.1) rfl,
    required_of_lookup (v := .str a.label) rfl, required_of_lookup (v := .str a.currency.1) rfl,
    required_of_lookup (v := .str a.entity) rfl, required_of_lookup (v := .str a.balance.1) rfl,
    hiban, hcurrency, hbalance]
  rfl

theorem SimCashFlow.validate_dump {parsers : DateParsers} (hparsers : ReadsIso parsers) {f : SimCashFlow}
    (hnaive : ∀ t, f.booked_at = some t → t.offset = none) :
    model_validate parsers (Json.liftMembers f.model_dump) = .ok f := by
  have hiban : checkTextWith "account_iban" (checkIban "account_iban") (.str f.account_iban.1) =
      .ok f.account_iban := checkTextWith_str _ (checkIban_own _ _)
  have hamount : checkTextWith "amount" (checkDecimal "amount") (.str f.amount.1) = .ok f.amount :=
    checkTextWith_str _ (checkDecimal_own _ _)
  have hcurrency : checkTextWith "currency" checkCurrency (.str f.currency.1) = .ok f.currency :=
    checkTextWith_str _ (checkCurrency_own _)
  have hdate : checkParsed parsers.date "value_date" (.str f.value_date.isoformat) = .ok f.value_date := by
    rw [checkParsed, hparsers.date]
  rw [model_validate, required_of_lookup (v := .str f.account_iban.1) rfl,
    required_of_lookup (v := .str f.amount.1) rfl, required_of_lookup (v := .str f.currency.1) rfl,
    required_of_lookup (v := .str f.value_date.isoformat) rfl,
    optional_datetime (o := f.booked_at) hparsers hnaive rfl,
    required_of_lookup (v := .str f.direction.text) rfl, required_of_lookup (v := .str f.counterparty) rfl,
    required_of_lookup (v := .str f.label) rfl, optional_text (o := f.ref) rfl,
    optional_text (o := f.category_hint) rfl, hiban, hamount, hcurrency, hdate, checkDirection_own]
  rfl

theorem SimErpEntry.validate_dump {parsers : DateParsers} (hparsers : ReadsIso parsers) (e : SimErpEntry) :
    model_validate parsers (Json.liftMembers e.model_dump) = .ok e := by
  have hamount : checkTextWith "amount" (checkDecimal "amount") (.str e.amount.1) = .ok e.amount :=
    checkTextWith_str _ (checkDecimal_own _ _)
  have hcurrency : checkTextWith "currency" checkCurrency (.str e.currency.1) = .ok e.currency :=
    checkTextWith_str _ (checkCurrency_own _)
  have hdate : checkParsed parsers.date "entry_date" (.str e.entry_date.isoformat) = .ok e.entry_date := by
    rw [checkParsed, hparsers.date]
  rw [model_validate, required_of_lookup (v := .str e.ref) rfl, required_of_lookup (v := .str e.amount.1) rfl,
    required_of_lookup (v := .str e.currency.1) rfl,
    required_of_lookup (v := .str e.entry_date.isoformat) rfl, required_of_lookup (v := .str e.label) rfl,
    optional_text (o := e.matches_iban) rfl, hamount, hcurrency, hdate]
  rfl

/-- A record as an element of a manual payload. -/
def asManual (r : SimRecord) : ManualRecord := ⟨r.1, Json.liftMembers r.2⟩

/-- A record dumped from a model, whose booking time is naive. -/
inductive Dumped : SimRecord → Prop
  | bank_account (a : SimBankAccount) : Dumped a.record
  | cash_flow (f : SimCashFlow) (h : ∀ t, f.booked_at = some t → t.offset = none) : Dumped f.record
  | financial_transaction (e : SimErpEntry) : Dumped e.record

theorem checkItem_of_model {models : SimModels} {item : ManualRecord} {model : SimModel}
    {dumped : Payload Empty} (hmodel : models.table.lookup item.record_type = some model)
    (hdump : model item.payload = .ok dumped) : checkItem models item = .ok (item.record_type, dumped) := by
  simp only [checkItem, hmodel, hdump]

theorem checkItem_dumped {parsers : DateParsers} (hparsers : ReadsIso parsers) {r : SimRecord}
    (h : Dumped r) : checkItem (SIM_MODELS parsers) (asManual r) = .ok r := by
  cases h with
  | bank_account a =>
    have hmodel : (SIM_MODELS parsers).bank_account (Json.liftMembers a.model_dump) = .ok a.model_dump :=
      Checked.map_eq_ok.mpr ⟨a, a.validate_dump, rfl⟩
    exact checkItem_of_model rfl hmodel
  | cash_flow f hnaive =>
    have hmodel : (SIM_MODELS parsers).cash_flow (Json.liftMembers f.model_dump) = .ok f.model_dump :=
      Checked.map_eq_ok.mpr ⟨f, SimCashFlow.validate_dump hparsers hnaive, rfl⟩
    exact checkItem_of_model rfl hmodel
  | financial_transaction e =>
    have hmodel : (SIM_MODELS parsers).financial_transaction (Json.liftMembers e.model_dump) =
        .ok e.model_dump := Checked.map_eq_ok.mpr ⟨e, SimErpEntry.validate_dump hparsers e, rfl⟩
    exact checkItem_of_model rfl hmodel

theorem foldl_validateStep_ok {models : SimModels} {rs : List SimRecord}
    (h : ∀ r ∈ rs, checkItem models (asManual r) = .ok r) (i : ℕ) (acc : ManualState) :
    ((rs.map asManual).zipIdx i).foldl (validateStep models) acc =
      { acc with records := acc.records ++ rs } := by
  induction rs generalizing i acc with
  | nil => simp
  | cons r rs ih =>
    have hstep : validateStep models acc (asManual r, i) = { acc with records := acc.records ++ [r] } := by
      rw [validateStep, h r List.mem_cons_self]
    rw [List.map_cons, List.zipIdx_cons, List.foldl_cons, hstep,
      ih fun r' hr' => h r' (List.mem_cons_of_mem _ hr')]
    simp

theorem validate_manual_own {svc : SimService} {request : DispatchRequest} {rs : List SimRecord}
    (hpayload : request.payload = some (rs.map asManual)) (hne : rs ≠ [])
    (h : ∀ r ∈ rs, checkItem svc.models (asManual r) = .ok r) :
    ∃ batch, validate_manual svc request = .ok batch ∧ batch.records = rs := by
  have hloop := foldl_validateStep_ok h 0 ⟨[], []⟩
  obtain ⟨r, rest, rfl⟩ := List.exists_cons_of_ne_nil hne
  simp only [validate_manual, hpayload, List.map_cons] at hloop ⊢
  rw [hloop, if_neg (by simp)]
  exact ⟨_, rfl, by simp⟩

theorem Ledger.dumped {today : Date} {days : ℤ} {records : List SimRecord}
    (h : Ledger today days records) : ∀ r ∈ records, Dumped r := by
  intro r hr
  cases EachAfter.forall Backed.mono h r hr with
  | bank_account a ha => exact .bank_account a
  | cash_flow a f ha hf => exact .cash_flow f hf.booked_at
  | financial_transaction a e ha he => exact .financial_transaction e

variable {rt : PyRuntime}

theorem FinhubForecasting.Schedule.dumped {p : Params} {today : Date} {b : GeneratedBatch}
    (h : FinhubForecasting.Schedule rt p today b) : b.records ≠ [] ∧ ∀ r ∈ b.records, Dumped r := by
  obtain ⟨_, _, _, _, _, accounts, flows, _, _, _, _, hne, _, hflows, hrecords⟩ := h.exists_flows
  rw [hrecords]
  constructor
  · simp [hne]
  · intro r hr
    rcases List.mem_append.mp hr with hr | hr
    · obtain ⟨a, _, rfl⟩ := List.mem_map.mp hr
      exact .bank_account a
    · obtain ⟨f, hf, rfl⟩ := List.mem_map.mp hr
      obtain ⟨_, _, hscheduled⟩ := hflows f hf
      refine .cash_flow f ?_
      intro t ht
      rw [hscheduled.booked_at] at ht
      cases ht

theorem preset_dumped {gen : PresetGenerator} (h : gen ∈ generators rt)
    (hfirewall : gen.preset_id ≠ "connect.firewall.v1") {params : Params} {seed : ℤ}
    {target_label : String} {today : Date} {b : GeneratedBatch}
    (hb : gen.generate params seed target_label today = .ok b) :
    b.records ≠ [] ∧ ∀ r ∈ b.records, Dumped r := by
  revert gen
  apply forall_generators
  · exact fun hne => absurd rfl hne
  · intro _ hb
    obtain ⟨_, _, _, _, hledger, hne⟩ := ConnectIngestion.generate_ledger hb
    exact ⟨hne, hledger.dumped⟩
  · intro _ hb
    obtain ⟨_, _, _, _, _, _, _, _, _, hlabelled⟩ := FinhubAnomaly.generate_labelled hb
    exact ⟨by simp [hlabelled.records], hlabelled.ledger.dumped⟩
  · intro _ hb
    obtain ⟨hledger, htriggers⟩ := FinhubCircuitBreaker.generate_ledger hb
    obtain ⟨_, _, _, _, hne, hrecords, _⟩ := htriggers.exists_split
    exact ⟨by simp [hrecords, hne], hledger.dumped⟩
  · intro _ hb
    obtain ⟨_, hp, _, _, _, hconsolidated⟩ := FinhubConsolidation.generate_consolidated hb
    exact ⟨hconsolidated.records_ne_nil hp, (FinhubConsolidation.generate_ledger hb).dumped⟩
  · intro _ hb
    obtain ⟨_, _, hschedule⟩ := FinhubForecasting.generate_schedule hb
    exact hschedule.dumped
  · intro _ hb
    obtain ⟨_, _, _, _, _, _, _, hreconciled⟩ := FinhubReconciliation.generate_reconciled hb
    exact ⟨by simp [hreconciled.records], (FinhubReconciliation.generate_ledger hb).dumped⟩

/-- The same type, payload, canonical bytes and hash. -/
structure SameContent (x y : CanonicalRecord Empty) : Prop where
  record_type : x.record_type = y.record_type
  payload : x.payload = y.payload
  bytes : canonical_payload_bytes x.payload = canonical_payload_bytes y.payload
  source_hash : x.source_metadata.source_hash = y.source_metadata.source_hash

theorem builtRecord_simType (ctx : RunContext) (fresh : ℕ → Fresh) (batch : GeneratedBatch) (item : SimRecord × ℕ) :
    (builtRecord ctx fresh batch item).record_type = simType item.1.1 := rfl

theorem built_sameContent {batch batch' : GeneratedBatch} (h : batch'.records = batch.records)
    (hknown : ∀ r ∈ batch.records, r.1 ∈ SIM_RECORD_TYPES) (ctx ctx' : RunContext) (fresh fresh' : ℕ → Fresh) :
    ∃ built built', build_canonical_records ctx fresh batch = .ok built ∧
      build_canonical_records ctx' fresh' batch' = .ok built' ∧ List.Forall₂ SameContent built built' := by
  have hknown' : ∀ r ∈ batch'.records, r.1 ∈ SIM_RECORD_TYPES := by rwa [h]
  refine ⟨_, _, build_canonical_records_eq hknown, build_canonical_records_eq hknown', ?_⟩
  rw [h, List.forall₂_map_left_iff, List.forall₂_map_right_iff, List.forall₂_same]
  intro item _
  have htype := (builtRecord_simType ctx fresh batch item).trans (builtRecord_simType ctx' fresh' batch' item).symm
  have hpayload : (builtRecord ctx fresh batch item).payload = (builtRecord ctx' fresh' batch' item).payload :=
    builtRecord_payload.trans builtRecord_payload.symm
  exact ⟨htype, hpayload, congrArg canonical_payload_bytes hpayload, builtRecord_hash.trans builtRecord_hash.symm⟩

/-- What a preset generates, submitted as a manual payload, is accepted and is the same batch. -/
theorem preset_replays {gen : PresetGenerator} (h : gen ∈ generators rt)
    (hfirewall : gen.preset_id ≠ "connect.firewall.v1") {parsers : DateParsers} (hparsers : ReadsIso parsers)
    {params : Params} {seed : ℤ} {target_label : String} {today : Date} {b : GeneratedBatch}
    (hb : gen.generate params seed target_label today = .ok b) {svc : SimService}
    (hmodels : svc.models = SIM_MODELS parsers) {request : DispatchRequest}
    (hpayload : request.payload = some (b.records.map asManual)) :
    ∃ batch, validate_manual svc request = .ok batch ∧ batch.records = b.records ∧
      ∀ (ctx ctx' : RunContext) (fresh fresh' : ℕ → Fresh), ∃ built built',
        build_canonical_records ctx fresh b = .ok built ∧
        build_canonical_records ctx' fresh' batch = .ok built' ∧
        (built.map fun cr => (cr.record_type.name, cr.payload)) = b.records ∧
        List.Forall₂ SameContent built built' := by
  obtain ⟨hne, hdumped⟩ := preset_dumped h hfirewall hb
  have haccepted : ∀ r ∈ b.records, checkItem svc.models (asManual r) = .ok r := by
    intro r hr
    rw [hmodels]
    exact checkItem_dumped hparsers (hdumped r hr)
  obtain ⟨batch, hbatch, hrecords⟩ := validate_manual_own hpayload hne haccepted
  have hknown : ∀ r ∈ b.records, r.1 ∈ SIM_RECORD_TYPES := fun r hr => (preset_typed h hb r hr).known_type
  refine ⟨batch, hbatch, hrecords, fun ctx ctx' fresh fresh' => ?_⟩
  obtain ⟨built, built', hbuilt, hbuilt', hsame⟩ := built_sameContent hrecords hknown ctx ctx' fresh fresh'
  exact ⟨built, built', hbuilt, hbuilt', (build_ok_shown hbuilt).1, hsame⟩

/-- Parsers that read ISO texts of dates and of naive times. -/
def isoParsers : DateParsers where
  date
    | .str s =>
      match IsoText.readDate s.toList with
      | some (d, []) => .ok d
      | _ => .error ("date_parsing", "Input should be a valid date")
    | _ => .error ("date_type", "Input should be a valid date")
  datetime
    | .str s =>
      match IsoText.readDateTime s.toList with
      | some t => .ok t
      | none => .error ("datetime_parsing", "Input should be a valid datetime")
    | _ => .error ("datetime_type", "Input should be a valid datetime")

theorem isoParsers_readsIso : ReadsIso isoParsers where
  date := by
    intro d
    have hread := IsoText.readDate_isoformat d []
    rw [List.append_nil] at hread
    simp only [isoParsers, hread]
  datetime := by
    intro t ht
    simp only [isoParsers, IsoText.readDateTime_isoformat ht]

def isoService : SimService :=
  SimService.standard leastDraws isoParsers newYear fun _ => someFresh

theorem oneFlow_replays : ∃ batch,
    validate_manual isoService (manualRequest (oneFlowBatch.records.map asManual)) = .ok batch ∧
      batch.records = oneFlowBatch.records := by
  have hmem : ConnectIngestion.generator leastDraws ∈ generators leastDraws := by simp [generators]
  have hne : (ConnectIngestion.generator leastDraws).preset_id ≠ "connect.firewall.v1" := by decide
  have hmodels : isoService.models = SIM_MODELS isoParsers := rfl
  have hpayload : (manualRequest (oneFlowBatch.records.map asManual)).payload =
      some (oneFlowBatch.records.map asManual) := rfl
  obtain ⟨batch, hbatch, hrecords, _⟩ :=
    preset_replays hmem hne isoParsers_readsIso oneFlow_generated hmodels hpayload
  exact ⟨batch, hbatch, hrecords⟩

end AtlasConnectors
