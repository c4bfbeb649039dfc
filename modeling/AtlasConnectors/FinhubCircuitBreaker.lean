import AtlasConnectors.Ledger

/-! `finhub.circuit_breaker.v1`: a small baseline and one pattern that triggers the freeze. -/
namespace AtlasConnectors
namespace FinhubCircuitBreaker

open Raising

variable {rt : PyRuntime}

def param_schema (rt : PyRuntime) : List ParamSpec :=
  [.float "target_risk_score" (rt.lit 9) (rt.lit (81 / 10)) (rt.lit 10),
    .enum "trigger_pattern" "large_transfer" ["large_transfer", "rapid_sequence"]]

def BASELINE_FLOWS : ℕ := 10

def LARGE_TRANSFER_EUR : PyFloat := .num 500000

def RAPID_TRANSFERS : ℕ := 8

/-- `s[-4:]`. -/
def lastFour (s : String) : String := String.ofList (s.toList.drop (s.toList.length - 4))

def baselineFlow (today : Date) (account : SimBankAccount) (i : ℕ) : Gen rt SimCashFlow := do
  let days ← PyRuntime.randint 1 29
  let day ← PyRuntime.shiftDate today (-days)
  let amount ← uniformInt 200 5000
  let hour ← PyRuntime.randint 9 17
  let booked_at ← PyRuntime.datetime day hour 0
  let counterparty ← PyRuntime.choice COUNTERPARTIES
  fromExcept (SimCashFlow.create account.iban (money amount.neg) "EUR" day (some booked_at) .debit
    counterparty "Règlement courant" (some ("CB-BASE-" ++ NumberText.zfill 3 i)) none)

def largeTransfer (today : Date) (account : SimBankAccount) (first_seen_iban : String) :
    Gen rt SimCashFlow := do
  let booked_at ← PyRuntime.datetime today 14 12
  fromExcept (SimCashFlow.create account.iban (money LARGE_TRANSFER_EUR.neg) "EUR" today
    (some booked_at) .debit ("Bénéficiaire inconnu " ++ lastFour first_seen_iban)
    "Virement massif vers IBAN inconnu" (some "CB-TRIG-000") none)

def rapidTransfer (today : Date) (account : SimBankAccount) (first_seen_iban : String)
    (base_time : DateTime) (s : ℕ) : Gen rt SimCashFlow := do
  let amount ← uniformInt 8000 20000
  let booked_at ← PyRuntime.addSeconds base_time (14 * s)
  fromExcept (SimCashFlow.create account.iban (money amount.neg) "EUR" today (some booked_at) .debit
    ("Bénéficiaire inconnu " ++ lastFour first_seen_iban) "Rafale de virements"
    (some ("CB-TRIG-" ++ NumberText.zfill 3 s)) none)

/-- The trigger records of a pattern. -/
def triggers (today : Date) (account : SimBankAccount) (first_seen_iban pattern : String) :
    Gen rt (List SimCashFlow) :=
  if pattern = "large_transfer" then do
    let flow ← largeTransfer today account first_seen_iban
    pure [flow]
  else do
    let base_time ← PyRuntime.datetime today 14 10
    (List.range RAPID_TRANSFERS).mapM (rapidTransfer today account first_seen_iban base_time)

def batch (p : Params) (target_label : String) (today : Date) : Gen rt GeneratedBatch := do
  let pattern ← fromExcept (paramText p "trigger_pattern")
  let iban ← test_iban
  let balance ← uniformInt 400000 900000
  let account ← fromExcept (SimBankAccount.create iban "Compte courant 1" "EUR"
    (entity_label target_label 0) (money balance))
  let baseline ← (List.range BASELINE_FLOWS).mapM (baselineFlow today account)
  let first_seen_iban ← test_iban
  let flows ← triggers today account first_seen_iban pattern
  let target_risk_score ← fromExcept (paramFloat p "target_risk_score")
  let records := account.record :: baseline.map SimCashFlow.record
  pure {
    records := records ++ flows.map SimCashFlow.record
    ground_truth := [("expected_freeze", .bool true), ("target_risk_score", .float target_risk_score),
      ("trigger_pattern", .str pattern),
      ("trigger_records", .arr ((List.range flows.length).map fun s =>
        .obj [("record_index", .int (records.length + s))]))]
    source_format := "json" }

def generate (rt : PyRuntime) (params : Params) (seed : ℤ) (target_label : String) (today : Date) :
    Except PyExc GeneratedBatch :=
  generateWith rt (param_schema rt) (fun p => batch p target_label today) params seed

def generator (rt : PyRuntime) : PresetGenerator where
  preset_id := "finhub.circuit_breaker.v1"
  moduleName := "AtlasFinhub"
  feature := "circuit_breaker"
  label := "Disjoncteur / gel HITL"
  description := "Motif déclencheur (virement massif vers IBAN inconnu ou rafale < 2 min) sur une " ++
    "petite base — score > 8 ⇒ gel HITL + alerte critique attendus."
  phase := 1
  param_schema := param_schema rt
  generate := generate rt

theorem schema_nodup (rt : PyRuntime) : ((param_schema rt).map ParamSpec.name).Nodup := by
  simp [param_schema, ParamSpec.float, ParamSpec.enum]

theorem schema_wellFormed (rt : PyRuntime) : ∀ spec ∈ param_schema rt, WellFormed spec := by
  simp only [param_schema, List.forall_mem_cons, List.not_mem_nil, IsEmpty.forall_iff, implies_true,
    and_true]
  refine ⟨?_, .enum (by simp)⟩
  exact wellFormed_float rt (n := 10) (by norm_num [abs_le]) (by norm_num) (by norm_num) (by norm_num)
    (by norm_num)

section Account

variable {account : SimBankAccount} (hcurrency : account.currency.1 = "EUR") (today : Date)

include hcurrency

theorem ensures_baselineFlow (i : ℕ) :
    Ensures (baselineFlow today account i : Gen rt SimCashFlow) (Posted today 30 account) := by
  refine (PyRuntime.ensures_randint (by norm_num)).bind fun days hrange => ?_
  refine (PyRuntime.ensures_shiftDate today (-days)).bind fun day hday => ?_
  refine (ensures_uniformInt_nonneg (by norm_num) (by norm_num)).bind fun amount hamount => ?_
  refine Ensures.bind' fun hour => (PyRuntime.ensures_datetime day hour 0).bind fun t ht => ?_
  refine Ensures.bind' fun counterparty => Ensures.fromExcept fun f hf => ?_
  obtain ⟨_, _, _, rfl⟩ := SimCashFlow.create_eq hf
  obtain ⟨q, hq, hallows⟩ := debit_allows hamount
  exact {
    account_iban := rfl
    currency := hcurrency.symm
    amount := ⟨_, q, rfl, hq, hallows⟩
    value_date := recent_of_shift hday (by omega) (by omega)
    booked_at := by
      rintro _ ⟨⟩
      exact at?_offset ht }

theorem ensures_largeTransfer (first_seen_iban : String) :
    Ensures (largeTransfer today account first_seen_iban : Gen rt SimCashFlow) (Posted today 30 account) := by
  refine (PyRuntime.ensures_datetime today 14 12).bind fun t ht => Ensures.fromExcept fun f hf => ?_
  obtain ⟨_, _, _, rfl⟩ := SimCashFlow.create_eq hf
  obtain ⟨q, hq, hallows⟩ := debit_allows (x := LARGE_TRANSFER_EUR) (PyFloat.NonNeg.num (by norm_num))
  exact {
    account_iban := rfl
    currency := hcurrency.symm
    amount := ⟨_, q, rfl, hq, hallows⟩
    value_date := recent_today today (by norm_num)
    booked_at := by
      rintro _ ⟨⟩
      exact at?_offset ht }

theorem ensures_rapidTransfer (first_seen_iban : String) {base_time : DateTime}
    (hbase : base_time.offset = none) (s : ℕ) :
    Ensures (rapidTransfer today account first_seen_iban base_time s : Gen rt SimCashFlow)
      (Posted today 30 account) := by
  refine (ensures_uniformInt_nonneg (by norm_num) (by norm_num)).bind fun amount hamount => ?_
  refine (PyRuntime.ensures_addSeconds base_time (14 * s)).bind fun t ht => Ensures.fromExcept fun f hf => ?_
  obtain ⟨_, _, _, rfl⟩ := SimCashFlow.create_eq hf
  obtain ⟨q, hq, hallows⟩ := debit_allows hamount
  exact {
    account_iban := rfl
    currency := hcurrency.symm
    amount := ⟨_, q, rfl, hq, hallows⟩
    value_date := recent_today today (by norm_num)
    booked_at := by
      rintro _ ⟨⟩
      exact (addSeconds_offset ht).trans hbase }

theorem ensures_triggers (first_seen_iban pattern : String) :
    Ensures (triggers today account first_seen_iban pattern : Gen rt (List SimCashFlow)) fun flows =>
      ∀ f ∈ flows, Posted today 30 account f := by
  unfold triggers
  split_ifs
  · refine (ensures_largeTransfer hcurrency today first_seen_iban).bind fun flow hflow => ?_
    exact Ensures.pure fun f hf => List.mem_singleton.mp hf ▸ hflow
  · refine (PyRuntime.ensures_datetime today 14 10).bind fun base_time hbase => ?_
    refine (Ensures.mapM fun s _ => ensures_rapidTransfer hcurrency today first_seen_iban
      (at?_offset hbase) s).mono ?_
    intro flows hflows f hf
    obtain ⟨s, _, hposted⟩ := exists_of_mem_right hflows hf
    exact hposted

end Account

/-- The manifest names the records after the baseline. -/
structure NamesTriggers (b : GeneratedBatch) : Prop where
  exists_split : ∃ (before after : List SimRecord) (target_risk_score : PyFloat) (pattern : String),
    before ≠ [] ∧ b.records = before ++ after ∧ b.ground_truth = [("expected_freeze", .bool true),
      ("target_risk_score", .float target_risk_score), ("trigger_pattern", .str pattern),
      ("trigger_records", .arr ((List.range after.length).map fun s =>
        .obj [("record_index", .int (before.length + s))]))]

theorem ensures_batch (p : Params) (target_label : String) (today : Date) :
    Ensures (batch p target_label today : Gen rt GeneratedBatch) fun b =>
      Ledger today 30 b.records ∧ NamesTriggers b := by
  refine Ensures.bind' fun pattern => Ensures.bind' fun iban => ?_
  refine (ensures_uniformInt (n := 900000) (by norm_num) (by norm_num)).bind fun x hx => ?_
  refine Ensures.bind (Ensures.fromExcept fun a ha => SimBankAccount.create_ok ha) fun a ha => ?_
  have hcurrency : a.currency.1 = "EUR" := ha.2.2.1
  refine (Ensures.mapM fun i _ => ensures_baselineFlow hcurrency today i).bind fun baseline hbaseline => ?_
  refine Ensures.bind' fun first_seen_iban => ?_
  refine (ensures_triggers hcurrency today first_seen_iban pattern).bind fun flows hflows => ?_
  refine Ensures.bind' fun score => Ensures.pure ⟨?_, ?_⟩
  · have hall : ∀ f ∈ baseline ++ flows, ∃ account ∈ [a], Posted today 30 account f := by
      intro f hf
      refine ⟨a, List.mem_singleton_self a, ?_⟩
      rcases List.mem_append.mp hf with hf | hf
      · obtain ⟨i, _, hposted⟩ := exists_of_mem_right hbaseline hf
        exact hposted
      · exact hflows f hf
    have hbalance : ∀ account ∈ [a], ∃ x, account.balance.1 = money x ∧ IsFinite x := by
      intro account h
      rw [List.mem_singleton.mp h]
      exact ⟨x, ha.2.2.2.2, isFinite_of_within hx⟩
    have hledger := ledger_of_accounts hbalance hall
    simpa using hledger
  · exact ⟨_, flows.map SimCashFlow.record, score, pattern, List.cons_ne_nil _ _, rfl, by simp⟩

theorem generate_ledger {params : Params} {seed : ℤ} {target_label : String} {today : Date}
    {b : GeneratedBatch} (h : generate rt params seed target_label today = .ok b) :
    Ledger today 30 b.records ∧ NamesTriggers b :=
  generateWith_ensures (P := fun b => Ledger today 30 b.records ∧ NamesTriggers b)
    (fun p _ => ensures_batch p target_label today) h

theorem generate_fabricated {params : Params} {seed : ℤ} {target_label : String} {today : Date}
    {b : GeneratedBatch} (h : generate rt params seed target_label today = .ok b) :
    ∀ r ∈ b.records, Fabricated IsFinite r := (generate_ledger h).1.fabricated

end FinhubCircuitBreaker
end AtlasConnectors
