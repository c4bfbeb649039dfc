import AtlasConnectors.Ledger

/-! `connect.ingestion.v1`: accounts and uniform flows. -/
namespace AtlasConnectors
namespace ConnectIngestion

open Raising

def param_schema : List ParamSpec :=
  [.int "accounts" 3 1 20, .int "flows_per_account" 30 1 500,
    .window "date_range" "last-90d" 1 365,
    .multi "currencies" ["EUR"] ["EUR", "USD", "GBP", "CHF"],
    .enum "source_format" "psd2" ["psd2", "camt053", "mt940", "odata"]]

def LABELS : List String := ["Virement", "Prélèvement", "Facture", "Règlement", "Encaissement"]

variable {rt : PyRuntime}

def account (target_label : String) (currencies : List String) (n_entities i : ℕ) :
    Gen rt SimBankAccount := do
  let iban ← test_iban
  let currency ← fromExcept (cycled currencies i)
  let balance ← uniformInt 10000 500000
  fromExcept (SimBankAccount.create iban ("Compte courant " ++ toString (i + 1)) currency
    (entity_label target_label (i % n_entities)) (money balance))

def flow (today : Date) (window_days : ℤ) (account : SimBankAccount) : Gen rt SimCashFlow := do
  let signed ← signedAmount 50 25000 (1 / 2)
  let days ← PyRuntime.randint 0 (window_days - 1)
  let value_date ← PyRuntime.shiftDate today (-days)
  let counterparty ← PyRuntime.choice COUNTERPARTIES
  let label ← PyRuntime.choice LABELS
  let ref ← PyRuntime.randint 100000 999999
  fromExcept (SimCashFlow.create account.iban (money signed) account.currency value_date none
    (directionOf signed) counterparty label (some ("ING-" ++ NumberText.intText ref)) none)

def batch (p : Params) (target_label : String) (today : Date) : Gen rt GeneratedBatch := do
  let n_accounts ← fromExcept (paramInt p "accounts")
  let flows_per_account ← fromExcept (paramInt p "flows_per_account")
  let window_days ← fromExcept (paramInt p "date_range")
  let currencies ← fromExcept (paramTexts p "currencies")
  let source_format ← fromExcept (paramText p "source_format")
  let n_entities := if n_accounts = 1 then 1 else 2
  let accounts ← (List.range n_accounts.toNat).mapM (account target_label currencies n_entities)
  let flows ← accounts.mapM fun account =>
    (List.range flows_per_account.toNat).mapM fun _ => flow today window_days account
  pure {
    records := accounts.map SimBankAccount.record ++ flows.flatten.map SimCashFlow.record
    ground_truth := [("expected_accounts", .int n_accounts),
      ("expected_flows", .int (n_accounts * flows_per_account))]
    source_format := source_format }

def generate (rt : PyRuntime) (params : Params) (seed : ℤ) (target_label : String) (today : Date) :
    Except PyExc GeneratedBatch :=
  generateWith rt param_schema (fun p => batch p target_label today) params seed

def generator (rt : PyRuntime) : PresetGenerator where
  preset_id := "connect.ingestion.v1"
  moduleName := "AtlasConnect"
  feature := "ingestion"
  label := "Ingestion nominale"
  description := "Comptes de test + flux uniformes sur la fenêtre — le pipeline complet s'allume."
  phase := 1
  param_schema := param_schema
  generate := generate rt

theorem schema_nodup : (param_schema.map ParamSpec.name).Nodup := by
  simp [param_schema, ParamSpec.int, ParamSpec.window, ParamSpec.multi, ParamSpec.enum]

theorem schema_wellFormed : ∀ spec ∈ param_schema, WellFormed spec := by
  simp only [param_schema, List.forall_mem_cons, List.not_mem_nil, IsEmpty.forall_iff, implies_true,
    and_true]
  have hdefault : windowDays (.str "last-90d") = .ok 90 := by rfl
  exact ⟨.int (by norm_num) (by norm_num), .int (by norm_num) (by norm_num), .window hdefault (by norm_num),
    .multi (by simp) (by simp), .enum (by simp)⟩

theorem ensures_account (target_label : String) (currencies : List String) (n_entities i : ℕ) :
    Ensures (account target_label currencies n_entities i : Gen rt SimBankAccount) fun a =>
      ∃ x, a.balance.1 = money x ∧ IsFinite x := by
  refine Ensures.bind' fun iban => Ensures.bind' fun currency => ?_
  refine (ensures_uniformInt (n := 500000) (by norm_num) (by norm_num)).bind fun x hx => ?_
  exact Ensures.fromExcept fun a ha =>
    ⟨x, (SimBankAccount.create_ok ha).2.2.2.2, isFinite_of_within hx⟩

theorem ensures_flow (today : Date) {window_days : ℤ} (hdays : 1 ≤ window_days) (account : SimBankAccount) :
    Ensures (flow today window_days account : Gen rt SimCashFlow) (Posted today window_days account) := by
  refine (ensures_signedAmount (n := 25000) (by norm_num) (by norm_num) (by norm_num)).bind
    fun x hx => ?_
  refine (PyRuntime.ensures_randint (by omega)).bind fun days hrange => ?_
  refine (PyRuntime.ensures_shiftDate today (-days)).bind fun value_date hdate => ?_
  refine Ensures.bind' fun counterparty => Ensures.bind' fun label => Ensures.bind' fun ref => ?_
  refine Ensures.fromExcept fun f hf => ?_
  obtain ⟨_, _, _, rfl⟩ := SimCashFlow.create_eq hf
  obtain ⟨q, hq⟩ := hx
  exact {
    account_iban := rfl
    currency := rfl
    amount := ⟨x, q, rfl, hq, allows_directionOf hq⟩
    value_date := recent_of_shift hdate hrange.1 (by omega)
    booked_at := by simp }

theorem ensures_batch {params p : Params} (hp : coerce_params rt.fmt param_schema params = .ok p)
    (target_label : String) (today : Date) :
    Ensures (batch p target_label today : Gen rt GeneratedBatch) fun b =>
      ∃ window_days, paramInt p "date_range" = .ok window_days ∧ Ledger today window_days b.records ∧
        b.records ≠ [] := by
  refine Ensures.bind (Ensures.fromExcept fun _ h => h) fun n_accounts hcount => ?_
  refine Ensures.bind' fun flows_per_account => ?_
  refine Ensures.bind (Ensures.fromExcept fun _ h => h) fun window_days hwindow => ?_
  refine Ensures.bind' fun currencies => Ensures.bind' fun source_format => ?_
  have hspec : .window "date_range" "last-90d" 1 365 ∈ param_schema := by simp [param_schema]
  have hbounds := paramWindow_bounds schema_nodup schema_wellFormed hp hspec hwindow
  have hpositive := paramInt_bounds schema_nodup schema_wellFormed hp
    (show .int "accounts" 3 1 20 ∈ param_schema by simp [param_schema]) hcount
  refine (Ensures.mapM fun i _ => ensures_account target_label currencies _ i).bind
    fun accounts haccounts => ?_
  refine (Ensures.mapM fun account _ => Ensures.mapM fun _ _ =>
    ensures_flow today hbounds.1 account).bind fun flows hflows => ?_
  refine Ensures.pure ⟨window_days, hwindow, ledger_of_accounts ?_ ?_, ?_⟩
  · intro a ha
    obtain ⟨i, _, hbalance⟩ := exists_of_mem_right haccounts ha
    exact hbalance
  · intro f hf
    obtain ⟨row, hrow, hf⟩ := List.mem_flatten.mp hf
    obtain ⟨account, haccount, hposted⟩ := exists_of_mem_right hflows hrow
    obtain ⟨_, _, hf⟩ := exists_of_mem_right hposted hf
    exact ⟨account, haccount, hf⟩
  · have hlength : accounts.length = n_accounts.toNat := by
      rw [← haccounts.length_eq, List.length_range]
    rw [← List.length_pos_iff, List.length_append, List.length_map]
    omega

theorem generate_ledger {params : Params} {seed : ℤ} {target_label : String} {today : Date}
    {b : GeneratedBatch} (h : generate rt params seed target_label today = .ok b) :
    ∃ p window_days, coerce_params rt.fmt param_schema params = .ok p ∧
      paramInt p "date_range" = .ok window_days ∧ Ledger today window_days b.records ∧ b.records ≠ [] :=
  generateWith_ensures (P := fun b => ∃ p window_days, coerce_params rt.fmt param_schema params = .ok p ∧
      paramInt p "date_range" = .ok window_days ∧ Ledger today window_days b.records ∧ b.records ≠ [])
    (fun p hp => (ensures_batch hp target_label today).mono fun _ ⟨days, hdays, hb⟩ =>
      ⟨p, days, hp, hdays, hb⟩) h

theorem generate_fabricated {params : Params} {seed : ℤ} {target_label : String} {today : Date}
    {b : GeneratedBatch} (h : generate rt params seed target_label today = .ok b) :
    ∀ r ∈ b.records, Fabricated IsFinite r := by
  obtain ⟨_, _, _, _, hledger, _⟩ := generate_ledger h
  exact hledger.fabricated

end ConnectIngestion
end AtlasConnectors
