import AtlasConnectors.FirewallBatch
import AtlasConnectors.Registry

/-! Generated batches are consistent in themselves: accounts, currencies, signs and dates. -/
namespace AtlasConnectors

def textAt (key : String) (payload : Payload Empty) : Option String :=
  match payload.lookup key with
  | some (.str text) => some text
  | _ => none

def intAt (key : String) (members : Payload PyFloat) : Option ℤ :=
  match members.lookup key with
  | some (.int n) => some n
  | _ => none

def floatAt (key : String) (members : Payload PyFloat) : Option PyFloat :=
  match members.lookup key with
  | some (.float x) => some x
  | _ => none

def stringAt (key : String) (members : Payload PyFloat) : Option String :=
  match members.lookup key with
  | some (.str text) => some text
  | _ => none

/-- An account among the earlier records has this number and this currency. -/
def HasAccount (earlier : List SimRecord) (iban currency : String) : Prop :=
  ∃ account ∈ earlier, account.1 = "bank_account" ∧ textAt "iban" account.2 = some iban ∧
    textAt "currency" account.2 = some currency

/-- A cash flow is on an earlier account, agrees with its direction, and is not dated after today
nor before the window of `window` days, if there is one. -/
structure ConsistentFlow (today : Date) (window : Option ℤ) (earlier : List SimRecord)
    (payload : Payload Empty) : Prop where
  account : ∃ iban currency, textAt "account_iban" payload = some iban ∧
    textAt "currency" payload = some currency ∧ HasAccount earlier iban currency
  amount : ∃ text q, textAt "amount" payload = some text ∧ NumberText.decimalValue text = some q ∧
    (textAt "direction" payload = some "credit" ∧ 0 ≤ q ∨
      textAt "direction" payload = some "debit" ∧ q ≤ 0)
  value_date : ∃ d : Date, textAt "value_date" payload = some d.isoformat ∧
    d.toOrdinal ≤ today.toOrdinal ∧
    ∀ days, window = some days → (today.toOrdinal : ℤ) - (days - 1) ≤ d.toOrdinal

structure ConsistentEntry (earlier : List SimRecord) (payload : Payload Empty) : Prop where
  account : ∃ iban currency, textAt "matches_iban" payload = some iban ∧
    textAt "currency" payload = some currency ∧ HasAccount earlier iban currency

/-- The trailing days that a preset is asked for. -/
def requestedWindow (preset_id : String) (p : Params) : Option ℤ :=
  if preset_id = "connect.ingestion.v1" then (paramInt p "date_range").toOption
  else if preset_id = "finhub.forecasting.v1" then (paramInt p "days").toOption
  else none

/-- The manifest labels the record as defective, and not as a verbatim duplicate. -/
def LabelledBroken (b : GeneratedBatch) (i : ℕ) : Prop :=
  ∃ reasons label, b.ground_truth.lookup "per_record_reason" = some (.obj reasons) ∧
    reasons.lookup (toString i) = some (.str label) ∧ label ≠ "dup_source_hash"

/-- Every record that is not labelled as broken is consistent with the earlier ones. -/
structure Consistent (today : Date) (window : Option ℤ) (b : GeneratedBatch) : Prop where
  cash_flow : ∀ i payload, b.records[i]? = some ("cash_flow", payload) → ¬LabelledBroken b i →
    ConsistentFlow today window (b.records.take i) payload
  financial_transaction : ∀ i payload, b.records[i]? = some ("financial_transaction", payload) →
    ¬LabelledBroken b i → ConsistentEntry (b.records.take i) payload

theorem hasAccount_record {earlier : List SimRecord} {a : SimBankAccount} (h : a.record ∈ earlier) :
    HasAccount earlier a.iban.1 a.currency.1 :=
  ⟨a.record, h, rfl, rfl, rfl⟩

theorem Posted.consistent {today : Date} {days : ℤ} {a : SimBankAccount} {f : SimCashFlow}
    (h : Posted today days a f) {earlier : List SimRecord} (ha : a.record ∈ earlier) {window : Option ℤ}
    (hwindow : ∀ n, window = some n → n = days) :
    ConsistentFlow today window earlier f.model_dump where
  account := by
    refine ⟨f.account_iban.1, f.currency.1, rfl, rfl, ?_⟩
    rw [h.account_iban, h.currency]
    exact hasAccount_record ha
  amount := by
    obtain ⟨x, q, hx, hq, hallows⟩ := h.amount
    have hvalue : NumberText.decimalValue f.amount.1 = some (NumberText.roundCents q) := by
      rw [hx, money, NumberText.decimalValue_fixed2 hq]
    refine ⟨f.amount.1, _, rfl, hvalue, ?_⟩
    have htext : textAt "direction" f.model_dump = some f.direction.text := rfl
    rw [htext, ← NumberText.roundCents_zero]
    cases hdirection : f.direction with
    | credit =>
      rw [hdirection] at hallows
      exact Or.inl ⟨rfl, NumberText.roundCents_mono hallows⟩
    | debit =>
      rw [hdirection] at hallows
      exact Or.inr ⟨rfl, NumberText.roundCents_mono hallows⟩
  value_date := by
    refine ⟨f.value_date, rfl, h.value_date.past, ?_⟩
    intro n hn
    have := h.value_date.window
    rw [hwindow n hn]
    omega

theorem Backed.consistentFlow {today : Date} {days : ℤ} {earlier : List SimRecord}
    {payload : Payload Empty} (h : Backed today days earlier ("cash_flow", payload)) {window : Option ℤ}
    (hwindow : ∀ n, window = some n → n = days) : ConsistentFlow today window earlier payload := by
  generalize hr : (("cash_flow", payload) : SimRecord) = r at h
  cases h with
  | bank_account a ha =>
    exact absurd (show "cash_flow" = "bank_account" from congrArg Prod.fst hr) (by decide)
  | cash_flow a f ha hf =>
    cases hr
    exact hf.consistent ha hwindow
  | financial_transaction a e ha he =>
    exact absurd (show "cash_flow" = "financial_transaction" from congrArg Prod.fst hr) (by decide)

theorem Backed.consistentEntry {today : Date} {days : ℤ} {earlier : List SimRecord}
    {payload : Payload Empty} (h : Backed today days earlier ("financial_transaction", payload)) :
    ConsistentEntry earlier payload := by
  generalize hr : (("financial_transaction", payload) : SimRecord) = r at h
  cases h with
  | bank_account a ha =>
    exact absurd (show "financial_transaction" = "bank_account" from congrArg Prod.fst hr) (by decide)
  | cash_flow a f ha hf =>
    exact absurd (show "financial_transaction" = "cash_flow" from congrArg Prod.fst hr) (by decide)
  | financial_transaction a e ha he =>
    cases hr
    refine ⟨a.iban.1, e.currency.1, ?_, rfl, ?_⟩
    · simp [textAt, SimErpEntry.model_dump, Dict.lookup_cons, he.matches_iban, optionText]
    · rw [he.currency]
      exact hasAccount_record ha

theorem Ledger.consistent {today : Date} {days : ℤ} {b : GeneratedBatch} (h : Ledger today days b.records)
    {window : Option ℤ} (hwindow : ∀ n, window = some n → n = days) : Consistent today window b where
  cash_flow := by
    intro i payload hi _
    exact (h i _ hi).consistentFlow hwindow
  financial_transaction := by
    intro i payload hi _
    exact (h i _ hi).consistentEntry

theorem ConnectFirewall.generate_consistent {rt : PyRuntime} {params : Params} {seed : ℤ}
    {target_label : String} {today : Date} {b : GeneratedBatch}
    (hb : ConnectFirewall.generate rt params seed target_label today = .ok b) :
    Consistent today none b := by
  obtain ⟨p, _, base_flows, bad_count, account, good, bad, acc, h, hgood⟩ :=
    ConnectFirewall.generate_goodLedger hb
  -- a record that is not labelled as broken is a good one, or repeats a good one
  have hbacked : ∀ i r, b.records[i]? = some r → ¬LabelledBroken b i →
      Backed today 30 (b.records.take i) r := by
    intro i r hr hlabel
    by_cases hfirst : i < 1 + base_flows.toNat
    · rw [h.getElem?_first hfirst] at hr
      rw [h.records_eq, List.take_append_of_le_length (by rw [h.first_length]; omega)]
      exact hgood i r hr
    · obtain ⟨k, rfl⟩ := Nat.exists_eq_add_of_le (not_lt.mp hfirst)
      rw [h.getElem?_bad, Option.map_eq_some_iff] at hr
      obtain ⟨d, hd, rfl⟩ := hr
      have hdup : d.1 = "dup_source_hash" := by
        by_contra hne
        apply hlabel
        have hmanifest := ConnectFirewall.manifest_shows bad_count acc
        refine ⟨_, d.1, by rw [h.truth]; exact hmanifest.reason, ?_, hne⟩
        rw [h.injected.reason, Dict.lookup_map, h.first_length,
          ConnectFirewall.lookup_labels.mpr ⟨k, d, rfl, hd, rfl⟩]
        rfl
      obtain ⟨f, hf, hpayload⟩ := (h.defective hd).mem_good hdup
      have hmem : f.record ∈ account.record :: good.map SimCashFlow.record :=
        List.mem_cons_of_mem _ (List.mem_map_of_mem hf)
      have hrecord : (("cash_flow", d.2) : SimRecord) = f.record := by rw [hpayload]; rfl
      rw [hrecord]
      apply Backed.mono _ _ _ _ (EachAfter.forall Backed.mono hgood f.record hmem)
      intro r hr
      rw [h.records_eq, List.take_append]
      exact List.mem_append_left _ (by rwa [List.take_of_length_le (by rw [h.first_length]; omega)])
  constructor
  · intro i payload hi hlabel
    exact (hbacked i _ hi hlabel).consistentFlow (by simp)
  · intro i payload hi hlabel
    exact (hbacked i _ hi hlabel).consistentEntry

/-- The batch of every preset is consistent, for parameters within its schema. -/
theorem batch_consistent {rt : PyRuntime} {gen : PresetGenerator} (h : gen ∈ generators rt)
    {params p : Params} {seed : ℤ} {target_label : String} {today : Date} {b : GeneratedBatch}
    (hp : coerce_params rt.fmt gen.param_schema params = .ok p) (hvalid : Respects gen.param_schema p)
    (hb : gen.generate params seed target_label today = .ok b) :
    Consistent today (requestedWindow gen.preset_id p) b := by
  revert gen
  apply forall_generators
  · exact fun _ _ hb => ConnectFirewall.generate_consistent hb
  · intro hp _ hb
    obtain ⟨p', window_days, hp', hdays, hledger, _⟩ := ConnectIngestion.generate_ledger hb
    cases hp.symm.trans hp'
    apply hledger.consistent
    intro n hn
    change (paramInt p "date_range").toOption = some n at hn
    rw [hdays] at hn
    exact (Option.some.inj hn).symm
  · exact fun _ _ hb => (FinhubAnomaly.generate_ledger hb).consistent (by rintro n ⟨⟩)
  · exact fun _ _ hb => (FinhubCircuitBreaker.generate_ledger hb).1.consistent (by rintro n ⟨⟩)
  · exact fun _ _ hb => (FinhubConsolidation.generate_ledger hb).consistent (by rintro n ⟨⟩)
  · intro hp hvalid hb
    obtain ⟨days, hdays, hledger⟩ := FinhubForecasting.generate_ledger hp hvalid hb
    apply hledger.consistent
    intro n hn
    change (paramInt p "days").toOption = some n at hn
    rw [hdays] at hn
    exact (Option.some.inj hn).symm
  · exact fun _ _ hb => (FinhubReconciliation.generate_ledger hb).consistent (by rintro n ⟨⟩)

def oneFlow : Params := [("accounts", .int 1), ("flows_per_account", .int 1)]

def oneFlowBatch : GeneratedBatch :=
  ((ConnectIngestion.generator leastDraws).generate oneFlow 42 "Société" newYear).toOption.getD ⟨[], [], "json"⟩

theorem oneFlow_generated :
    (ConnectIngestion.generator leastDraws).generate oneFlow 42 "Société" newYear = .ok oneFlowBatch :=
  Raising.eq_ok_getD (by decide +kernel) _

theorem oneFlow_coerced : ∃ p, coerce_params leastDraws.fmt ConnectIngestion.param_schema oneFlow = .ok p ∧
    Respects ConnectIngestion.param_schema p := by
  refine (coerce_params_respects_iff ConnectIngestion.schema_nodup ConnectIngestion.schema_wellFormed).mpr ?_
  simp [oneFlow, ConnectIngestion.param_schema, ParamSpec.int, ParamSpec.window, ParamSpec.multi,
    ParamSpec.enum, Dict.lookup_cons, Convertible]

theorem oneFlow_consistent : ∃ p,
    coerce_params leastDraws.fmt ConnectIngestion.param_schema oneFlow = .ok p ∧
      Consistent newYear (requestedWindow "connect.ingestion.v1" p) oneFlowBatch := by
  obtain ⟨p, hp, hvalid⟩ := oneFlow_coerced
  have hmem : ConnectIngestion.generator leastDraws ∈ generators leastDraws := by simp [generators]
  exact ⟨p, hp, batch_consistent hmem hp hvalid oneFlow_generated⟩

end AtlasConnectors
