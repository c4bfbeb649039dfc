import AtlasConnectors.Ledger

/-! `connect.firewall.v1`: good flows, then defective copies of them. -/
namespace AtlasConnectors
namespace ConnectFirewall

open Raising

def DEFECT_TYPES : List String := ["missing_field", "incoherent_amount", "dup_source_hash"]

variable {rt : PyRuntime}

def param_schema (rt : PyRuntime) : List ParamSpec :=
  [.int "base_flows" 50 1 2000, .float "bad_ratio" (rt.lit (3 / 10)) (rt.lit 0) (rt.lit 1),
    .multi "defect_types" DEFECT_TYPES DEFECT_TYPES]

def goodFlow (today : Date) (account : SimBankAccount) : Gen rt SimCashFlow := do
  let signed ← signedAmount 50 15000 (1 / 2)
  let days ← PyRuntime.randint 0 29
  let day ← PyRuntime.shiftDate today (-days)
  let counterparty ← PyRuntime.choice COUNTERPARTIES
  let n ← PyRuntime.randint 100000 999999
  fromExcept (SimCashFlow.create account.iban (money signed) "EUR" day none (directionOf signed)
    counterparty "Règlement" (some ("FW-" ++ NumberText.intText n)) none)

/-- What the loop carries: the records, and the manifest's labels and counters. -/
structure Progress where
  records : List SimRecord
  per_record_reason : Dict String String
  expected_quarantined : ℕ
  expected_duplicates : ℕ

def badRef (k : ℕ) : String := "FW-BAD-" ++ NumberText.zfill 4 k

def badAmount (k : ℕ) : String := if k % 2 = 0 then "NOT_A_NUMBER" else "999999999999999"

/-- The payload of bad record `k`: an earlier good one verbatim, or a broken copy of one. -/
def badPayload (good_payloads : List (Payload Empty)) (k : ℕ) (defect : String) :
    Gen rt (Payload Empty) :=
  if defect = "dup_source_hash" then PyRuntime.choice good_payloads
  else do
    let drawn ← PyRuntime.choice good_payloads
    let base := drawn.set "ref" (.str (badRef k))
    pure (if defect = "missing_field" then base.erase "currency"
      else base.set "amount" (.str (badAmount k)))

def addDefect (defect_types : List String) (good_payloads : List (Payload Empty)) (acc : Progress)
    (k : ℕ) : Gen rt Progress := do
  let defect ← fromExcept (cycled defect_types k)
  let index := acc.records.length
  let payload ← badPayload good_payloads k defect
  pure {
    records := acc.records ++ [("cash_flow", payload)]
    per_record_reason := acc.per_record_reason.set (toString index) defect
    expected_quarantined :=
      if defect = "dup_source_hash" then acc.expected_quarantined else acc.expected_quarantined + 1
    expected_duplicates :=
      if defect = "dup_source_hash" then acc.expected_duplicates + 1 else acc.expected_duplicates }

def manifest (bad_count : ℤ) (acc : Progress) : Payload PyFloat :=
  [("expected_quarantined", .int acc.expected_quarantined),
    ("expected_duplicates", .int acc.expected_duplicates), ("expected_bad", .int bad_count),
    ("per_record_reason", .obj (acc.per_record_reason.map fun label => (label.1, .str label.2)))]

def batch (p : Params) (target_label : String) (today : Date) : Gen rt GeneratedBatch := do
  let base_flows ← fromExcept (paramInt p "base_flows")
  let defect_types ← fromExcept (paramTexts p "defect_types")
  let bad_ratio ← fromExcept (paramFloat p "bad_ratio")
  let bad_count ← fromExcept (pyRound (.mul rt.fmt (.num base_flows) bad_ratio))
  let iban ← test_iban
  let balance ← uniformInt 10000 200000
  let account ← fromExcept (SimBankAccount.create iban "Compte courant 1" "EUR"
    (entity_label target_label 0) (money balance))
  let good ← (List.range base_flows.toNat).mapM fun _ => goodFlow today account
  let acc ← (List.range bad_count.toNat).foldlM
    (addDefect defect_types (good.map SimCashFlow.model_dump))
    ⟨account.record :: good.map SimCashFlow.record, [], 0, 0⟩
  pure {
    records := acc.records
    ground_truth := manifest bad_count acc
    source_format := "json" }

def generate (rt : PyRuntime) (params : Params) (seed : ℤ) (target_label : String) (today : Date) :
    Except PyExc GeneratedBatch :=
  generateWith rt (param_schema rt) (fun p => batch p target_label today) params seed

def generator (rt : PyRuntime) : PresetGenerator where
  preset_id := "connect.firewall.v1"
  moduleName := "AtlasConnect"
  feature := "firewall"
  label := "Pare-feu qualité"
  description := "Flux valides + enregistrements défectueux (champ manquant, montant incohérent, " ++
    "doublon source_hash) — la quarantaine et l'idempotence se prouvent."
  phase := 1
  param_schema := param_schema rt
  generate := generate rt

theorem schema_nodup (rt : PyRuntime) : ((param_schema rt).map ParamSpec.name).Nodup := by
  simp [param_schema, ParamSpec.int, ParamSpec.float, ParamSpec.multi]

theorem schema_wellFormed (rt : PyRuntime) : ∀ spec ∈ param_schema rt, WellFormed spec := by
  simp only [param_schema, List.forall_mem_cons, List.not_mem_nil, IsEmpty.forall_iff, implies_true,
    and_true]
  refine ⟨.int (by norm_num) (by norm_num), ?_, .multi (by simp [DEFECT_TYPES]) (by simp)⟩
  exact wellFormed_float rt (n := 1) (by norm_num) (by norm_num) (by norm_num) (by norm_num) (by norm_num)

/-- A good flow is in euros and has a reference of digits. -/
structure GoodFlow (f : SimCashFlow) : Prop where
  currency : f.currency.1 = "EUR"
  exists_ref : ∃ n : ℤ, 0 ≤ n ∧ f.ref = some ("FW-" ++ NumberText.intText n)

theorem ensures_goodFlow (today : Date) {account : SimBankAccount} (hcurrency : account.currency.1 = "EUR") :
    Ensures (goodFlow today account : Gen rt SimCashFlow) fun f => GoodFlow f ∧ Posted today 30 account f := by
  refine (ensures_signedAmount (n := 15000) (by norm_num) (by norm_num) (by norm_num)).bind
    fun x hx => ?_
  refine (PyRuntime.ensures_randint (by norm_num)).bind fun days hrange => ?_
  refine (PyRuntime.ensures_shiftDate today (-days)).bind fun day hday => ?_
  refine Ensures.bind' fun counterparty => ?_
  refine (PyRuntime.ensures_randint (by norm_num)).bind fun n hn => ?_
  refine Ensures.fromExcept fun f hf => ?_
  obtain ⟨_, _, _, rfl⟩ := SimCashFlow.create_eq hf
  obtain ⟨q, hq⟩ := hx
  refine ⟨⟨rfl, n, by omega, rfl⟩, ?_⟩
  exact {
    account_iban := rfl
    currency := hcurrency.symm
    amount := ⟨x, q, rfl, hq, allows_directionOf hq⟩
    value_date := recent_of_shift hday hrange.1 (by omega)
    booked_at := by simp }

/-- What a bad record may be: its label and its payload, made from a good payload. -/
inductive Defective (good_payloads : List (Payload Empty)) (k : ℕ) : String × Payload Empty → Prop
  | dup (payload : Payload Empty) (h : payload ∈ good_payloads) :
      Defective good_payloads k ("dup_source_hash", payload)
  | missing (base : Payload Empty) (h : base ∈ good_payloads) :
      Defective good_payloads k
        ("missing_field", (base.set "ref" (.str (badRef k))).erase "currency")
  | incoherent (defect : String) (base : Payload Empty) (h : base ∈ good_payloads)
      (hdup : defect ≠ "dup_source_hash") :
      Defective good_payloads k
        (defect, (base.set "ref" (.str (badRef k))).set "amount" (.str (badAmount k)))

theorem ensures_badPayload (good_payloads : List (Payload Empty)) (k : ℕ) (defect : String) :
    Ensures (badPayload good_payloads k defect : Gen rt (Payload Empty)) fun payload =>
      Defective good_payloads k (defect, payload) := by
  unfold badPayload
  by_cases hdup : defect = "dup_source_hash"
  · rw [if_pos hdup, hdup]
    exact (PyRuntime.ensures_choice good_payloads).mono fun payload h => .dup payload h
  · rw [if_neg hdup]
    refine (PyRuntime.ensures_choice good_payloads).bind fun base hbase => Ensures.pure ?_
    by_cases hmissing : defect = "missing_field"
    · rw [if_pos hmissing, hmissing]
      exact .missing base hbase
    · rw [if_neg hmissing]
      exact .incoherent defect base hbase hdup

/-- The labels of the bad records, which follow `n` other records. -/
def labels (n : ℕ) (bad : List (String × Payload Empty)) : Dict String String :=
  (bad.zipIdx n).map fun d => (toString d.2, d.1.1)

theorem keys_labels (n : ℕ) (bad : List (String × Payload Empty)) :
    (labels n bad).keys = (List.range' n bad.length).map fun i => toString i := by
  rw [← List.zipIdx_map_snd, labels, Dict.keys, List.map_map, List.map_map]
  rfl

theorem set_labels (n : ℕ) (bad : List (String × Payload Empty)) (d : String × Payload Empty) :
    (labels n bad).set (toString (n + bad.length)) d.1 = labels n (bad ++ [d]) := by
  have hnew : toString (n + bad.length) ∉ (labels n bad).keys := by
    rw [keys_labels, List.mem_map]
    rintro ⟨i, hi, heq⟩
    have hlt := (List.mem_range'_1.mp hi).2
    exact absurd (NumberText.natText_injective heq) (by omega)
  rw [Dict.set_of_not_mem hnew, labels, labels, List.zipIdx_append, List.map_append]
  simp

/-- The loop's invariant: the records added so far are defective copies, labelled and counted. -/
structure Injected (first : List SimRecord) (good_payloads : List (Payload Empty)) (ks : List ℕ)
    (bad : List (String × Payload Empty)) (acc : Progress) : Prop where
  defective : List.Forall₂ (Defective good_payloads) ks bad
  records : acc.records = first ++ bad.map fun d => ("cash_flow", d.2)
  reason : acc.per_record_reason = labels first.length bad
  quarantined : acc.expected_quarantined = bad.countP fun d => d.1 ≠ "dup_source_hash"
  duplicates : acc.expected_duplicates = bad.countP fun d => d.1 = "dup_source_hash"

theorem ensures_addDefect {first : List SimRecord} {good_payloads : List (Payload Empty)}
    {ks : List ℕ} {bad : List (String × Payload Empty)} {acc : Progress} (defect_types : List String)
    (k : ℕ) (h : Injected first good_payloads ks bad acc) :
    Ensures (addDefect defect_types good_payloads acc k : Gen rt Progress) fun out =>
      ∃ bad, Injected first good_payloads (ks ++ [k]) bad out := by
  refine Ensures.bind' fun defect => ?_
  refine (ensures_badPayload good_payloads k defect).bind fun payload hpayload => ?_
  refine Ensures.pure ⟨bad ++ [(defect, payload)], ?_⟩
  have hlength : acc.records.length = first.length + bad.length := by
    rw [h.records, List.length_append, List.length_map]
  constructor
  · exact List.rel_append h.defective (.cons hpayload .nil)
  · simp [h.records]
  · rw [hlength, h.reason]
    exact set_labels first.length bad (defect, payload)
  · by_cases hdup : defect = "dup_source_hash" <;> simp [hdup, h.quarantined, List.countP_append]
  · by_cases hdup : defect = "dup_source_hash" <;> simp [hdup, h.duplicates, List.countP_append]

/-- The batch of coerced parameters: the account, good flows, then the bad records. -/
structure Firewalled (rt : PyRuntime) (p : Params) (base_flows bad_count : ℤ) (account : SimBankAccount)
    (good : List SimCashFlow) (bad : List (String × Payload Empty)) (acc : Progress)
    (b : GeneratedBatch) : Prop where
  base : paramInt p "base_flows" = .ok base_flows
  count : ∃ ratio, paramFloat p "bad_ratio" = .ok ratio ∧
    pyRound (.mul rt.fmt (.num base_flows) ratio) = .ok bad_count
  length : good.length = base_flows.toNat
  flows : ∀ f ∈ good, GoodFlow f
  injected : Injected (account.record :: good.map SimCashFlow.record) (good.map SimCashFlow.model_dump)
    (List.range bad_count.toNat) bad acc
  records : b.records = acc.records
  truth : b.ground_truth = manifest bad_count acc

/-- The account and the good flows are a ledger. -/
def GoodLedger (today : Date) (account : SimBankAccount) (good : List SimCashFlow) : Prop :=
  Ledger today 30 (account.record :: good.map SimCashFlow.record)

theorem ensures_batch (p : Params) (target_label : String) (today : Date) :
    Ensures (batch p target_label today : Gen rt GeneratedBatch) fun b =>
      ∃ base_flows bad_count account good bad acc,
        Firewalled rt p base_flows bad_count account good bad acc b ∧ GoodLedger today account good := by
  refine Ensures.bind (Ensures.fromExcept fun _ h => h) fun base_flows hbase => ?_
  refine Ensures.bind' fun defect_types => ?_
  refine Ensures.bind (Ensures.fromExcept fun _ h => h) fun ratio hratio => ?_
  refine Ensures.bind (Ensures.fromExcept fun _ h => h) fun bad_count hcount => ?_
  refine Ensures.bind' fun iban => ?_
  refine (ensures_uniformInt (n := 200000) (by norm_num) (by norm_num)).bind fun x hx => ?_
  refine Ensures.bind (Ensures.fromExcept fun a ha => SimBankAccount.create_ok ha) fun account ha => ?_
  have hcurrency : account.currency.1 = "EUR" := ha.2.2.1
  refine (Ensures.mapM fun _ _ => ensures_goodFlow today hcurrency).bind fun good hgood => ?_
  have hflows : ∀ f ∈ good, GoodFlow f ∧ Posted today 30 account f := by
    intro f hf
    obtain ⟨_, _, hflow⟩ := exists_of_mem_right hgood hf
    exact hflow
  refine Ensures.bind (Ensures.foldlM (I := fun ks acc => ∃ bad, Injected
    (account.record :: good.map SimCashFlow.record) (good.map SimCashFlow.model_dump) ks bad acc)
    ?_ ?_) ?_
  · exact ⟨[], .nil, by simp, rfl, rfl, rfl⟩
  · rintro ks k acc _ ⟨bad, hbad⟩
    exact ensures_addDefect defect_types k hbad
  · rintro acc ⟨bad, hbad⟩
    refine Ensures.pure ⟨base_flows, bad_count, account, good, bad, acc,
      ⟨hbase, ⟨ratio, hratio, hcount⟩, ?_, fun f hf => (hflows f hf).1, hbad, rfl, rfl⟩, ?_⟩
    · rw [← hgood.length_eq, List.length_range]
    · have hbalance : ∀ a ∈ [account], ∃ x, a.balance.1 = money x ∧ IsFinite x := by
        intro a h
        rw [List.mem_singleton.mp h]
        exact ⟨x, ha.2.2.2.2, isFinite_of_within hx⟩
      exact ledger_of_accounts hbalance fun f hf =>
        ⟨account, List.mem_singleton_self account, (hflows f hf).2⟩

theorem generate_goodLedger {params : Params} {seed : ℤ} {target_label : String} {today : Date}
    {b : GeneratedBatch} (h : generate rt params seed target_label today = .ok b) :
    ∃ p, coerce_params rt.fmt (param_schema rt) params = .ok p ∧
      ∃ base_flows bad_count account good bad acc,
        Firewalled rt p base_flows bad_count account good bad acc b ∧ GoodLedger today account good :=
  generateWith_ensures (P := fun b => ∃ p, coerce_params rt.fmt (param_schema rt) params = .ok p ∧
      ∃ base_flows bad_count account good bad acc,
        Firewalled rt p base_flows bad_count account good bad acc b ∧ GoodLedger today account good)
    (fun p hp => (ensures_batch p target_label today).mono fun _ hb => ⟨p, hp, hb⟩) h

theorem generate_firewalled {params : Params} {seed : ℤ} {target_label : String} {today : Date}
    {b : GeneratedBatch} (h : generate rt params seed target_label today = .ok b) :
    ∃ p, coerce_params rt.fmt (param_schema rt) params = .ok p ∧
      ∃ base_flows bad_count account good bad acc,
        Firewalled rt p base_flows bad_count account good bad acc b := by
  obtain ⟨p, hp, base_flows, bad_count, account, good, bad, acc, hb, _⟩ := generate_goodLedger h
  exact ⟨p, hp, base_flows, bad_count, account, good, bad, acc, hb⟩

theorem mem_keys_model_dump {f : SimCashFlow} {k : String} (hk : k = "ref" ∨ k = "amount") :
    k ∈ Dict.keys f.model_dump := by
  rcases hk with rfl | rfl <;> simp [Dict.keys, SimCashFlow.model_dump]

theorem Defective.typed {good : List SimCashFlow} {k : ℕ} {d : String × Payload Empty}
    (h : Defective (good.map SimCashFlow.model_dump) k d) : Typed ("cash_flow", d.2) := by
  cases h with
  | dup payload hmem =>
    obtain ⟨f, _, rfl⟩ := List.mem_map.mp hmem
    exact f.typed
  | missing base hmem =>
    obtain ⟨f, _, rfl⟩ := List.mem_map.mp hmem
    have hflat := f.flat.set (mem_keys_model_dump (Or.inl rfl)) (Json.isScalar_str (badRef k))
    refine ⟨hflat.erase "currency", by simp, ?_, ?_⟩
    · simp [Dict.lookup_erase, Dict.lookup_set, SimCashFlow.model_dump]
    · simp [Dict.lookup_erase, Dict.lookup_set, SimCashFlow.model_dump, Dict.lookup_cons]
  | incoherent defect base hmem _ =>
    obtain ⟨f, _, rfl⟩ := List.mem_map.mp hmem
    have hflat := f.flat.set (mem_keys_model_dump (Or.inl rfl)) (Json.isScalar_str (badRef k))
    have hmem : "amount" ∈ Dict.keys (f.model_dump.set "ref" (.str (badRef k))) := by
      rw [Dict.keys_set_of_mem (mem_keys_model_dump (Or.inl rfl))]
      exact mem_keys_model_dump (Or.inr rfl)
    refine ⟨hflat.set hmem (Json.isScalar_str _), by simp, ?_, ?_⟩
    · simp [Dict.lookup_set, SimCashFlow.model_dump]
    · simp [Dict.lookup_set, SimCashFlow.model_dump, Dict.lookup_cons]

theorem Firewalled.typed {p : Params} {base_flows bad_count : ℤ} {account : SimBankAccount}
    {good : List SimCashFlow} {bad : List (String × Payload Empty)} {acc : Progress}
    {b : GeneratedBatch} (h : Firewalled rt p base_flows bad_count account good bad acc b) :
    ∀ r ∈ b.records, Typed r := by
  intro r hr
  rw [h.records, h.injected.records] at hr
  rcases List.mem_append.mp hr with hr | hr
  · rcases List.mem_cons.mp hr with rfl | hr
    · exact account.typed
    · obtain ⟨f, _, rfl⟩ := List.mem_map.mp hr
      exact f.typed
  · obtain ⟨d, hd, rfl⟩ := List.mem_map.mp hr
    obtain ⟨k, _, hdef⟩ := exists_of_mem_right h.injected.defective hd
    exact hdef.typed

theorem generate_typed {params : Params} {seed : ℤ} {target_label : String} {today : Date}
    {b : GeneratedBatch} (h : generate rt params seed target_label today = .ok b) :
    ∀ r ∈ b.records, Typed r := by
  obtain ⟨_, _, _, _, _, _, _, _, hb⟩ := generate_firewalled h
  exact hb.typed

end ConnectFirewall
end AtlasConnectors
