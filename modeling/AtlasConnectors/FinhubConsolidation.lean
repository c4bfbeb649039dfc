import AtlasConnectors.Ledger

/-! `finhub.consolidation.v1`: accounts of several entities in several currencies. -/
namespace AtlasConnectors
namespace FinhubConsolidation

open Raising

def param_schema : List ParamSpec :=
  [.int "entities" 4 1 15, .int "accounts_per_entity" 2 1 10,
    .multi "currencies" ["EUR", "USD"] ["EUR", "USD", "GBP", "CHF"]]

variable {rt : PyRuntime}

/-- Indicative, fixed rates for the approximate total only. -/
def EUR_RATE (rt : PyRuntime) : Dict String PyFloat :=
  [("EUR", rt.lit 1), ("USD", rt.lit (92 / 100)), ("GBP", rt.lit (117 / 100)),
    ("CHF", rt.lit (105 / 100))]

def eurRate (rt : PyRuntime) (currency : String) : Except PyExc PyFloat :=
  match (EUR_RATE rt).lookup currency with
  | some rate => .ok rate
  | none => .error (.keyError currency)

def FLOWS_PER_ACCOUNT : ℕ := 5

/-- What the loops carry from one account to the next. -/
structure Progress where
  records : List SimRecord
  total_eur : PyFloat
  account_index : ℕ

def flow (today : Date) (account : SimBankAccount) (currency : String) : Gen rt SimCashFlow := do
  let signed ← signedAmount 100 20000 (6 / 10)
  let days ← PyRuntime.randint 0 29
  let value_date ← PyRuntime.shiftDate today (-days)
  let counterparty ← PyRuntime.choice COUNTERPARTIES
  let ref ← PyRuntime.randint 100000 999999
  fromExcept (SimCashFlow.create account.iban (money signed) currency value_date none
    (directionOf signed) counterparty "Règlement consolidé"
    (some ("CONS-" ++ NumberText.intText ref)) none)

/-- The inner loop body: one account and its flows. -/
def account (today : Date) (currencies : List String) (entity : String) (acc : Progress) :
    Gen rt Progress := do
  let currency ← fromExcept (cycled currencies acc.account_index)
  let balance ← uniformInt 20000 800000
  let iban ← test_iban
  let account ← fromExcept (SimBankAccount.create iban
    ("Compte " ++ currency ++ " " ++ toString (acc.account_index + 1)) currency entity (money balance))
  let value ← fromExcept (pyFloat rt.fmt (.str account.balance))
  let rate ← fromExcept (eurRate rt currency)
  let flows ← (List.range FLOWS_PER_ACCOUNT).mapM fun _ => flow today account currency
  pure {
    records := acc.records ++ account.record :: flows.map SimCashFlow.record
    total_eur := .add rt.fmt acc.total_eur (.mul rt.fmt value rate)
    account_index := acc.account_index + 1 }

def batch (p : Params) (target_label : String) (today : Date) : Gen rt GeneratedBatch := do
  let n_entities ← fromExcept (paramInt p "entities")
  let per_entity ← fromExcept (paramInt p "accounts_per_entity")
  let currencies ← fromExcept (paramTexts p "currencies")
  let acc ← (List.range n_entities.toNat).foldlM (fun acc e =>
    (List.range per_entity.toNat).foldlM (fun acc _ =>
      account today currencies (entity_label target_label e) acc) acc) ⟨[], .num 0, 0⟩
  pure {
    records := acc.records
    ground_truth := [("expected_entities", .int n_entities),
      ("expected_accounts", .int (n_entities * per_entity)),
      ("expected_total_eur_approx", .float (roundPlaces rt.fmt 2 acc.total_eur))]
    source_format := "json" }

def generate (rt : PyRuntime) (params : Params) (seed : ℤ) (target_label : String) (today : Date) :
    Except PyExc GeneratedBatch :=
  generateWith rt param_schema (fun p => batch p target_label today) params seed

def generator (rt : PyRuntime) : PresetGenerator where
  preset_id := "finhub.consolidation.v1"
  moduleName := "AtlasFinhub"
  feature := "consolidation"
  label := "Consolidation multi-entités"
  description := "Arbre multi-entités et ventilation devises sur le cockpit consolidé."
  phase := 1
  param_schema := param_schema
  generate := generate rt

theorem schema_nodup : (param_schema.map ParamSpec.name).Nodup := by
  simp [param_schema, ParamSpec.int, ParamSpec.multi]

theorem schema_wellFormed : ∀ spec ∈ param_schema, WellFormed spec := by
  simp only [param_schema, List.forall_mem_cons, List.not_mem_nil, IsEmpty.forall_iff, implies_true,
    and_true]
  exact ⟨.int (by norm_num) (by norm_num), .int (by norm_num) (by norm_num), .multi (by simp) (by simp)⟩

theorem ensures_flow (today : Date) (account : SimBankAccount) :
    Ensures (flow today account account.currency : Gen rt SimCashFlow) (Posted today 30 account) := by
  refine (ensures_signedAmount (n := 20000) (by norm_num) (by norm_num) (by norm_num)).bind
    fun x hx => ?_
  refine (PyRuntime.ensures_randint (by norm_num)).bind fun days hrange => ?_
  refine (PyRuntime.ensures_shiftDate today (-days)).bind fun value_date hdate => ?_
  refine Ensures.bind' fun counterparty => Ensures.bind' fun ref => Ensures.fromExcept fun f hf => ?_
  obtain ⟨_, _, _, rfl⟩ := SimCashFlow.create_eq hf
  obtain ⟨q, hq⟩ := hx
  exact {
    account_iban := rfl
    currency := rfl
    amount := ⟨x, q, rfl, hq, allows_directionOf hq⟩
    value_date := recent_of_shift hdate hrange.1 (by omega)
    booked_at := by simp }

/-- An account with its flows, and what it adds to the total. -/
structure Block where
  account : SimBankAccount
  flows : List SimCashFlow
  euros : PyFloat

def Block.records (block : Block) : List SimRecord :=
  block.account.record :: block.flows.map SimCashFlow.record

/-- The block of the account at an index, under an entity. -/
structure BlockOf (rt : PyRuntime) (today : Date) (currencies : List String) (entity : String)
    (index : ℕ) (block : Block) : Prop where
  entity : block.account.entity = entity
  currency : cycled currencies index = .ok block.account.currency.1
  balance : ∃ x, block.account.balance.1 = money x ∧ x.Within (800000 : ℕ)
  euros : ∃ value rate, pyFloat rt.fmt (.str block.account.balance) = .ok value ∧
    eurRate rt block.account.currency = .ok rate ∧ block.euros = .mul rt.fmt value rate
  length : block.flows.length = FLOWS_PER_ACCOUNT
  posted : ∀ f ∈ block.flows, Posted today 30 block.account f

/-- The loops' invariant: one block for each entity label met so far, and their running total. -/
structure Consolidating (rt : PyRuntime) (today : Date) (currencies entities : List String)
    (blocks : List Block) (acc : Progress) : Prop where
  related : List.Forall₂ (fun entity block => BlockOf rt today currencies entity.1 entity.2 block)
    entities.zipIdx blocks
  records : acc.records = blocks.flatMap Block.records
  total_eur : acc.total_eur = (blocks.map Block.euros).foldl (.add rt.fmt) (.num 0)
  account_index : acc.account_index = entities.length

theorem ensures_account {today : Date} {currencies entities : List String} {blocks : List Block}
    {acc : Progress} (entity : String) (h : Consolidating rt today currencies entities blocks acc) :
    Ensures (account today currencies entity acc : Gen rt Progress) fun out =>
      ∃ blocks, Consolidating rt today currencies (entities ++ [entity]) blocks out := by
  refine Ensures.bind (Ensures.fromExcept fun _ h => h) fun currency hcurrency => ?_
  refine (ensures_uniformInt (n := 800000) (by norm_num) (by norm_num)).bind fun x hx => ?_
  refine Ensures.bind' fun iban => ?_
  refine Ensures.bind (Ensures.fromExcept fun a ha => SimBankAccount.create_ok ha) fun a ha => ?_
  obtain ⟨_, _, rfl, hentity, hbalance⟩ := ha
  refine Ensures.bind (Ensures.fromExcept fun _ h => h) fun value hvalue => ?_
  refine Ensures.bind (Ensures.fromExcept fun _ h => h) fun rate hrate => ?_
  refine (Ensures.mapM fun _ _ => ensures_flow today a).bind fun flows hflows => ?_
  refine Ensures.pure ⟨blocks ++ [⟨a, flows, .mul rt.fmt value rate⟩], ?_, ?_, ?_, ?_⟩
  · rw [List.zipIdx_append]
    refine List.rel_append h.related (.cons ?_ .nil)
    exact {
      entity := hentity
      currency := by simpa [h.account_index] using hcurrency
      balance := ⟨x, hbalance, hx⟩
      euros := ⟨value, rate, hvalue, hrate, rfl⟩
      length := by rw [← hflows.length_eq, List.length_range]
      posted := by
        intro f hf
        obtain ⟨_, _, hposted⟩ := exists_of_mem_right hflows hf
        exact hposted }
  · simp [h.records, Block.records]
  · simp [h.total_eur]
  · simp [h.account_index]

def entityLabels (target_label : String) (n_entities per_entity : ℕ) : List String :=
  (List.range n_entities).flatMap fun e => List.replicate per_entity (entity_label target_label e)

/-- The batch of coerced parameters: its blocks, and the counts and the total of the manifest. -/
structure Consolidated (rt : PyRuntime) (p : Params) (target_label : String) (today : Date)
    (n_entities per_entity : ℤ) (blocks : List Block) (b : GeneratedBatch) : Prop where
  param_entities : paramInt p "entities" = .ok n_entities
  param_accounts : paramInt p "accounts_per_entity" = .ok per_entity
  exists_currencies : ∃ currencies, paramTexts p "currencies" = .ok currencies ∧
    List.Forall₂ (fun entity block => BlockOf rt today currencies entity.1 entity.2 block)
      (entityLabels target_label n_entities.toNat per_entity.toNat).zipIdx blocks
  records : b.records = blocks.flatMap Block.records
  truth : b.ground_truth = [("expected_entities", .int n_entities),
    ("expected_accounts", .int (n_entities * per_entity)), ("expected_total_eur_approx",
      .float (roundPlaces rt.fmt 2 ((blocks.map Block.euros).foldl (.add rt.fmt) (.num 0))))]

theorem ensures_batch (p : Params) (target_label : String) (today : Date) :
    Ensures (batch p target_label today : Gen rt GeneratedBatch) fun b =>
      ∃ n_entities per_entity blocks,
        Consolidated rt p target_label today n_entities per_entity blocks b := by
  refine Ensures.bind (Ensures.fromExcept fun _ h => h) fun n_entities hentities => ?_
  refine Ensures.bind (Ensures.fromExcept fun _ h => h) fun per_entity hper => ?_
  refine Ensures.bind (Ensures.fromExcept fun _ h => h) fun currencies hcurrencies => ?_
  -- the outer loop has met whole groups of labels, the inner one a part of the next group
  refine Ensures.bind (Ensures.foldlM (I := fun es acc => ∃ blocks, Consolidating rt today currencies
    (es.flatMap fun e => List.replicate per_entity.toNat (entity_label target_label e)) blocks acc) ?_ ?_) ?_
  · exact ⟨[], .nil, rfl, rfl, rfl⟩
  · rintro es e acc _ ⟨blocks, hacc⟩
    refine (Ensures.foldlM (I := fun ks acc => ∃ blocks, Consolidating rt today currencies
      ((es.flatMap fun e => List.replicate per_entity.toNat (entity_label target_label e)) ++
        List.replicate ks.length (entity_label target_label e)) blocks acc) ?_ ?_).mono ?_
    · exact ⟨blocks, by simpa using hacc⟩
    · rintro ks k acc _ ⟨blocks, hacc⟩
      have hstep := ensures_account (entity_label target_label e) hacc
      rw [List.append_assoc, ← List.replicate_succ'] at hstep
      simpa using hstep
    · rintro out ⟨blocks, hout⟩
      exact ⟨blocks, by simpa using hout⟩
  · rintro acc ⟨blocks, hacc⟩
    refine Ensures.pure ⟨n_entities, per_entity, blocks, hentities, hper, ⟨currencies, hcurrencies, ?_⟩,
      hacc.records, ?_⟩
    · exact hacc.related
    · rw [hacc.total_eur]

theorem generate_consolidated {params : Params} {seed : ℤ} {target_label : String} {today : Date}
    {b : GeneratedBatch} (h : generate rt params seed target_label today = .ok b) :
    ∃ p, coerce_params rt.fmt param_schema params = .ok p ∧ ∃ n_entities per_entity blocks,
      Consolidated rt p target_label today n_entities per_entity blocks b :=
  generateWith_ensures (P := fun b => ∃ p, coerce_params rt.fmt param_schema params = .ok p ∧
      ∃ n_entities per_entity blocks, Consolidated rt p target_label today n_entities per_entity blocks b)
    (fun p hp => (ensures_batch p target_label today).mono fun _ hb => ⟨p, hp, hb⟩) h

theorem length_entityLabels (target_label : String) (n_entities per_entity : ℕ) :
    (entityLabels target_label n_entities per_entity).length = n_entities * per_entity := by
  simp [entityLabels]

section Consolidated

variable {params p : Params} {target_label : String} {today : Date} {n_entities per_entity : ℤ}
  {blocks : List Block} {b : GeneratedBatch}
  (h : Consolidated rt p target_label today n_entities per_entity blocks b)

include h

theorem Consolidated.length : blocks.length = n_entities.toNat * per_entity.toNat := by
  obtain ⟨_, _, hblocks⟩ := h.exists_currencies
  rw [← hblocks.length_eq, List.length_zipIdx, length_entityLabels]

theorem Consolidated.bounds (hp : coerce_params rt.fmt param_schema params = .ok p) :
    (1 ≤ n_entities ∧ n_entities ≤ 15) ∧ 1 ≤ per_entity ∧ per_entity ≤ 10 :=
  ⟨paramInt_bounds schema_nodup schema_wellFormed hp
      (show .int "entities" 4 1 15 ∈ param_schema by simp [param_schema]) h.param_entities,
    paramInt_bounds schema_nodup schema_wellFormed hp
      (show .int "accounts_per_entity" 2 1 10 ∈ param_schema by simp [param_schema]) h.param_accounts⟩

theorem Consolidated.records_ne_nil (hp : coerce_params rt.fmt param_schema params = .ok p) :
    b.records ≠ [] := by
  obtain ⟨⟨hentities, _⟩, hper, _⟩ := h.bounds hp
  have hlength : 0 < blocks.length := by
    rw [h.length]
    exact Nat.mul_pos (by omega) (by omega)
  obtain ⟨block, rest, rfl⟩ := List.exists_cons_of_length_pos hlength
  rw [h.records]
  simp [Block.records]

end Consolidated

theorem ledger_of_blocks {today : Date} {currencies : List String} {blocks : List Block}
    (h : ∀ block ∈ blocks, ∃ entity index, BlockOf rt today currencies entity index block) :
    Ledger today 30 (blocks.flatMap Block.records) := by
  induction blocks using List.reverseRecOn with
  | nil => exact eachAfter_nil
  | append_singleton blocks block ih =>
    obtain ⟨_, _, hblock⟩ := h block (by simp)
    obtain ⟨x, hbalance, hx⟩ := hblock.balance
    have hopen := (ih fun other hother => h other (by simp [hother])).open_account
      ⟨x, hbalance, isFinite_of_within hx⟩
    have hpost := hopen.post fun f hf => ⟨block.account, by simp, hblock.posted f hf⟩
    simpa [Block.records] using hpost

theorem generate_ledger {params : Params} {seed : ℤ} {target_label : String} {today : Date}
    {b : GeneratedBatch} (h : generate rt params seed target_label today = .ok b) :
    Ledger today 30 b.records := by
  obtain ⟨_, _, _, _, blocks, hb⟩ := generate_consolidated h
  obtain ⟨currencies, _, hblocks⟩ := hb.exists_currencies
  rw [hb.records]
  apply ledger_of_blocks
  intro block hblock
  obtain ⟨entity, _, hof⟩ := exists_of_mem_right hblocks hblock
  exact ⟨entity.1, entity.2, hof⟩

theorem generate_fabricated {params : Params} {seed : ℤ} {target_label : String} {today : Date}
    {b : GeneratedBatch} (h : generate rt params seed target_label today = .ok b) :
    ∀ r ∈ b.records, Fabricated IsFinite r := (generate_ledger h).fabricated

end FinhubConsolidation
end AtlasConnectors
