import AtlasConnectors.Binary64
import AtlasConnectors.ConnectFirewall
import AtlasConnectors.ConnectIngestion
import AtlasConnectors.FinhubAnomaly
import AtlasConnectors.FinhubCircuitBreaker
import AtlasConnectors.FinhubConsolidation
import AtlasConnectors.FinhubForecasting
import AtlasConnectors.FinhubReconciliation

/-! The registered presets, and what holds of all of them. -/
namespace AtlasConnectors

def generators (rt : PyRuntime) : List PresetGenerator :=
  [ConnectFirewall.generator rt, ConnectIngestion.generator rt, FinhubAnomaly.generator rt,
    FinhubCircuitBreaker.generator rt, FinhubConsolidation.generator rt,
    FinhubForecasting.generator rt, FinhubReconciliation.generator rt]

def REGISTRY (rt : PyRuntime) : Dict String PresetGenerator :=
  (generators rt).map fun gen => (gen.preset_id, gen)

variable {rt : PyRuntime}

theorem REGISTRY_nodup (rt : PyRuntime) : (REGISTRY rt).keys.Nodup := by
  change ["connect.firewall.v1", "connect.ingestion.v1", "finhub.anomaly.v1",
    "finhub.circuit_breaker.v1", "finhub.consolidation.v1", "finhub.forecasting.v1",
    "finhub.reconciliation.v1"].Nodup
  decide

theorem mem_generators_of_lookup {preset_id : String} {gen : PresetGenerator}
    (h : (REGISTRY rt).lookup preset_id = some gen) :
    gen ∈ generators rt ∧ gen.preset_id = preset_id := by
  obtain ⟨g, hg, heq⟩ := List.mem_map.mp (Dict.mem_of_lookup h)
  cases heq
  exact ⟨hg, rfl⟩

theorem forall_generators {P : PresetGenerator → Prop} (hfirewall : P (ConnectFirewall.generator rt))
    (hingestion : P (ConnectIngestion.generator rt)) (hanomaly : P (FinhubAnomaly.generator rt))
    (hbreaker : P (FinhubCircuitBreaker.generator rt))
    (hconsolidation : P (FinhubConsolidation.generator rt))
    (hforecasting : P (FinhubForecasting.generator rt))
    (hreconciliation : P (FinhubReconciliation.generator rt)) {gen : PresetGenerator}
    (h : gen ∈ generators rt) : P gen := by
  simp only [generators, List.mem_cons, List.not_mem_nil, or_false] at h
  rcases h with rfl | rfl | rfl | rfl | rfl | rfl | rfl
  · exact hfirewall
  · exact hingestion
  · exact hanomaly
  · exact hbreaker
  · exact hconsolidation
  · exact hforecasting
  · exact hreconciliation

theorem generators_schema_nodup {gen : PresetGenerator} (h : gen ∈ generators rt) :
    (gen.param_schema.map ParamSpec.name).Nodup := by
  revert gen
  apply forall_generators
  · exact ConnectFirewall.schema_nodup rt
  · exact ConnectIngestion.schema_nodup
  · exact FinhubAnomaly.schema_nodup
  · exact FinhubCircuitBreaker.schema_nodup rt
  · exact FinhubConsolidation.schema_nodup
  · exact FinhubForecasting.schema_nodup rt
  · exact FinhubReconciliation.schema_nodup rt

theorem generators_schema_wellFormed {gen : PresetGenerator} (h : gen ∈ generators rt) :
    ∀ spec ∈ gen.param_schema, WellFormed spec := by
  revert gen
  apply forall_generators
  · exact ConnectFirewall.schema_wellFormed rt
  · exact ConnectIngestion.schema_wellFormed
  · exact FinhubAnomaly.schema_wellFormed
  · exact FinhubCircuitBreaker.schema_wellFormed rt
  · exact FinhubConsolidation.schema_wellFormed
  · exact FinhubForecasting.schema_wellFormed rt
  · exact FinhubReconciliation.schema_wellFormed rt

/-- Coercion returns a map that the schema of a preset allows exactly when every supplied value
is convertible: no infinite float for an integer, no NaN and no integer too large for a float. -/
theorem coerced_params_respect_schema_iff {gen : PresetGenerator} (h : gen ∈ generators rt)
    (params : Params) :
    (∃ out, coerce_params rt.fmt gen.param_schema params = .ok out ∧ Respects gen.param_schema out) ↔
      ∀ spec ∈ gen.param_schema, ∀ w, params.lookup spec.name = some w →
        Convertible rt.fmt spec.type w :=
  coerce_params_respects_iff (generators_schema_nodup h) (generators_schema_wellFormed h)

/-- A runtime with IEEE doubles whose draws are the least that are allowed. -/
def leastDraws : PyRuntime where
  fmt := binary64
  sin := fun _ => .num 0
  State := Unit
  seed := fun _ => ()
  drawRandom := fun s => (.num 0, s)
  drawUniform := fun a _ s => (a, s)
  drawInt := fun lo _ s => (lo, s)
  drawIndex := fun _ s => (0, s)
  sin_range := fun _ _ _ => PyFloat.Within.num (by norm_num)
  random_range := fun _ => ⟨0, rfl, le_rfl, one_pos⟩
  uniform_range := fun a _ p _ _ ha _ hpq => ⟨p, ha, le_rfl, hpq⟩
  uniform_nan := fun _ => rfl
  randint_range := fun _ _ _ h => ⟨le_rfl, h⟩
  choice_range := fun _ _ h => h

/-- Draws that go through the allowed integers and indices in turn. -/
def turningDraws : PyRuntime where
  fmt := binary64
  sin := fun _ => .num 0
  State := ℕ
  seed := fun _ => 0
  drawRandom := fun s => (.num 0, s + 1)
  drawUniform := fun a _ s => (a, s + 1)
  drawInt := fun lo hi s => (if lo + s ≤ hi then lo + s else lo, s + 1)
  drawIndex := fun n s => (s % n, s + 1)
  sin_range := fun _ _ _ => PyFloat.Within.num (by norm_num)
  random_range := fun _ => ⟨0, rfl, le_rfl, one_pos⟩
  uniform_range := fun a _ p _ _ ha _ hpq => ⟨p, ha, le_rfl, hpq⟩
  uniform_nan := fun _ => rfl
  randint_range := by
    intro lo hi s h
    dsimp only
    split_ifs with hle
    · exact ⟨by omega, hle⟩
    · exact ⟨le_rfl, h⟩
  choice_range := fun n s h => Nat.mod_lt s h

/-- `{"accounts": 2, "date_range": "last-30d"}` is coerced within the schema of the ingestion preset. -/
theorem ingestion_params_respect_schema :
    ∃ out, coerce_params binary64 ConnectIngestion.param_schema
      [("accounts", .int 2), ("date_range", .str "last-30d")] = .ok out ∧
        Respects ConnectIngestion.param_schema out := by
  have hmem : ConnectIngestion.generator leastDraws ∈ generators leastDraws := by simp [generators]
  refine (coerced_params_respect_schema_iff hmem _).mpr ?_
  simp [ConnectIngestion.generator, ConnectIngestion.param_schema, ParamSpec.int, ParamSpec.window,
    ParamSpec.multi, ParamSpec.enum, Dict.lookup_cons, Convertible]

/-- `{"accounts": Infinity}` raises, and `{"recurring_ratio": NaN}` stays NaN. -/
theorem special_floats_escape_schema :
    coerce_params binary64 ConnectIngestion.param_schema [("accounts", .float (.inf false))] =
      .error .overflowError ∧
    ¬∃ out, coerce_params binary64 (FinhubForecasting.param_schema leastDraws)
      [("recurring_ratio", .float .nan)] = .ok out ∧
        Respects (FinhubForecasting.param_schema leastDraws) out := by
  refine ⟨rfl, ?_⟩
  change ¬∃ out, coerce_params leastDraws.fmt _ _ = .ok out ∧ _
  rw [coerce_params_respects_iff (FinhubForecasting.schema_nodup leastDraws)
    (FinhubForecasting.schema_wellFormed leastDraws)]
  intro h
  have hspec : .float "recurring_ratio" (leastDraws.lit (6 / 10)) (leastDraws.lit 0) (leastDraws.lit 1) ∈
      FinhubForecasting.param_schema leastDraws := by
    simp [FinhubForecasting.param_schema]
  exact h _ hspec (.float .nan) rfl rfl

theorem preset_typed {gen : PresetGenerator} (h : gen ∈ generators rt) {params : Params} {seed : ℤ}
    {target_label : String} {today : Date} {b : GeneratedBatch}
    (hb : gen.generate params seed target_label today = .ok b) : ∀ r ∈ b.records, Typed r := by
  revert gen
  apply forall_generators
  · exact ConnectFirewall.generate_typed
  · exact fun hb r hr => (ConnectIngestion.generate_fabricated hb r hr).typed
  · exact fun hb r hr => (FinhubAnomaly.generate_fabricated hb r hr).typed
  · exact fun hb r hr => (FinhubCircuitBreaker.generate_fabricated hb r hr).typed
  · exact fun hb r hr => (FinhubConsolidation.generate_fabricated hb r hr).typed
  · exact FinhubForecasting.generate_typed
  · exact fun hb r hr => (FinhubReconciliation.generate_fabricated hb r hr).typed

/-- Outside the firewall preset every amount is a finite number, when the parameters of the
forecasting preset are numeric. -/
theorem preset_fabricated {gen : PresetGenerator} (h : gen ∈ generators rt) {params : Params} {seed : ℤ}
    {target_label : String} {today : Date} {b : GeneratedBatch}
    (hfirewall : gen.preset_id ≠ "connect.firewall.v1")
    (hnum : gen.preset_id = "finhub.forecasting.v1" → FinhubForecasting.NumericParams rt params)
    (hb : gen.generate params seed target_label today = .ok b) :
    ∀ r ∈ b.records, Fabricated IsFinite r := by
  revert gen
  apply forall_generators
  · exact fun hne => absurd rfl hne
  · exact fun _ _ hb => ConnectIngestion.generate_fabricated hb
  · exact fun _ _ hb => FinhubAnomaly.generate_fabricated hb
  · exact fun _ _ hb => FinhubCircuitBreaker.generate_fabricated hb
  · exact fun _ _ hb => FinhubConsolidation.generate_fabricated hb
  · exact fun _ hnum hb => FinhubForecasting.generate_fabricated hb (hnum rfl)
  · exact fun _ _ hb => FinhubReconciliation.generate_fabricated hb

end AtlasConnectors
