import AtlasConnectors.FirewallBatch
import AtlasConnectors.ForecastHistory
import AtlasConnectors.Generation
import AtlasConnectors.IngestionManifest

/-! How many records a preset generates, against the cap on one run. -/
namespace AtlasConnectors

open Raising

variable {rt : PyRuntime} {params : Params} {seed : ℤ} {target_label : String} {today : Date}
  {b : GeneratedBatch}

theorem length_flatMap_le {α β : Type} {f : α → List β} {n : ℕ} {xs : List α} (h : ∀ x ∈ xs, (f x).length ≤ n) :
    (xs.flatMap f).length ≤ xs.length * n := by
  rw [List.length_flatMap]
  have hsum := List.sum_le_card_nsmul (xs.map fun x => (f x).length) n (by simpa using h)
  simpa using hsum

theorem pyRound_le {x : PyFloat} {n : ℕ} {k : ℤ} (hx : x.Within n) (hk : pyRound x = .ok k) : k ≤ n := by
  obtain ⟨q, hq, hqn⟩ := hx
  have hle : roundHalfEven q ≤ roundHalfEven ((n : ℤ) : ℚ) :=
    roundHalfEven_mono (by exact_mod_cast (abs_le.mp hqn).2)
  rw [roundHalfEven_intCast] at hle
  rw [pyRound_eq hq hk]
  exact hle

theorem share_le {n k : ℤ} {ratio : PyFloat} (hn : n.natAbs ≤ 2000)
    (hratio : (∃ q, ratio.val? = some q ∧ 0 ≤ q ∧ q ≤ 1) ∨ ratio = .nan)
    (hk : pyRound (.mul rt.fmt (.num n) ratio) = .ok k) : k ≤ 2000 := by
  rcases hratio with ⟨q, hq, hlo, hhi⟩ | rfl
  · have hcount : (PyFloat.num n).Within (2000 : ℕ) := PyFloat.Within.of_mem rfl le_rfl le_rfl ⟨hn, hn⟩
    have hunit : ratio.Within (1 : ℕ) := ⟨q, hq, abs_le.mpr ⟨by push_cast; linarith, by exact_mod_cast hhi⟩⟩
    have hproduct : (PyFloat.mul rt.fmt (.num n) ratio).Within (2000 : ℕ) := hcount.mul hunit le_rfl (by norm_num)
    exact_mod_cast pyRound_le hproduct hk
  · rw [pyRound_share_nan] at hk
    cases hk

namespace ConnectIngestion

/-- As many records as accounts and flows are asked for. -/
structure Sized (fmt : FloatFormat) (params : Params) (n_accounts flows_per_account : ℤ) (p : Params) : Prop where
  coerced : coerce_params fmt param_schema params = .ok p
  accounts : paramInt p "accounts" = .ok n_accounts
  flows : paramInt p "flows_per_account" = .ok flows_per_account

theorem length_records (h : generate rt params seed target_label today = .ok b) :
    ∃ n_accounts flows_per_account p, Sized rt.fmt params n_accounts flows_per_account p ∧
      (b.records.length : ℤ) = n_accounts * (1 + flows_per_account) := by
  obtain ⟨p, hp, n_accounts, flows_per_account, _, _, _, _, hrows⟩ := generate_rows h
  refine ⟨n_accounts, flows_per_account, p, ⟨hp, hrows.param_accounts, hrows.param_flows⟩, ?_⟩
  have hn := paramInt_bounds schema_nodup schema_wellFormed hp
    (show .int "accounts" 3 1 20 ∈ param_schema by simp [param_schema]) hrows.param_accounts
  have hf := paramInt_bounds schema_nodup schema_wellFormed hp
    (show .int "flows_per_account" 30 1 500 ∈ param_schema by simp [param_schema]) hrows.param_flows
  rw [hrows.length_records]
  push_cast
  rw [Int.toNat_of_nonneg (by omega), Int.toNat_of_nonneg (by omega)]
  ring

end ConnectIngestion

theorem ConnectFirewall.length_records_le (h : ConnectFirewall.generate rt params seed target_label today = .ok b) :
    b.records.length ≤ 4001 := by
  obtain ⟨p, hp, base_flows, bad_count, account, good, bad, acc, hb⟩ := generate_firewalled h
  obtain ⟨ratio, hratio, hcount⟩ := hb.count
  have hbase := paramInt_bounds (schema_nodup rt) (schema_wellFormed rt) hp (List.mem_cons_self ..) hb.base
  have hspec : .float "bad_ratio" (rt.lit (3 / 10)) (rt.lit 0) (rt.lit 1) ∈ param_schema rt := by
    simp [param_schema]
  have hbad := share_le (by omega) (ratio_cases (schema_nodup rt) (schema_wellFormed rt) hp hspec hratio) hcount
  have hlength := hb.injected.defective.length_eq
  rw [List.length_range] at hlength
  rw [hb.records_eq, List.length_append, hb.first_length, List.length_map, ← hlength]
  omega

theorem FinhubReconciliation.length_records_le
    (h : FinhubReconciliation.generate rt params seed target_label today = .ok b) : b.records.length ≤ 4001 := by
  obtain ⟨p, hp, pairs, mismatch_count, mismatch_types, account, rows, hb⟩ := generate_reconciled h
  have hpairs := paramInt_bounds (schema_nodup rt) (schema_wellFormed rt) hp (List.mem_cons_self ..) hb.param_pairs
  have hrow : ∀ row ∈ rows, row.records.length ≤ 2 := by
    intro row _
    rw [Row.records]
    cases row.entry <;> simp
  have hlength := hb.related.length_eq
  have hle := length_flatMap_le hrow
  rw [List.length_range] at hlength
  rw [hb.records, List.length_cons]
  omega

theorem FinhubAnomaly.Shaped.length_le {account : SimBankAccount} {medians : Dict String PyFloat}
    {baseline : List SimCashFlow} {k : ℕ} {kind : String} {flows : List SimCashFlow}
    (h : Shaped rt today account medians baseline k kind flows) : flows.length ≤ 5 := by
  cases h with
  | structuring counterparty day flows h => exact h.length_eq ▸ le_rfl
  | _ => simp

theorem FinhubAnomaly.length_records_le (h : FinhubAnomaly.generate rt params seed target_label today = .ok b) :
    b.records.length ≤ 4001 := by
  obtain ⟨p, hp, base_flows, anomaly_count, anomaly_types, account, medians, baseline, groups, hb⟩ :=
    generate_labelled h
  have hbase := paramInt_bounds schema_nodup schema_wellFormed hp
    (show .int "base_flows" 200 10 2000 ∈ param_schema by simp [param_schema]) hb.base
  have hcount := paramInt_bounds schema_nodup schema_wellFormed hp
    (show .int "anomaly_count" 5 1 50 ∈ param_schema by simp [param_schema]) hb.count
  have hgroup : ∀ group ∈ groups, group.flows.length ≤ 5 := by
    intro group hgroup
    obtain ⟨k, _, hof⟩ := exists_of_mem_right hb.injected.related hgroup
    exact hof.shaped.length_le
  have hlength := hb.injected.related.length_eq
  have hflows := hb.flows.length_eq
  have hle := length_flatMap_le hgroup
  rw [List.length_range] at hlength hflows
  rw [hb.records, List.length_cons, List.length_map, List.length_append]
  omega

theorem FinhubConsolidation.length_records_le
    (h : FinhubConsolidation.generate rt params seed target_label today = .ok b) : b.records.length ≤ 4001 := by
  obtain ⟨p, hp, n_entities, per_entity, blocks, hb⟩ := generate_consolidated h
  obtain ⟨⟨hn, hn'⟩, hper, hper'⟩ := hb.bounds hp
  obtain ⟨currencies, _, hblocks⟩ := hb.exists_currencies
  have hblock : ∀ block ∈ blocks, block.records.length ≤ 6 := by
    intro block hblock
    obtain ⟨_, _, hof⟩ := exists_of_mem_right hblocks hblock
    rw [Block.records, List.length_cons, List.length_map, hof.length]
    exact le_rfl
  have hle := length_flatMap_le hblock
  have hlength : blocks.length ≤ 15 * 10 := by
    rw [hb.length]
    exact Nat.mul_le_mul (by omega) (by omega)
  rw [hb.records]
  omega

theorem FinhubCircuitBreaker.ensures_triggers_length (today : Date) (account : SimBankAccount)
    (first_seen_iban pattern : String) : Ensures (triggers today account first_seen_iban pattern :
      Gen rt (List SimCashFlow)) fun flows => flows.length ≤ 8 := by
  unfold triggers
  split_ifs
  · exact Ensures.bind' fun flow => Ensures.pure (by simp)
  · refine Ensures.bind' fun base_time => (Ensures.mapM fun _ _ => Ensures.trivial).mono fun flows hflows => ?_
    exact hflows.length_eq ▸ le_rfl

theorem FinhubCircuitBreaker.length_records_le
    (h : FinhubCircuitBreaker.generate rt params seed target_label today = .ok b) : b.records.length ≤ 4001 := by
  refine generateWith_ensures (P := fun b => b.records.length ≤ 4001) (fun p _ => ?_) h
  refine Ensures.bind' fun pattern => Ensures.bind' fun iban => Ensures.bind' fun balance => ?_
  refine Ensures.bind' fun account => (Ensures.mapM fun _ _ => Ensures.trivial).bind fun baseline hbaseline => ?_
  refine Ensures.bind' fun first_seen_iban => (ensures_triggers_length _ _ _ _).bind fun flows hflows => ?_
  refine Ensures.bind' fun score => Ensures.pure ?_
  have hlength : baseline.length = 10 := hbaseline.length_eq ▸ rfl
  simp only [List.length_append, List.length_cons, List.length_map]
  omega

theorem FinhubForecasting.length_records_le
    (h : FinhubForecasting.generate rt params seed target_label today = .ok b) : b.records.length ≤ 4001 := by
  refine generateWith_ensures (P := fun b => b.records.length ≤ 4001) (fun p hp => ?_) h
  refine Ensures.bind (Ensures.fromExcept fun _ h => h) fun days hdays => ?_
  refine Ensures.bind (Ensures.fromExcept fun _ h => h) fun n_accounts hn => ?_
  have hspec : .int "days" 120 90 730 ∈ param_schema rt := by simp [param_schema]
  have hspec' : .int "accounts" 3 1 10 ∈ param_schema rt := by simp [param_schema]
  have hdbound := paramInt_bounds (schema_nodup rt) (schema_wellFormed rt) hp hspec hdays
  have hnbound := paramInt_bounds (schema_nodup rt) (schema_wellFormed rt) hp hspec' hn
  refine Ensures.bind' fun seasonality => Ensures.bind' fun ratio => Ensures.bind' fun noise => ?_
  refine (Ensures.mapM fun _ _ => Ensures.trivial).bind fun accounts haccounts => ?_
  refine Ensures.bind' fun start => Ensures.bind' fun main => ?_
  refine (Ensures.mapM fun offset _ => ensures_dayFlows_shows).bind fun flows hflows => Ensures.pure ?_
  have hday : ∀ row ∈ flows, row.length ≤ 5 := by
    intro row hrow
    obtain ⟨offset, _, day, _, hshows⟩ := exists_of_mem_right hflows hrow
    have hdue : (RECURRING.filter fun series => day.day = series.dom).length ≤ 4 := List.length_filter_le _ _
    rw [hshows.length_eq, entriesOf, List.length_append, List.length_map]
    split_ifs <;> simp only [List.length_cons, List.length_nil] <;> omega
  have hle := length_flatMap_le (f := id) hday
  have hlengths := hflows.length_eq
  have hopened := haccounts.length_eq
  rw [List.length_range] at hlengths hopened
  rw [List.flatMap_id] at hle
  simp only [List.length_append, List.length_map]
  omega

/-- Only the ingestion preset can ask for more records than the cap of the default settings. -/
theorem length_records_le {gen : PresetGenerator} (hgen : gen ∈ generators rt)
    (hname : gen.preset_id ≠ "connect.ingestion.v1")
    (h : gen.generate params seed target_label today = .ok b) : b.records.length ≤ 4001 := by
  revert gen
  apply forall_generators
  · exact fun _ h => ConnectFirewall.length_records_le h
  · exact fun hname _ => absurd rfl hname
  · exact fun _ h => FinhubAnomaly.length_records_le h
  · exact fun _ h => FinhubCircuitBreaker.length_records_le h
  · exact fun _ h => FinhubConsolidation.length_records_le h
  · exact fun _ h => FinhubForecasting.length_records_le h
  · exact fun _ h => FinhubReconciliation.length_records_le h

end AtlasConnectors
