import AtlasConnectors.Dispatch
import AtlasConnectors.GroundTruth

/-! The manifests of the presets point into their batches: every record index that occurs in one
is the index of a record. -/
namespace AtlasConnectors

open Raising

/-- The keys that enrichment reads and writes. -/
def indexKeys : List String := ["record_index", "record_indices", "source_hash", "source_hashes"]

theorem Pointing.of_disjoint {n : ℕ} {members : Payload PyFloat} (h : ∀ k ∈ members.keys, k ∉ indexKeys) :
    Pointing n members := by
  have hnot : ∀ k ∈ indexKeys, k ∉ members.keys := fun k hk hmem => h k hmem hk
  exact .of_keys (hnot _ (by simp [indexKeys])) (hnot _ (by simp [indexKeys]))
    (hnot _ (by simp [indexKeys])) (hnot _ (by simp [indexKeys]))

theorem pointsInto_of_scalars {n : ℕ} {members : Payload PyFloat}
    (h : ∀ k ∈ members.keys, k ∉ indexKeys) (hmembers : ∀ p ∈ members, Json.IsScalar p.2) :
    PointsInto n members :=
  ⟨.of_disjoint h, Json.everyMember_iff.mpr fun p hp => Json.everyObject_of_isScalar (hmembers p hp)⟩

theorem map_cast_range {α : Type} (f : ℤ → α) (n : ℕ) :
    (do let a ← List.range n; pure (a : ℤ)).map f = (List.range n).map fun s : ℕ => f s := by
  have hcast : (do let a ← List.range n; pure (a : ℤ)) = (List.range n).map fun s : ℕ => (s : ℤ) :=
    List.map_eq_flatMap.symm
  rw [hcast, List.map_map]
  rfl

variable {rt : PyRuntime} {params : Params} {seed : ℤ} {target_label : String} {today : Date}
  {b : GeneratedBatch}

namespace ConnectIngestion

theorem generate_truth (h : generate rt params seed target_label today = .ok b) : ∃ n flows : ℤ,
    b.ground_truth = [("expected_accounts", .int n), ("expected_flows", .int flows)] := by
  refine generateWith_ensures (P := fun b => ∃ n flows : ℤ, b.ground_truth =
    [("expected_accounts", .int n), ("expected_flows", .int flows)]) ?_ h
  intro p _
  refine Ensures.bind' fun n_accounts => Ensures.bind' fun flows_per_account => ?_
  refine Ensures.bind' fun _ => Ensures.bind' fun _ => Ensures.bind' fun _ => ?_
  refine Ensures.bind' fun _ => Ensures.bind' fun _ => ?_
  exact Ensures.pure ⟨_, _, rfl⟩

theorem generate_pointsInto (h : generate rt params seed target_label today = .ok b) :
    PointsInto b.records.length b.ground_truth := by
  obtain ⟨n, flows, htruth⟩ := generate_truth h
  rw [htruth]
  apply pointsInto_of_scalars
  · change ∀ k ∈ ["expected_accounts", "expected_flows"], k ∉ indexKeys
    decide
  · simp [Json.IsScalar]

end ConnectIngestion

namespace FinhubForecasting

theorem generate_truth (h : generate rt params seed target_label today = .ok b) : ∃ days points : ℤ,
    b.ground_truth = [("days", .int days), ("recurring_series", .arr ((RECURRING.map
      Series.name).map .str)), ("expected_history_points", .int points)] := by
  refine generateWith_ensures (P := fun b => ∃ days points : ℤ, b.ground_truth = [("days", .int days),
    ("recurring_series", .arr ((RECURRING.map Series.name).map .str)),
    ("expected_history_points", .int points)]) ?_ h
  intro p _
  refine Ensures.bind' fun days => Ensures.bind' fun _ => Ensures.bind' fun _ => ?_
  refine Ensures.bind' fun _ => Ensures.bind' fun _ => Ensures.bind' fun _ => ?_
  refine Ensures.bind' fun _ => Ensures.bind' fun _ => Ensures.bind' fun flows => ?_
  exact Ensures.pure ⟨days, flows.flatten.length, by rw [List.map_map]; rfl⟩

theorem generate_pointsInto (h : generate rt params seed target_label today = .ok b) :
    PointsInto b.records.length b.ground_truth := by
  obtain ⟨days, points, htruth⟩ := generate_truth h
  rw [htruth]
  refine ⟨.of_disjoint ?_, trivial, Json.everyObject_strs _, trivial, trivial⟩
  change ∀ k ∈ ["days", "recurring_series", "expected_history_points"], k ∉ indexKeys
  decide

end FinhubForecasting

namespace FinhubConsolidation

theorem generate_pointsInto (h : generate rt params seed target_label today = .ok b) :
    PointsInto b.records.length b.ground_truth := by
  obtain ⟨_, _, _, _, _, hb⟩ := generate_consolidated h
  rw [hb.truth]
  apply pointsInto_of_scalars
  · change ∀ k ∈ ["expected_entities", "expected_accounts", "expected_total_eur_approx"], k ∉ indexKeys
    decide
  · simp [Json.IsScalar]

end FinhubConsolidation

namespace ConnectFirewall

theorem natText_not_mem_indexKeys (i : ℕ) : toString i ∉ indexKeys := by
  have hdigits : (toString i).toList.all Char.isDigit = true := by
    rw [List.all_eq_true]
    intro c hc
    rw [Nat.toString_eq_ofList_toDigits, String.toList_ofList] at hc
    exact Nat.isDigit_of_mem_toDigits (by norm_num) (by norm_num) hc
  have hletters : ∀ key ∈ indexKeys, key.toList.all Char.isDigit = false := by decide
  intro hmem
  rw [hletters _ hmem] at hdigits
  cases hdigits

theorem generate_pointsInto (h : generate rt params seed target_label today = .ok b) :
    PointsInto b.records.length b.ground_truth := by
  obtain ⟨_, _, _, bad_count, account, good, bad, acc, hb⟩ := generate_firewalled h
  rw [hb.truth]
  have hreasons : Json.EveryObject (Pointing b.records.length)
      (.obj (acc.per_record_reason.map fun label => (label.1, .str label.2))) := by
    apply pointsInto_of_scalars
    · intro k hk
      have hkeys : Dict.keys (acc.per_record_reason.map fun label => (label.1, (.str label.2 : Json PyFloat))) =
          Dict.keys acc.per_record_reason := by simp [Dict.keys]
      rw [hkeys, hb.injected.reason, keys_labels] at hk
      obtain ⟨i, _, rfl⟩ := List.mem_map.mp hk
      exact natText_not_mem_indexKeys i
    · intro p hp
      obtain ⟨label, _, rfl⟩ := List.mem_map.mp hp
      trivial
  refine ⟨.of_disjoint ?_, trivial, trivial, trivial, hreasons, trivial⟩
  change ∀ k ∈ ["expected_quarantined", "expected_duplicates", "expected_bad", "per_record_reason"],
    k ∉ indexKeys
  decide

end ConnectFirewall

namespace FinhubCircuitBreaker

theorem generate_pointsInto (h : generate rt params seed target_label today = .ok b) :
    PointsInto b.records.length b.ground_truth := by
  obtain ⟨_, htriggers⟩ := generate_ledger h
  obtain ⟨before, after, _, _, _, hrecords, htruth⟩ := htriggers.exists_split
  rw [htruth]
  have hnamed : Json.EveryObject (Pointing b.records.length) (.arr ((List.range after.length).map fun s =>
      .obj [("record_index", .int (before.length + s))])) := by
    apply Json.everyItem_iff.mpr
    rw [map_cast_range]
    intro item hitem
    obtain ⟨s, hs, rfl⟩ := List.mem_map.mp hitem
    have hlt : before.length + s < b.records.length := by
      have := List.mem_range.mp hs
      rw [hrecords, List.length_append]
      omega
    refine ⟨⟨?_, by simp [Dict.lookup_cons], by simp [Dict.keys], by simp [Dict.keys]⟩, trivial, trivial⟩
    intro v hv
    rw [Dict.lookup_cons, if_pos rfl] at hv
    cases hv
    exact ⟨before.length + s, hlt, by push_cast; rfl⟩
  refine ⟨.of_disjoint ?_, trivial, trivial, trivial, hnamed, trivial⟩
  change ∀ k ∈ ["expected_freeze", "target_risk_score", "trigger_pattern", "trigger_records"], k ∉ indexKeys
  decide

end FinhubCircuitBreaker

namespace FinhubReconciliation

theorem pointing_label {records : List SimRecord} {account : SimBankAccount} {mismatch_types : List String}
    {mismatch_count : ℤ} {i : ℕ} {row : Row} {label : Json PyFloat}
    (hrow : RowOf rt today account mismatch_types mismatch_count i row) (hlocated : Located records row)
    (hlabel : row.label = some label) : Json.EveryObject (Pointing records.length) label := by
  obtain ⟨type, htype, rfl⟩ := Option.map_eq_some_iff.mp hlabel
  obtain ⟨_, _, _, hentry⟩ := hrow.exists_amount
  by_cases hmissing : type = "missing_leg"
  · rw [if_pos hmissing]
    refine ⟨.of_disjoint ?_, trivial, trivial, trivial⟩
    change ∀ k ∈ ["ref", "type"], k ∉ indexKeys
    decide
  · obtain ⟨entry, _, hsome, _⟩ := hentry (by simpa [htype] using hmissing)
    have hlt := (List.getElem?_eq_some_iff.mp (hlocated.entry entry hsome)).1
    rw [if_neg hmissing]
    refine ⟨⟨?_, by simp [Dict.lookup_cons], by simp [Dict.keys], by simp [Dict.keys]⟩,
      trivial, trivial, trivial, trivial⟩
    intro v hv
    rw [Dict.lookup_cons, if_neg (by decide), Dict.lookup_cons, if_neg (by decide), Dict.lookup_cons,
      if_pos rfl] at hv
    cases hv
    exact ⟨row.start + 1, hlt, rfl⟩

theorem generate_pointsInto (h : generate rt params seed target_label today = .ok b) :
    PointsInto b.records.length b.ground_truth := by
  obtain ⟨_, _, _, _, _, account, rows, hb⟩ := generate_reconciled h
  rw [hb.truth]
  have hnamed : Json.EveryObject (Pointing b.records.length) (.arr (rows.filterMap Row.label)) := by
    apply Json.everyItem_iff.mpr
    intro label hlabel
    obtain ⟨row, hrow, hlabel⟩ := List.mem_filterMap.mp hlabel
    obtain ⟨i, _, hof⟩ := exists_of_mem_right hb.related hrow
    exact pointing_label hof (hb.located row hrow) hlabel
  refine ⟨.of_disjoint ?_, trivial, hnamed, trivial⟩
  change ∀ k ∈ ["expected_auto_match_rate", "mismatched_pairs"], k ∉ indexKeys
  decide

end FinhubReconciliation

namespace FinhubAnomaly

theorem Shaped.flows_ne_nil {account : SimBankAccount} {medians : Dict String PyFloat}
    {baseline : List SimCashFlow} {k : ℕ} {kind : String} {flows : List SimCashFlow}
    (h : Shaped rt today account medians baseline k kind flows) : flows ≠ [] := by
  cases h with
  | structuring counterparty day flows h =>
    rw [← List.length_pos_iff, ← h.length_eq]
    decide
  | duplicate f t u hf ht hu => simp
  | amount_outlier f h => simp
  | off_hours kind _ _ _ f h => simp

theorem pointing_label {records : List SimRecord} {group : Group} (hlocated : Located records group)
    (hne : group.flows ≠ []) : Json.EveryObject (Pointing records.length) group.label := by
  have hindex : ∀ s < group.flows.length, IsIndex records.length (.int (group.start + s)) := by
    intro s hs
    have hrecord := hlocated s _ (List.getElem?_eq_getElem hs)
    exact ⟨group.start + s, (List.getElem?_eq_some_iff.mp hrecord).1, by push_cast; rfl⟩
  rw [Group.label, label, map_cast_range]
  split_ifs with hstructuring
  · have hscalar : ∀ item ∈ (List.range group.flows.length).map fun s : ℕ => (.int (group.start + s) : Json PyFloat),
        Json.EveryObject (Pointing records.length) item := by
      intro item hitem
      obtain ⟨s, _, rfl⟩ := List.mem_map.mp hitem
      trivial
    refine ⟨⟨by simp [Dict.lookup_cons], ?_, by simp [Dict.keys], by simp [Dict.keys]⟩, trivial,
      Json.everyItem_iff.mpr hscalar, trivial⟩
    intro v hv
    rw [Dict.lookup_cons, if_neg (by decide), Dict.lookup_cons, if_pos rfl] at hv
    cases hv
    refine ⟨_, rfl, ?_⟩
    intro item hitem
    obtain ⟨s, hs, rfl⟩ := List.mem_map.mp hitem
    exact hindex s (List.mem_range.mp hs)
  · refine ⟨⟨?_, by simp [Dict.lookup_cons], by simp [Dict.keys], by simp [Dict.keys]⟩, trivial, trivial,
      trivial⟩
    intro v hv
    rw [Dict.lookup_cons, if_neg (by decide), Dict.lookup_cons, if_pos rfl] at hv
    cases hv
    simpa using hindex 0 (List.length_pos_iff.mpr hne)

theorem generate_pointsInto (h : generate rt params seed target_label today = .ok b) :
    PointsInto b.records.length b.ground_truth := by
  obtain ⟨_, _, _, _, _, _, _, _, groups, hb⟩ := generate_labelled h
  rw [hb.truth]
  have hnamed : Json.EveryObject (Pointing b.records.length) (.arr (groups.map Group.label)) := by
    apply Json.everyItem_iff.mpr
    intro label hlabel
    obtain ⟨group, hgroup, rfl⟩ := List.mem_map.mp hlabel
    obtain ⟨k, _, hof⟩ := exists_of_mem_right hb.injected.related hgroup
    exact pointing_label (hb.injected.located group hgroup) hof.shaped.flows_ne_nil
  refine ⟨.of_disjoint ?_, hnamed, trivial⟩
  change ∀ k ∈ ["injected_anomalies"], k ∉ indexKeys
  decide

end FinhubAnomaly

theorem preset_pointsInto {gen : PresetGenerator} (h : gen ∈ generators rt)
    (hb : gen.generate params seed target_label today = .ok b) :
    PointsInto b.records.length b.ground_truth := by
  revert gen
  apply forall_generators
  · exact ConnectFirewall.generate_pointsInto
  · exact ConnectIngestion.generate_pointsInto
  · exact FinhubAnomaly.generate_pointsInto
  · exact FinhubCircuitBreaker.generate_pointsInto
  · exact FinhubConsolidation.generate_pointsInto
  · exact FinhubForecasting.generate_pointsInto
  · exact FinhubReconciliation.generate_pointsInto

theorem manual_pointsInto {svc : SimService} {request : DispatchRequest} {batch : GeneratedBatch}
    (h : validate_manual svc request = .ok batch) : PointsInto batch.records.length batch.ground_truth := by
  unfold validate_manual at h
  split at h
  · cases h
  · cases h
  · dsimp only at h
    split_ifs at h
    · cases h
    · cases h
      apply pointsInto_of_scalars
      · change ∀ k ∈ ["mode", "expected_records"], k ∉ indexKeys
        decide
      · simp [Json.IsScalar]

/-- The manifest of every accepted request points into the request's batch. -/
theorem requested_pointsInto {parsers : DateParsers} {fresh : ℕ → Fresh} {request : DispatchRequest}
    {batch : GeneratedBatch}
    (h : requestedBatch (SimService.standard rt parsers today fresh) request = .ok batch) :
    PointsInto batch.records.length batch.ground_truth := by
  unfold requestedBatch at h
  split_ifs at h
  · obtain ⟨_, gen, _, hgen, _, hbatch⟩ := generate_auto_ok h
    exact preset_pointsInto (mem_generators_of_lookup hgen).1 hbatch
  · exact manual_pointsInto h

end AtlasConnectors
