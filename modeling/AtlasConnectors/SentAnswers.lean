import AtlasConnectors.BreakerTriggers
import AtlasConnectors.DryRunIsolation
import AtlasConnectors.EnrichedTree
import AtlasConnectors.PresetManifest
import AtlasConnectors.ReconciliationBatch

/-! What leaves the service: bodies and details are written as JSON, and where that fails the answer
is a 500. No manifest stands in the way, unless a request supplies a NaN as its score. -/
namespace AtlasConnectors

open Raising

/-- `json.dumps(content, allow_nan=False)` has a text for the value. -/
def renders (j : Json PyFloat) : Bool := j.allFloats fun x => x.val?.isSome

def recordJson (r : SimRecord) : Json PyFloat :=
  .obj [("record_type", .str r.1), ("payload", .obj (Json.liftMembers r.2))]

def entryJson (entry : String × String) : Json PyFloat :=
  .obj [("source_hash", .str entry.1), ("record_type", .str entry.2)]

/-- The dictionary that the route returns. -/
def DispatchResponse.json : DispatchResponse → Json PyFloat
  | .dry_run expected_records preview ground_truth => .obj [("expected_records", .int expected_records),
      ("preview", .arr (preview.map recordJson)), ("ground_truth", .obj ground_truth)]
  | .emitted report ground_truth => .obj [("expected_records", .int report.expected),
      ("emitted", .int report.emitted), ("rejected", .int report.rejected),
      ("ground_truth", .obj ground_truth), ("source_hashes", .arr (report.source_hashes.map entryJson))]

/-- The answer that is sent. A detail is written without NaN and infinities; which bodies are
written is for the framework to say. -/
def HttpResult.sent (encodes : Json PyFloat → Bool) : HttpResult → HttpResult
  | .ok body => if encodes body.json then .ok body else .internal
  | .error status detail => if renders (.obj [("detail", detail)]) then .error status detail else .internal
  | .internal => .internal

section Renders

variable {items : List (Json PyFloat)} {members : Payload PyFloat}

theorem renders_arr : renders (.arr items) = true ↔ ∀ item ∈ items, renders item = true := Json.allFloats_arr

theorem renders_obj : renders (.obj members) = true ↔ ∀ m ∈ members, renders m.2 = true := Json.allFloats_obj

@[simp] theorem renders_str (text : String) : renders (.str text) = true := rfl

@[simp] theorem renders_int (n : ℤ) : renders (.int n) = true := rfl

@[simp] theorem renders_bool (b : Bool) : renders (.bool b) = true := rfl

@[simp] theorem renders_float (x : PyFloat) : renders (.float x) = x.val?.isSome := rfl

theorem renders_strs (texts : List String) : renders (.arr (texts.map .str)) = true := Json.allFloats_strs texts

@[simp] theorem renders_obj_nil : renders (.obj []) = true := rfl

@[simp] theorem renders_obj_cons (m : String × Json PyFloat) :
    renders (.obj (m :: members)) = (renders m.2 && renders (.obj members)) := by
  rw [Bool.eq_iff_iff, Bool.and_eq_true, renders_obj, renders_obj, List.forall_mem_cons]

theorem renders_map {β : Type} {f : β → Json PyFloat} {xs : List β} (h : ∀ x ∈ xs, renders (f x) = true) :
    renders (.arr (xs.map f)) = true := by
  rw [renders_arr]
  intro item hitem
  obtain ⟨x, hx, rfl⟩ := List.mem_map.mp hitem
  exact h x hx

theorem renders_recordJson (r : SimRecord) : renders (recordJson r) = true := by
  have hpayload : renders (.obj (Json.liftMembers r.2)) = true := Json.allFloats_lift (.obj r.2)
  simp [recordJson, hpayload]

end Renders

section Enriched

variable {hashes : List String}

theorem renders_annotate {members : Payload PyFloat} (h : renders (.obj members) = true) :
    renders (.obj (annotate hashes members)) = true := by
  have hone : renders (.obj (hashOne hashes members)) = true := by
    rcases hashOne_cases hashes members with heq | ⟨_, _, heq⟩
    · rwa [heq]
    · rw [heq]
      exact Json.allFloats_set h rfl
  rw [annotate_eq]
  rcases hashMany_cases hashes (hashOne hashes members) with heq | ⟨_, _, heq⟩
  · rwa [heq]
  · rw [heq]
    exact Json.allFloats_set hone (renders_strs _)

theorem renders_walk (j : Json PyFloat) : renders j = true → renders (walk hashes j) = true := by
  induction j using Json.forall_of_parts with
  | scalar j hscalar =>
    intro h
    cases j with
    | arr items => cases hscalar
    | obj members => cases hscalar
    | _ => exact h
  | arr items ih =>
    intro h
    rw [renders_arr] at h
    rw [walk, walkItems_eq_map, renders_arr]
    intro item hitem
    obtain ⟨item, hmem, rfl⟩ := List.mem_map.mp hitem
    exact ih item hmem (h item hmem)
  | obj members ih =>
    intro h
    rw [renders_obj] at h
    rw [walk]
    apply renders_annotate
    rw [walkMembers_eq_map, renders_obj]
    intro m hm
    obtain ⟨m, hmem, rfl⟩ := List.mem_map.mp hm
    exact ih m hmem (h m hmem)

end Enriched

theorem renders_dry_run (n : ℕ) (preview : List SimRecord) {ground_truth : Payload PyFloat}
    (h : renders (.obj ground_truth) = true) :
    renders (DispatchResponse.dry_run n preview ground_truth).json = true := by
  have hpreview : renders (.arr (preview.map recordJson)) = true := renders_map fun r _ => renders_recordJson r
  simp [DispatchResponse.json, hpreview, h]

theorem renders_emitted (report : EmitReport) {ground_truth : Payload PyFloat}
    (h : renders (.obj ground_truth) = true) (hashes : List String) :
    renders (DispatchResponse.emitted report (enrich_ground_truth ground_truth hashes)).json = true := by
  have hentries : renders (.arr (report.source_hashes.map entryJson)) = true := renders_map fun _ _ => rfl
  have htruth : renders (.obj (enrich_ground_truth ground_truth hashes)) = true := renders_walk (.obj ground_truth) h
  simp [DispatchResponse.json, hentries, htruth]

section Manifests

variable {rt : PyRuntime} {params : Params} {seed : ℤ} {target_label : String} {today : Date}
  {b : GeneratedBatch}

theorem ConnectIngestion.generate_renders (h : generate rt params seed target_label today = .ok b) :
    renders (.obj b.ground_truth) = true := by
  obtain ⟨n, flows, htruth⟩ := generate_truth h
  rw [htruth]
  rfl

theorem FinhubForecasting.generate_renders (h : generate rt params seed target_label today = .ok b) :
    renders (.obj b.ground_truth) = true := by
  obtain ⟨days, points, htruth⟩ := generate_truth h
  have hseries := renders_strs (RECURRING.map Series.name)
  rw [htruth]
  simp only [renders_obj_cons, renders_obj_nil, renders_int, hseries, Bool.and_self]

theorem ConnectFirewall.generate_renders (h : generate rt params seed target_label today = .ok b) :
    renders (.obj b.ground_truth) = true := by
  obtain ⟨_, _, _, bad_count, account, good, bad, acc, hb⟩ := generate_firewalled h
  have hreasons : renders (.obj (acc.per_record_reason.map fun label => (label.1, .str label.2))) = true := by
    rw [renders_obj]
    intro m hm
    obtain ⟨label, _, rfl⟩ := List.mem_map.mp hm
    rfl
  rw [hb.truth, manifest]
  simp [hreasons]

theorem FinhubAnomaly.generate_renders (h : generate rt params seed target_label today = .ok b) :
    renders (.obj b.ground_truth) = true := by
  obtain ⟨_, _, _, _, _, _, _, _, groups, hb⟩ := generate_labelled h
  have hlabels : renders (.arr (groups.map Group.label)) = true := by
    apply renders_map
    intro group _
    rw [Group.label, label]
    split_ifs
    · simp [renders_arr]
    · rfl
  rw [hb.truth]
  simp [hlabels]

theorem FinhubReconciliation.generate_renders (h : generate rt params seed target_label today = .ok b) :
    renders (.obj b.ground_truth) = true := by
  obtain ⟨p, hp, pairs, mismatch_count, _, account, rows, hb⟩ := generate_reconciled h
  obtain ⟨hone, htwo⟩ := paramInt_bounds (schema_nodup rt) (schema_wellFormed rt) hp
    (show .int "pairs" 100 1 2000 ∈ param_schema rt by simp [param_schema]) hb.param_pairs
  obtain ⟨x, hx, hround⟩ := hb.count
  obtain ⟨_, _, _, hnonneg, hle⟩ := ratio_bounds ⟨by omega, htwo⟩ hp hx hround
  have hlabels : renders (.arr (rows.filterMap Row.label)) = true := by
    rw [renders_arr]
    intro item hitem
    obtain ⟨row, _, hlabel⟩ := List.mem_filterMap.mp hitem
    obtain ⟨type, _, rfl⟩ := Option.map_eq_some_iff.mp hlabel
    split_ifs <;> rfl
  have hmatched : 0 ≤ pairs - mismatch_count ∧ pairs - mismatch_count ≤ pairs := ⟨by omega, by omega⟩
  have hrate := val?_rate rt.fmt hmatched (by omega)
  rw [hb.truth]
  simp only [renders_obj_cons, renders_obj_nil, renders_float, hrate, Option.isSome_some, hlabels, Bool.and_self]

namespace FinhubConsolidation

theorem within_rate {currency : String} {rate : PyFloat} (h : eurRate rt currency = .ok rate) :
    rate.Within (2 : ℕ) := by
  unfold eurRate at h
  split at h
  · cases h
    rename_i hlook
    have hmem := Dict.mem_of_lookup hlook
    simp only [EUR_RATE, List.mem_cons, Prod.mk.injEq, List.not_mem_nil, or_false] at hmem
    rcases hmem with ⟨_, rfl⟩ | ⟨_, rfl⟩ | ⟨_, rfl⟩ | ⟨_, rfl⟩ <;>
      exact within_lit (by norm_num [abs_le]) (by norm_num)
  · cases h

theorem BlockOf.euros_within {currencies : List String} {entity : String} {index : ℕ} {block : Block}
    (h : BlockOf rt today currencies entity index block) : block.euros.Within (1600000 : ℕ) := by
  obtain ⟨x, hbalance, hx⟩ := h.balance
  obtain ⟨value, rate, hvalue, hrate, heuros⟩ := h.euros
  rw [hbalance] at hvalue
  rw [heuros]
  exact (hx.pyFloat_money (by norm_num) hvalue).mul (within_rate hrate) (by norm_num) (by norm_num)

theorem generate_renders (h : generate rt params seed target_label today = .ok b) :
    renders (.obj b.ground_truth) = true := by
  obtain ⟨p, hp, n_entities, per_entity, blocks, hb⟩ := generate_consolidated h
  obtain ⟨currencies, _, hblocks⟩ := hb.exists_currencies
  have heuros : ∀ y ∈ blocks.map Block.euros, y.Within (1600000 : ℕ) := by
    intro y hy
    obtain ⟨block, hmem, rfl⟩ := List.mem_map.mp hy
    obtain ⟨entity, _, hof⟩ := exists_of_mem_right hblocks hmem
    exact hof.euros_within
  have hcount : blocks.length ≤ 15 * 10 := by
    obtain ⟨⟨_, hentities⟩, _, hper⟩ := hb.bounds hp
    rw [hb.length]
    exact Nat.mul_le_mul (by omega) (by omega)
  have hroom : 0 + 1600000 * (blocks.map Block.euros).length ≤ 2 ^ 53 := by
    rw [List.length_map]
    omega
  have hstart : (PyFloat.num 0).Within (0 : ℕ) := .num (by norm_num)
  have hsum : ((blocks.map Block.euros).foldl (PyFloat.add rt.fmt) (.num 0)).Within
      (0 + 1600000 * (blocks.map Block.euros).length : ℕ) := hstart.foldl_add heuros hroom
  have hround : (roundPlaces rt.fmt 2 ((blocks.map Block.euros).foldl (PyFloat.add rt.fmt) (.num 0))).Within
      (0 + 1600000 * (blocks.map Block.euros).length : ℕ) := hsum.roundCents hroom
  obtain ⟨total, htotal, _⟩ := hround
  rw [hb.truth]
  simp [htotal]

end FinhubConsolidation

theorem FinhubCircuitBreaker.generate_renders (h : generate rt params seed target_label today = .ok b)
    (hscore : ∀ w, params.lookup "target_risk_score" = some w → pyFloat rt.fmt w ≠ .ok .nan) :
    renders (.obj b.ground_truth) = true := by
  cases hp : coerce_params rt.fmt (param_schema rt) params with
  | error e =>
    rw [generate, generateWith, hp] at h
    cases h
  | ok p =>
    obtain ⟨pattern, x, _, hx, hexact⟩ := triggers_exact hp h
    have hspec : .float "target_risk_score" (rt.lit 9) (rt.lit (81 / 10)) (rt.lit 10) ∈ param_schema rt := by
      simp [param_schema]
    have hlo : (rt.lit (81 / 10)).val? = some (rt.fmt.rnd (81 / 10)) :=
      val?_lit (n := 9) (by norm_num [abs_le]) (by norm_num)
    have hhi : (rt.lit 10).val? = some (rt.fmt.rnd 10) := val?_lit (n := 10) (by norm_num [abs_le]) (by norm_num)
    rcases paramFloat_cases (schema_nodup rt) (schema_wellFormed rt) hp hspec hlo hhi hx with
      ⟨q, hq, _⟩ | ⟨_, w, hw, hnan⟩
    · have hindices : renders (.arr ((List.range' 11 (b.records.length - 11)).map fun i : ℕ =>
          .obj [("record_index", .int i)])) = true := renders_map fun _ _ => rfl
      rw [hexact.truth]
      simp [hq, hindices]
    · exact absurd hnan (hscore w hw)

theorem preset_renders {gen : PresetGenerator} (hgen : gen ∈ generators rt)
    (hscore : gen.preset_id = "finhub.circuit_breaker.v1" →
      ∀ w, params.lookup "target_risk_score" = some w → pyFloat rt.fmt w ≠ .ok .nan)
    (hb : gen.generate params seed target_label today = .ok b) : renders (.obj b.ground_truth) = true := by
  revert gen
  apply forall_generators
  · exact fun _ h => ConnectFirewall.generate_renders h
  · exact fun _ h => ConnectIngestion.generate_renders h
  · exact fun _ h => FinhubAnomaly.generate_renders h
  · exact fun hscore h => FinhubCircuitBreaker.generate_renders h (hscore rfl)
  · exact fun _ h => FinhubConsolidation.generate_renders h
  · exact fun _ h => FinhubForecasting.generate_renders h
  · exact fun _ h => FinhubReconciliation.generate_renders h

end Manifests

/-- The circuit breaker is asked for a score that reads as a NaN. -/
structure NanScore (rt : PyRuntime) (request : DispatchRequest) : Prop where
  mode : request.mode = .auto
  preset_id : request.preset_id = some "finhub.circuit_breaker.v1"
  score : ∃ w, request.params.lookup "target_risk_score" = some w ∧ pyFloat rt.fmt w = .ok .nan

theorem requested_renders {rt : PyRuntime} {parsers : DateParsers} {today : Date} {fresh : ℕ → Fresh}
    {request : DispatchRequest} {batch : GeneratedBatch} (hscore : ¬NanScore rt request)
    (h : requestedBatch (SimService.standard rt parsers today fresh) request = .ok batch) :
    renders (.obj batch.ground_truth) = true := by
  unfold requestedBatch at h
  split_ifs at h with hmode
  · obtain ⟨preset_id, gen, hid, hlook, _, hbatch⟩ := generate_auto_ok h
    obtain ⟨hgen, rfl⟩ := mem_generators_of_lookup hlook
    exact preset_renders hgen (fun hname w hw hnan => hscore ⟨hmode, hid.trans (congrArg some hname), w, hw, hnan⟩)
      hbatch
  · unfold validate_manual at h
    split at h
    · cases h
    · cases h
    · dsimp only at h
      split_ifs at h
      · cases h
      · cases h
        rfl

/-- The report on some element repeats a number that JSON has no text for. -/
def EchoesNonFinite (parsers : DateParsers) (request : DispatchRequest) : Prop :=
  request.mode = .manual ∧ ∃ items, request.payload = some items ∧ ∃ item ∈ items, ∃ error,
    checkItem (SIM_MODELS parsers) item = .error error ∧ renders error = false

theorem mem_errors_iff (models : SimModels) (items : List (ManualRecord × ℕ)) (acc : ManualState) (e : Json PyFloat) :
    e ∈ (items.foldl (validateStep models) acc).errors ↔ e ∈ acc.errors ∨ ∃ it ∈ items, ∃ error,
      checkItem models it.1 = .error error ∧ e = indexedError it.2 error := by
  induction items generalizing acc with
  | nil => simp
  | cons it items ih =>
    rw [List.foldl_cons, ih, List.exists_mem_cons_iff]
    cases hcheck : checkItem models it.1 with
    | ok r => simp [validateStep, hcheck]
    | error error => simp [validateStep, hcheck, or_assoc]

theorem renders_indexedError (i : ℕ) (error : Json PyFloat) : renders (indexedError i error) = renders error := by
  simp [indexedError]

/-- The report renders unless it echoes. -/
theorem renders_errors_iff {parsers : DateParsers} {request : DispatchRequest} (hmode : request.mode = .manual)
    {items : List ManualRecord} (hpayload : request.payload = some items) :
    renders (.obj [("invalid_records", .arr (items.zipIdx.foldl (validateStep (SIM_MODELS parsers)) ⟨[], []⟩).errors)]) =
      false ↔ EchoesNonFinite parsers request := by
  simp only [← Bool.not_eq_true, renders_obj_cons, renders_obj_nil, Bool.and_true, renders_arr, mem_errors_iff,
    List.not_mem_nil, false_or, not_forall]
  constructor
  · rintro ⟨e, ⟨it, hit, error, hcheck, rfl⟩, hfail⟩
    rw [renders_indexedError, Bool.not_eq_true] at hfail
    exact ⟨hmode, items, hpayload, it.1, List.mem_of_getElem? (List.mem_zipIdx_iff_getElem?.mp hit), error, hcheck, hfail⟩
  · rintro ⟨_, items', hpayload', item, hitem, error, hcheck, hfail⟩
    cases hpayload.symm.trans hpayload'
    obtain ⟨i, hi⟩ := List.mem_iff_getElem?.mp hitem
    refine ⟨indexedError i error, ⟨(item, i), List.mem_zipIdx_iff_getElem?.mpr hi, error, hcheck, rfl⟩, ?_⟩
    rw [renders_indexedError, hfail]
    exact Bool.false_ne_true

end AtlasConnectors
