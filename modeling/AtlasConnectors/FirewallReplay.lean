import AtlasConnectors.FirewallBatch
import AtlasConnectors.Replay

/-! A firewall batch submitted as a manual payload: which of its records manual mode refuses, and
with what errors. -/
namespace AtlasConnectors

open Raising

/-- What the loop of manual mode reports of one element. -/
def reportOf (models : SimModels) (item : ManualRecord × ℕ) : Option (Json PyFloat) :=
  match checkItem models item.1 with
  | .ok _ => none
  | .error e => some (indexedError item.2 e)

theorem foldl_validateStep_errors (models : SimModels) (items : List (ManualRecord × ℕ)) (acc : ManualState) :
    (items.foldl (validateStep models) acc).errors = acc.errors ++ items.filterMap (reportOf models) := by
  induction items generalizing acc with
  | nil => simp
  | cons item items ih =>
    rw [List.foldl_cons, ih]
    cases hcheck : checkItem models item.1 with
    | ok r =>
      rw [List.filterMap_cons_none (by rw [reportOf, hcheck])]
      simp only [validateStep, hcheck]
    | error e =>
      rw [List.filterMap_cons_some (b := indexedError item.2 e) (by rw [reportOf, hcheck])]
      simp only [validateStep, hcheck, List.append_assoc, List.singleton_append]

theorem validate_manual_reports {svc : SimService} {request : DispatchRequest} {items : List ManualRecord}
    (hpayload : request.payload = some items) (h : items.zipIdx.filterMap (reportOf svc.models) ≠ []) :
    validate_manual svc request = httpError 422
      (.obj [("invalid_records", .arr (items.zipIdx.filterMap (reportOf svc.models)))]) := by
  have herrors := foldl_validateStep_errors svc.models items.zipIdx ⟨[], []⟩
  rw [List.nil_append] at herrors
  cases items with
  | nil => exact absurd rfl h
  | cons item items =>
    simp only [validate_manual, hpayload, herrors]
    rw [if_pos h]

namespace ConnectFirewall

variable {rt : PyRuntime} {params p : Params} {seed : ℤ} {target_label : String} {today : Date}
  {parsers : DateParsers} {account : SimBankAccount} {b : GeneratedBatch}

/-- The defect that the manifest gives for record `i`. -/
def reasonAt (b : GeneratedBatch) (i : ℕ) : Option String :=
  match b.ground_truth.lookup "per_record_reason" with
  | some (.obj reasons) =>
    match reasons.lookup (toString i) with
    | some (.str defect) => some defect
    | _ => none
  | _ => none

def missingCurrency (payload : Payload Empty) : FieldError :=
  ⟨"currency", "missing", "Field required", .obj (Json.liftMembers payload)⟩

def notANumber : FieldError :=
  ⟨"amount", "value_error", "Value error, not a decimal string: 'NOT_A_NUMBER'", .str "NOT_A_NUMBER"⟩

/-- The field that manual mode refuses in bad record `k` with a defect, if any: the large number
that stands for an incoherent amount at odd `k` is a number. -/
def refusedField (defect : String) (k : ℕ) (payload : Payload Empty) : Option FieldError :=
  if defect = "dup_source_hash" then none
  else if defect = "missing_field" then some (missingCurrency payload)
  else if k % 2 = 0 then some notANumber
  else none

/-- The field that manual mode refuses in a record of a batch with so many good flows. -/
def refusedAt (b : GeneratedBatch) (base_flows : ℕ) (item : SimRecord × ℕ) : Option FieldError :=
  (reasonAt b item.2).bind fun defect => refusedField defect (item.2 - (1 + base_flows)) item.1.2

def refusals (b : GeneratedBatch) (base_flows : ℕ) : List (Json PyFloat) :=
  b.records.zipIdx.filterMap fun item =>
    (refusedAt b base_flows item).map fun e => indexedError item.2 (.arr [e.json])

/-- What manual mode says of a record with at most one refused field. -/
def verdict (r : SimRecord) : Option FieldError → Except (Json PyFloat) SimRecord
  | none => .ok r
  | some e => .error (.arr [e.json])

def faulty (k : ℕ) (defect : String) (base : Payload Empty) : Payload Empty :=
  if defect = "dup_source_hash" then base
  else if defect = "missing_field" then (base.set "ref" (.str (badRef k))).erase "currency"
  else (base.set "ref" (.str (badRef k))).set "amount" (.str (badAmount k))

/-- Bad record `k`, made from a good flow by its defect. -/
def Faulty (good : List SimCashFlow) (k : ℕ) (d : String × Payload Empty) : Prop :=
  ∃ f ∈ good, d.2 = faulty k d.1 f.model_dump

theorem ensures_faulty (good : List SimCashFlow) (k : ℕ) (defect : String) :
    Ensures (badPayload (good.map SimCashFlow.model_dump) k defect : Gen rt (Payload Empty)) fun payload =>
      Faulty good k (defect, payload) := by
  unfold badPayload Faulty faulty
  by_cases hdup : defect = "dup_source_hash"
  · rw [if_pos hdup]
    refine (PyRuntime.ensures_choice _).mono fun payload hpayload => ?_
    obtain ⟨f, hf, rfl⟩ := List.mem_map.mp hpayload
    exact ⟨f, hf, by rw [if_pos hdup]⟩
  · rw [if_neg hdup]
    refine (PyRuntime.ensures_choice _).bind fun base hbase => Ensures.pure ?_
    obtain ⟨f, hf, rfl⟩ := List.mem_map.mp hbase
    exact ⟨f, hf, by rw [if_neg hdup]⟩

/-- The loop's invariant: the bad records so far, each labelled with its defect. -/
structure Labelling (first : List SimRecord) (good : List SimCashFlow) (ks : List ℕ)
    (bad : List (String × Payload Empty)) (acc : Progress) : Prop where
  faulty : List.Forall₂ (Faulty good) ks bad
  records : acc.records = first ++ bad.map fun d => ("cash_flow", d.2)
  reason : acc.per_record_reason = labels first.length bad

theorem ensures_labelling {first : List SimRecord} {good : List SimCashFlow} {ks : List ℕ}
    {bad : List (String × Payload Empty)} {acc : Progress} (defect_types : List String) (k : ℕ)
    (h : Labelling first good ks bad acc) :
    Ensures (addDefect defect_types (good.map SimCashFlow.model_dump) acc k : Gen rt Progress) fun out =>
      ∃ bad, Labelling first good (ks ++ [k]) bad out := by
  refine Ensures.bind' fun defect => ?_
  refine (ensures_faulty good k defect).bind fun payload hpayload => Ensures.pure ⟨bad ++ [(defect, payload)], ?_⟩
  have hlength : acc.records.length = first.length + bad.length := by
    rw [h.records, List.length_append, List.length_map]
  constructor
  · exact List.rel_append h.faulty (.cons hpayload .nil)
  · simp [h.records]
  · rw [hlength, h.reason]
    exact set_labels first.length bad (defect, payload)

/-- A batch whose manifest labels its bad records. -/
structure Labelled (base_flows : ℕ) (account : SimBankAccount) (good : List SimCashFlow)
    (bad : List (String × Payload Empty)) (b : GeneratedBatch) : Prop where
  length : good.length = base_flows
  naive : ∀ f ∈ good, ∀ t, f.booked_at = some t → t.offset = none
  faulty : List.Forall₂ (Faulty good) (List.range bad.length) bad
  records : b.records = (account.record :: good.map SimCashFlow.record) ++
    bad.map fun d => ("cash_flow", d.2)
  reason : b.ground_truth.lookup "per_record_reason" =
    some (.obj ((labels (1 + base_flows) bad).map fun label => (label.1, .str label.2)))

theorem ensures_labelled (p : Params) (target_label : String) (today : Date) :
    Ensures (batch p target_label today : Gen rt GeneratedBatch) fun b =>
      ∃ base_flows account good bad, paramInt p "base_flows" = .ok base_flows ∧
        Labelled base_flows.toNat account good bad b := by
  refine Ensures.bind (Ensures.fromExcept fun _ h => h) fun base_flows hbase => ?_
  refine Ensures.bind' fun defect_types => ?_
  refine Ensures.bind' fun ratio => ?_
  refine Ensures.bind' fun bad_count => ?_
  refine Ensures.bind' fun iban => ?_
  refine Ensures.bind' fun balance => ?_
  refine Ensures.bind (Ensures.fromExcept fun a ha => SimBankAccount.create_ok ha) fun account ha => ?_
  refine (Ensures.mapM fun _ _ => ensures_goodFlow today ha.2.2.1).bind fun good hgood => ?_
  have hlength : good.length = base_flows.toNat := by rw [← hgood.length_eq, List.length_range]
  refine Ensures.bind (Ensures.foldlM (I := fun ks acc => ∃ bad, Labelling
    (account.record :: good.map SimCashFlow.record) good ks bad acc) ?_ ?_) ?_
  · exact ⟨[], .nil, by simp, rfl⟩
  · rintro ks k acc _ ⟨bad, hbad⟩
    exact ensures_labelling defect_types k hbad
  · rintro acc ⟨bad, hbad⟩
    refine Ensures.pure ⟨base_flows, account, good, bad, hbase, ?_⟩
    have hfirst : (account.record :: good.map SimCashFlow.record).length = 1 + base_flows.toNat := by
      rw [List.length_cons, List.length_map, hlength, Nat.add_comm]
    have hcount := hbad.faulty.length_eq
    rw [List.length_range] at hcount
    exact {
      length := hlength
      naive := by
        intro f hf
        obtain ⟨_, _, _, hposted⟩ := exists_of_mem_right hgood hf
        exact hposted.booked_at
      faulty := by
        rw [← hcount]
        exact hbad.faulty
      records := hbad.records
      reason := by
        have hreason := (manifest_shows bad_count acc).reason
        rwa [hbad.reason, hfirst] at hreason }

theorem generate_labelled (hb : generate rt params seed target_label today = .ok b) :
    ∃ p, coerce_params rt.fmt (param_schema rt) params = .ok p ∧
      ∃ base_flows account good bad, paramInt p "base_flows" = .ok base_flows ∧
        Labelled base_flows.toNat account good bad b :=
  generateWith_ensures (P := fun b => ∃ p, coerce_params rt.fmt (param_schema rt) params = .ok p ∧
      ∃ base_flows account good bad, paramInt p "base_flows" = .ok base_flows ∧
        Labelled base_flows.toNat account good bad b)
    (fun p hp => (ensures_labelled p target_label today).mono fun _ hb => ⟨p, hp, hb⟩) hb

theorem checkDecimal_valueError {loc s msg : String} (h : require_decimal s true = .error (.valueError msg)) :
    checkDecimal loc s = .errors [⟨loc, "value_error", "Value error, " ++ msg, .str s⟩] := by
  unfold checkDecimal
  split
  · rename_i out hout
    rw [h] at hout
    cases hout
  · rename_i msg' hmsg
    rw [h] at hmsg
    cases hmsg
    rfl
  · rename_i e hne he
    rw [h] at he
    cases he
    exact absurd rfl (hne msg)

section Fields

variable (hparsers : ReadsIso parsers) {f : SimCashFlow} (hnaive : ∀ t, f.booked_at = some t → t.offset = none)

include hparsers hnaive

theorem validate_missing (ref : String) :
    SimCashFlow.model_validate parsers (Json.liftMembers ((f.model_dump.set "ref" (.str ref)).erase "currency")) =
      .errors [missingCurrency ((f.model_dump.set "ref" (.str ref)).erase "currency")] := by
  have hiban : checkTextWith "account_iban" (checkIban "account_iban") (.str f.account_iban.1) =
      .ok f.account_iban := checkTextWith_str _ (checkIban_own _ _)
  have hamount : checkTextWith "amount" (checkDecimal "amount") (.str f.amount.1) = .ok f.amount :=
    checkTextWith_str _ (checkDecimal_own _ _)
  have hdate : checkParsed parsers.date "value_date" (.str f.value_date.isoformat) = .ok f.value_date := by
    rw [checkParsed, hparsers.date]
  have hcurrency : required (Json.liftMembers ((f.model_dump.set "ref" (.str ref)).erase "currency")) "currency"
      (checkTextWith "currency" checkCurrency) =
        .errors [missingCurrency ((f.model_dump.set "ref" (.str ref)).erase "currency")] := rfl
  rw [SimCashFlow.model_validate, hcurrency, required_of_lookup (v := .str f.account_iban.1) rfl,
    required_of_lookup (v := .str f.amount.1) rfl, required_of_lookup (v := .str f.value_date.isoformat) rfl,
    optional_datetime (o := f.booked_at) hparsers hnaive rfl,
    required_of_lookup (v := .str f.direction.text) rfl, required_of_lookup (v := .str f.counterparty) rfl,
    required_of_lookup (v := .str f.label) rfl, optional_text (o := some ref) rfl,
    optional_text (o := f.category_hint) rfl, hiban, hamount, hdate, checkDirection_own]
  rfl

theorem validate_notANumber (ref : String) :
    SimCashFlow.model_validate parsers
      (Json.liftMembers ((f.model_dump.set "ref" (.str ref)).set "amount" (.str "NOT_A_NUMBER"))) =
        .errors [notANumber] := by
  have hiban : checkTextWith "account_iban" (checkIban "account_iban") (.str f.account_iban.1) =
      .ok f.account_iban := checkTextWith_str _ (checkIban_own _ _)
  have hcurrency : checkTextWith "currency" checkCurrency (.str f.currency.1) = .ok f.currency :=
    checkTextWith_str _ (checkCurrency_own _)
  have hdate : checkParsed parsers.date "value_date" (.str f.value_date.isoformat) = .ok f.value_date := by
    rw [checkParsed, hparsers.date]
  have hamount : checkTextWith "amount" (checkDecimal "amount") (.str "NOT_A_NUMBER") = .errors [notANumber] := by
    have hkind : NumberText.decimalKind "NOT_A_NUMBER" = none := by decide +kernel
    have hrepr : reprText "NOT_A_NUMBER" = "'NOT_A_NUMBER'" := by decide +kernel
    have hrequire : require_decimal "NOT_A_NUMBER" true =
        .error (.valueError ("not a decimal string: " ++ "'NOT_A_NUMBER'")) := by
      rw [require_decimal, hkind, hrepr]
    exact checkDecimal_valueError hrequire
  rw [SimCashFlow.model_validate, required_of_lookup (v := .str f.account_iban.1) rfl,
    required_of_lookup (v := .str "NOT_A_NUMBER") rfl, required_of_lookup (v := .str f.currency.1) rfl,
    required_of_lookup (v := .str f.value_date.isoformat) rfl,
    optional_datetime (o := f.booked_at) hparsers hnaive rfl,
    required_of_lookup (v := .str f.direction.text) rfl, required_of_lookup (v := .str f.counterparty) rfl,
    required_of_lookup (v := .str f.label) rfl, optional_text (o := some ref) rfl,
    optional_text (o := f.category_hint) rfl, hiban, hcurrency, hamount, hdate, checkDirection_own]
  rfl

end Fields

def largeFlow (f : SimCashFlow) (k : ℕ) : SimCashFlow :=
  { f with ref := some (badRef k), amount := ⟨"999999999999999", by decide +kernel⟩ }

theorem checkItem_refused {payload : Payload Empty} {e : FieldError}
    (h : SimCashFlow.model_validate parsers (Json.liftMembers payload) = .errors [e]) :
    checkItem (SIM_MODELS parsers) (asManual ("cash_flow", payload)) = .error (.arr [e.json]) := by
  have hmodel : (SIM_MODELS parsers).cash_flow (Json.liftMembers payload) = .errors [e] := by
    change SimCashFlow.model_dump <$> SimCashFlow.model_validate parsers (Json.liftMembers payload) = _
    rw [h]
    rfl
  have htable : (SIM_MODELS parsers).table.lookup "cash_flow" = some (SIM_MODELS parsers).cash_flow := rfl
  simp only [checkItem, asManual, htable, hmodel, List.map_cons, List.map_nil]

theorem checkItem_faulty (hparsers : ReadsIso parsers) {f : SimCashFlow}
    (hnaive : ∀ t, f.booked_at = some t → t.offset = none) (defect : String) (k : ℕ) :
    checkItem (SIM_MODELS parsers) (asManual ("cash_flow", faulty k defect f.model_dump)) =
      verdict ("cash_flow", faulty k defect f.model_dump)
        (refusedField defect k (faulty k defect f.model_dump)) := by
  unfold faulty refusedField badAmount
  by_cases hdup : defect = "dup_source_hash"
  · rw [if_pos hdup, if_pos hdup]
    exact checkItem_dumped hparsers (.cash_flow f hnaive)
  · rw [if_neg hdup, if_neg hdup]
    by_cases hmissing : defect = "missing_field"
    · rw [if_pos hmissing, if_pos hmissing]
      exact checkItem_refused (validate_missing hparsers hnaive (badRef k))
    · rw [if_neg hmissing, if_neg hmissing]
      by_cases heven : k % 2 = 0
      · rw [if_pos heven, if_pos heven]
        exact checkItem_refused (validate_notANumber hparsers hnaive (badRef k))
      · rw [if_neg heven, if_neg heven]
        exact checkItem_dumped hparsers (.cash_flow (largeFlow f k) hnaive)

section Batch

variable {base_flows : ℕ} {good : List SimCashFlow} {bad : List (String × Payload Empty)}
  (h : Labelled base_flows account good bad b)

include h

theorem Labelled.reasonAt_eq (i : ℕ) : reasonAt b i = (labels (1 + base_flows) bad).lookup (toString i) := by
  simp only [reasonAt, h.reason]
  have hmap := Dict.lookup_map (fun s => (.str s : Json PyFloat)) (labels (1 + base_flows) bad) (toString i)
  rw [hmap]
  cases (labels (1 + base_flows) bad).lookup (toString i) <;> rfl

theorem Labelled.reasonAt_first {i : ℕ} (hi : i < 1 + base_flows) : reasonAt b i = none := by
  rw [h.reasonAt_eq, Option.eq_none_iff_forall_ne_some]
  intro s hs
  obtain ⟨k, _, hk, _, _⟩ := lookup_labels.mp hs
  omega

theorem Labelled.reasonAt_bad {k : ℕ} {d : String × Payload Empty} (hd : bad[k]? = some d) :
    reasonAt b (1 + base_flows + k) = some d.1 := by
  rw [h.reasonAt_eq]
  exact lookup_labels.mpr ⟨k, d, rfl, hd, rfl⟩

theorem Labelled.exists_flow {k : ℕ} {d : String × Payload Empty} (hd : bad[k]? = some d) :
    ∃ f ∈ good, d.2 = ConnectFirewall.faulty k d.1 f.model_dump := by
  obtain ⟨hk, rfl⟩ := List.getElem?_eq_some_iff.mp hd
  have hrange : k < (List.range bad.length).length := by rwa [List.length_range]
  simpa [Faulty] using h.faulty.get hrange hk

/-- Manual mode says of each record what the manifest says of it. -/
theorem Labelled.checkItem_eq (hparsers : ReadsIso parsers) {item : SimRecord × ℕ}
    (hitem : item ∈ b.records.zipIdx) :
    checkItem (SIM_MODELS parsers) (asManual item.1) = verdict item.1 (refusedAt b base_flows item) := by
  obtain ⟨r, i⟩ := item
  have hget : b.records[i]? = some r := List.mem_zipIdx_iff_getElem?.mp hitem
  have hfirst : (account.record :: good.map SimCashFlow.record).length = 1 + base_flows := by
    rw [List.length_cons, List.length_map, h.length, Nat.add_comm]
  rw [h.records] at hget
  by_cases hi : i < 1 + base_flows
  · -- the account and the good flows are dumped from models, and have no label
    rw [List.getElem?_append_left (by omega)] at hget
    have hdumped : Dumped r := by
      rcases List.mem_cons.mp (List.mem_of_getElem? hget) with rfl | hmem
      · exact .bank_account account
      · obtain ⟨f, hf, rfl⟩ := List.mem_map.mp hmem
        exact .cash_flow f (h.naive f hf)
    rw [checkItem_dumped hparsers hdumped, refusedAt, h.reasonAt_first hi]
    rfl
  · obtain ⟨k, rfl⟩ := Nat.exists_eq_add_of_le (not_lt.mp hi)
    rw [List.getElem?_append_right (by omega), hfirst, Nat.add_sub_cancel_left, List.getElem?_map,
      Option.map_eq_some_iff] at hget
    obtain ⟨d, hd, rfl⟩ := hget
    obtain ⟨f, hf, hpayload⟩ := h.exists_flow hd
    rw [refusedAt, h.reasonAt_bad hd, Option.bind_some, Nat.add_sub_cancel_left, hpayload]
    exact checkItem_faulty hparsers (h.naive f hf) d.1 k

theorem Labelled.reports (hparsers : ReadsIso parsers) :
    (b.records.map asManual).zipIdx.filterMap (reportOf (SIM_MODELS parsers)) = refusals b base_flows := by
  rw [List.zipIdx_map, List.filterMap_map]
  refine List.filterMap_congr fun item hitem => ?_
  have hcheck := h.checkItem_eq hparsers hitem
  simp only [Function.comp_apply, Prod.map_fst, Prod.map_snd, id_eq, reportOf, hcheck]
  cases refusedAt b base_flows item <;> rfl

theorem Labelled.accepted (hparsers : ReadsIso parsers) (hnone : refusals b base_flows = []) :
    ∀ r ∈ b.records, checkItem (SIM_MODELS parsers) (asManual r) = .ok r := by
  intro r hr
  obtain ⟨i, hi⟩ := List.mem_iff_getElem?.mp hr
  have hitem : (r, i) ∈ b.records.zipIdx := List.mem_zipIdx_iff_getElem?.mpr hi
  have hfield : refusedAt b base_flows (r, i) = none := by
    have hempty := List.filterMap_eq_nil_iff.mp hnone (r, i) hitem
    rwa [Option.map_eq_none_iff] at hempty
  rw [h.checkItem_eq hparsers hitem, hfield]
  rfl

end Batch

/-- A firewall batch submitted as a manual payload: refused with one report for each record
whose label says that a field is missing or no number, and accepted as it is without such records. -/
theorem replay_refused {base_flows : ℤ} (hp : coerce_params rt.fmt (param_schema rt) params = .ok p)
    (hbase : paramInt p "base_flows" = .ok base_flows) (hb : generate rt params seed target_label today = .ok b)
    (hparsers : ReadsIso parsers) {svc : SimService} (hmodels : svc.models = SIM_MODELS parsers)
    {request : DispatchRequest} (hpayload : request.payload = some (b.records.map asManual)) :
    (refusals b base_flows.toNat ≠ [] → validate_manual svc request =
      httpError 422 (.obj [("invalid_records", .arr (refusals b base_flows.toNat))])) ∧
    (refusals b base_flows.toNat = [] →
      ∃ batch, validate_manual svc request = .ok batch ∧ batch.records = b.records) := by
  obtain ⟨p', hp', base_flows', account, good, bad, hbase', h⟩ := generate_labelled hb
  rw [hp] at hp'
  cases hp'
  cases hbase.symm.trans hbase'
  have hreports := h.reports hparsers
  rw [← hmodels] at hreports
  constructor
  · intro hne
    rw [← hreports] at hne ⊢
    exact validate_manual_reports hpayload hne
  · intro hnone
    have hne : b.records ≠ [] := by simp [h.records]
    refine validate_manual_own hpayload hne fun r hr => ?_
    rw [hmodels]
    exact h.accepted hparsers hnone r hr

def twoIncoherent : Params :=
  [("base_flows", .int 2), ("bad_ratio", .int 1), ("defect_types", .arr [.str "incoherent_amount"])]

def twoIncoherentBatch : GeneratedBatch :=
  (generate leastDraws twoIncoherent 42 "Société" newYear).toOption.getD ⟨[], [], "json"⟩

theorem twoIncoherent_refused : (refusals twoIncoherentBatch 2).length = 1 ∧
    validate_manual isoService (manualRequest (twoIncoherentBatch.records.map asManual)) = httpError 422
      (.obj [("invalid_records", .arr (refusals twoIncoherentBatch 2))]) := by
  have hp : coerce_params leastDraws.fmt (param_schema leastDraws) twoIncoherent =
      .ok ((coerce_params leastDraws.fmt (param_schema leastDraws) twoIncoherent).toOption.getD []) :=
    eq_ok_getD (by decide +kernel) []
  have hbase : paramInt ((coerce_params leastDraws.fmt (param_schema leastDraws) twoIncoherent).toOption.getD [])
      "base_flows" = .ok 2 := eq_ok_of_toOption (by decide +kernel)
  have hb : generate leastDraws twoIncoherent 42 "Société" newYear = .ok twoIncoherentBatch :=
    eq_ok_getD (by decide +kernel) _
  have hone : (refusals twoIncoherentBatch 2).length = 1 := by decide +kernel
  have hne : refusals twoIncoherentBatch 2 ≠ [] := List.ne_nil_of_length_pos (by omega)
  have hmodels : isoService.models = SIM_MODELS isoParsers := rfl
  have hpayload : (manualRequest (twoIncoherentBatch.records.map asManual)).payload =
      some (twoIncoherentBatch.records.map asManual) := rfl
  exact ⟨hone, (replay_refused hp hbase hb isoParsers_readsIso hmodels hpayload).1 hne⟩

end ConnectFirewall
end AtlasConnectors
