import AtlasConnectors.Ledger

/-! `finhub.anomaly.v1`: labelled anomalies over a stable baseline. -/
namespace AtlasConnectors
namespace FinhubAnomaly

open Raising

def ANOMALY_TYPES : List String := ["amount_outlier", "off_hours", "duplicate", "structuring"]

def STRUCTURING_AMOUNT : PyFloat := .num 9500

def STRUCTURING_SLICES : ℕ := 5

variable {rt : PyRuntime}

def param_schema : List ParamSpec :=
  [.int "base_flows" 200 10 2000, .int "anomaly_count" 5 1 50,
    .multi "anomaly_types" ANOMALY_TYPES ANOMALY_TYPES]

/-- A median amount for each counterparty. -/
def drawMedians : Gen rt (Dict String PyFloat) :=
  COUNTERPARTIES.mapM fun name => do
    let median ← uniformInt 500 8000
    pure (name, median)

def medianOf (medians : Dict String PyFloat) (counterparty : String) : Except PyExc PyFloat :=
  match medians.lookup counterparty with
  | some median => .ok median
  | none => .error (.keyError counterparty)

def baselineFlow (today : Date) (account : SimBankAccount) (medians : Dict String PyFloat) (i : ℕ) :
    Gen rt SimCashFlow := do
  let counterparty ← fromExcept (cycled COUNTERPARTIES i)
  let median ← fromExcept (medianOf medians counterparty)
  let u ← PyRuntime.uniform (rt.lit (5 / 100)).neg (rt.lit (5 / 100))
  let amount := PyFloat.mul rt.fmt median (.add rt.fmt (.num 1) u)
  let days ← PyRuntime.randint 0 59
  let day ← PyRuntime.shiftDate today (-days)
  let hour ← PyRuntime.randint 9 17
  let booked_at ← PyRuntime.datetime day hour 30
  fromExcept (SimCashFlow.create account.iban (money amount.neg) "EUR" day (some booked_at) .debit
    counterparty "Règlement fournisseur" (some ("ANM-" ++ NumberText.zfill 5 i)) none)

def slice (account : SimBankAccount) (counterparty : String) (day : Date) (k s : ℕ) :
    Gen rt SimCashFlow := do
  let booked_at ← PyRuntime.datetime day 10 (5 + s)
  fromExcept (SimCashFlow.create account.iban (money STRUCTURING_AMOUNT.neg) "EUR" day
    (some booked_at) .debit counterparty "Virement fractionné"
    (some ("ANM-STR-" ++ NumberText.zfill 3 k ++ "-" ++ toString s)) none)

/-- A baseline flow seven minutes later; `datetime(day)` stands for a missing time. -/
def duplicate (baseline : List SimCashFlow) (day : Date) (k : ℕ) : Gen rt SimCashFlow := do
  let source ← fromExcept (cycled baseline k)
  let midnight ← PyRuntime.datetime day 0 0
  let booked_at ← PyRuntime.addSeconds (source.booked_at.getD midnight) 420
  pure { source with booked_at := some booked_at }

def outlier (account : SimBankAccount) (counterparty : String) (median : PyFloat) (day : Date) (k : ℕ) :
    Gen rt SimCashFlow := do
  let booked_at ← PyRuntime.datetime day 11 0
  fromExcept (SimCashFlow.create account.iban (money (.mul rt.fmt median.neg (.num 12))) "EUR" day
    (some booked_at) .debit counterparty "Règlement fournisseur"
    (some ("ANM-OUT-" ++ NumberText.zfill 3 k)) none)

def offHours (account : SimBankAccount) (counterparty : String) (median : PyFloat) (day : Date)
    (k : ℕ) : Gen rt SimCashFlow := do
  let booked_at ← PyRuntime.datetime day 3 0
  fromExcept (SimCashFlow.create account.iban (money median.neg) "EUR" day (some booked_at) .debit
    counterparty "Règlement fournisseur" (some ("ANM-OFH-" ++ NumberText.zfill 3 k)) none)

/-- The flows of anomaly `k`. -/
def anomaly (today : Date) (account : SimBankAccount) (medians : Dict String PyFloat)
    (baseline : List SimCashFlow) (kind : String) (k : ℕ) : Gen rt (List SimCashFlow) := do
  let counterparty ← fromExcept (cycled COUNTERPARTIES k)
  let median ← fromExcept (medianOf medians counterparty)
  let days ← PyRuntime.randint 0 20
  let day ← PyRuntime.shiftDate today (-days)
  if kind = "structuring" then
    (List.range STRUCTURING_SLICES).mapM (slice account counterparty day k)
  else if kind = "duplicate" then (fun flow => [flow]) <$> duplicate baseline day k
  else if kind = "amount_outlier" then
    (fun flow => [flow]) <$> outlier account counterparty median day k
  else (fun flow => [flow]) <$> offHours account counterparty median day k

def label (kind : String) (index : ℕ) (flows : List SimCashFlow) : Json PyFloat :=
  if kind = "structuring" then
    .obj [("type", .str kind),
      ("record_indices", .arr ((List.range flows.length).map fun s => .int (index + s)))]
  else .obj [("type", .str kind), ("record_index", .int index)]

/-- What the loop carries from one anomaly to the next. -/
structure Progress where
  records : List SimRecord
  injected : List (Json PyFloat)

def addAnomaly (today : Date) (account : SimBankAccount) (medians : Dict String PyFloat)
    (baseline : List SimCashFlow) (anomaly_types : List String) (acc : Progress) (k : ℕ) :
    Gen rt Progress := do
  let kind ← fromExcept (cycled anomaly_types k)
  let flows ← anomaly today account medians baseline kind k
  pure {
    records := acc.records ++ flows.map SimCashFlow.record
    injected := acc.injected ++ [label kind acc.records.length flows] }

def batch (p : Params) (target_label : String) (today : Date) : Gen rt GeneratedBatch := do
  let base_flows ← fromExcept (paramInt p "base_flows")
  let anomaly_count ← fromExcept (paramInt p "anomaly_count")
  let anomaly_types ← fromExcept (paramTexts p "anomaly_types")
  let iban ← test_iban
  let balance ← uniformInt 100000 400000
  let account ← fromExcept (SimBankAccount.create iban "Compte courant 1" "EUR"
    (entity_label target_label 0) (money balance))
  let medians ← drawMedians
  let baseline ← (List.range base_flows.toNat).mapM (baselineFlow today account medians)
  let acc ← (List.range anomaly_count.toNat).foldlM
    (addAnomaly today account medians baseline anomaly_types)
    ⟨account.record :: baseline.map SimCashFlow.record, []⟩
  pure {
    records := acc.records
    ground_truth := [("injected_anomalies", .arr acc.injected)]
    source_format := "json" }

def generate (rt : PyRuntime) (params : Params) (seed : ℤ) (target_label : String) (today : Date) :
    Except PyExc GeneratedBatch :=
  generateWith rt param_schema (fun p => batch p target_label today) params seed

def generator (rt : PyRuntime) : PresetGenerator where
  preset_id := "finhub.anomaly.v1"
  moduleName := "AtlasFinhub"
  feature := "anomaly"
  label := "Anomalies étiquetées"
  description := "Base stable par contrepartie + anomalies injectées (montant aberrant, horaire " ++
    "atypique, doublon, fractionnement) — détecté vs injecté se compare."
  phase := 1
  param_schema := param_schema
  generate := generate rt

theorem schema_nodup : (param_schema.map ParamSpec.name).Nodup := by
  simp [param_schema, ParamSpec.int, ParamSpec.multi]

theorem schema_wellFormed : ∀ spec ∈ param_schema, WellFormed spec := by
  simp only [param_schema, List.forall_mem_cons, List.not_mem_nil, IsEmpty.forall_iff, implies_true,
    and_true]
  exact ⟨.int (by norm_num) (by norm_num), .int (by norm_num) (by norm_num),
    .multi (by simp [ANOMALY_TYPES]) (by simp)⟩

def MedianRange (x : PyFloat) : Prop := ∃ q, x.val? = some q ∧ 500 ≤ q ∧ q ≤ 8000

theorem MedianRange.within {x : PyFloat} (h : MedianRange x) : x.Within (8000 : ℕ) := by
  obtain ⟨q, hq, hlo, hhi⟩ := h
  exact ⟨q, hq, abs_le.mpr ⟨by push_cast; linarith, by exact_mod_cast hhi⟩⟩

theorem MedianRange.nonNeg {x : PyFloat} (h : MedianRange x) : x.NonNeg := by
  obtain ⟨q, hq, hlo, _⟩ := h
  exact ⟨q, hq, by linarith⟩

theorem ensures_drawMedians : Ensures (drawMedians : Gen rt (Dict String PyFloat)) fun medians =>
    ∀ p ∈ medians, MedianRange p.2 := by
  have hone : ∀ name, Ensures (do
      let median ← uniformInt 500 8000
      pure (name, median) : Gen rt (String × PyFloat)) fun p => MedianRange p.2 := by
    intro name
    refine (PyRuntime.ensures_uniform rfl rfl (by norm_num)).bind fun x hx => ?_
    exact Ensures.pure (by simpa [MedianRange] using hx)
  refine (Ensures.mapM fun name _ => hone name).mono ?_
  intro medians h p hp
  obtain ⟨_, _, hrange⟩ := exists_of_mem_right h hp
  exact hrange

theorem medianOf_range {medians : Dict String PyFloat} (hmedians : ∀ p ∈ medians, MedianRange p.2)
    {counterparty : String} {median : PyFloat} (h : medianOf medians counterparty = .ok median) :
    MedianRange median := by
  cases hlook : medians.lookup counterparty with
  | none =>
    rw [medianOf, hlook] at h
    cases h
  | some x =>
    rw [medianOf, hlook] at h
    cases h
    exact hmedians _ (Dict.mem_of_lookup hlook)

/-- The share by which a baseline amount may leave its median. -/
def jitterBound (rt : PyRuntime) : ℚ := rt.fmt.rnd (5 / 100)

theorem jitterBound_range (rt : PyRuntime) : 0 ≤ jitterBound rt ∧ jitterBound rt ≤ 1 := by
  have hle := rt.fmt.rnd_mono (show (5 / 100 : ℚ) ≤ 1 by norm_num)
  rw [rt.fmt.rnd_one] at hle
  exact ⟨rt.fmt.rnd_nonneg (by norm_num), hle⟩

theorem ensures_jitter : Ensures (PyRuntime.uniform (rt.lit (5 / 100)).neg (rt.lit (5 / 100)) :
    Gen rt PyFloat) fun u => u.Within (jitterBound rt) :=
  ensures_uniform_neg (val?_lit (n := 1) (by norm_num [abs_le]) (by norm_num)) (jitterBound_range rt).1

/-- `median * (1.0 + u)`. -/
def usualAmount (rt : PyRuntime) (median u : PyFloat) : PyFloat :=
  .mul rt.fmt median (.add rt.fmt (.num 1) u)

theorem nonNeg_usualAmount {median u : PyFloat} (hmedian : MedianRange median)
    (hu : u.Within (jitterBound rt)) : (usualAmount rt median u).NonNeg := by
  have hbound := jitterBound_range rt
  have hone : (PyFloat.num 1).Within (1 : ℕ) := PyFloat.Within.num (by norm_num)
  have hfactor : (PyFloat.add rt.fmt (.num 1) u).Within (2 : ℕ) :=
    hone.add (hu.mono (by exact_mod_cast hbound.2)) (b := 1) le_rfl (by norm_num)
  have hproduct : (usualAmount rt median u).Within (16000 : ℕ) :=
    hmedian.within.mul hfactor le_rfl (by norm_num)
  obtain ⟨q, hq, hqb⟩ := hu
  have hsum : (0 : ℚ) ≤ 1 + q := by linarith [(abs_le.mp hqb).1]
  exact hmedian.nonNeg.mul (PyFloat.NonNeg.add rfl hq hsum hfactor) hproduct

theorem at?_fields {day : Date} {hour minute : ℤ} {t : DateTime}
    (h : DateTime.at? day hour minute = some t) : t.date = day ∧
      (t.hour.val : ℤ) = hour ∧ (t.minute.val : ℤ) = minute ∧ t.second.val = 0 := by
  unfold DateTime.at? at h
  split_ifs at h with hrange
  cases h
  exact ⟨rfl, Int.toNat_of_nonneg hrange.1.1, Int.toNat_of_nonneg hrange.2.1, rfl⟩

/-- Baseline flow `i`: near the median of its counterparty, on a half hour of the working day. -/
structure UsualFlow (rt : PyRuntime) (today : Date) (account : SimBankAccount)
    (medians : Dict String PyFloat) (i : ℕ) (f : SimCashFlow) : Prop where
  counterparty : cycled COUNTERPARTIES i = .ok f.counterparty
  amount : ∃ median u, medianOf medians f.counterparty = .ok median ∧ MedianRange median ∧
    u.Within (jitterBound rt) ∧ f.amount.1 = money (usualAmount rt median u).neg
  booked_at : ∃ t, f.booked_at = some t ∧ 9 ≤ t.hour.val ∧ t.hour.val ≤ 17 ∧ t.minute.val = 30 ∧
    t.second.val = 0
  ref : f.ref = some ("ANM-" ++ NumberText.zfill 5 i)
  posted : Posted today 60 account f

/-- One slice of a structured transfer of the day. -/
structure SliceOf (today : Date) (account : SimBankAccount) (counterparty : String) (day : Date)
    (k s : ℕ) (f : SimCashFlow) : Prop where
  counterparty : f.counterparty = counterparty
  amount : f.amount.1 = money STRUCTURING_AMOUNT.neg
  value_date : f.value_date = day
  booked_at : ∃ t, f.booked_at = some t ∧ t.hour.val = 10 ∧ t.minute.val = 5 + s
  ref : f.ref = some ("ANM-STR-" ++ NumberText.zfill 3 k ++ "-" ++ toString s)
  posted : Posted today 60 account f

structure OutlierOf (rt : PyRuntime) (today : Date) (account : SimBankAccount)
    (medians : Dict String PyFloat) (k : ℕ) (f : SimCashFlow) : Prop where
  amount : ∃ median, medianOf medians f.counterparty = .ok median ∧ MedianRange median ∧
    f.amount.1 = money (.mul rt.fmt median.neg (.num 12))
  booked_at : ∃ t, f.booked_at = some t ∧ t.hour.val = 11
  ref : f.ref = some ("ANM-OUT-" ++ NumberText.zfill 3 k)
  posted : Posted today 60 account f

structure OffHoursOf (today : Date) (account : SimBankAccount) (k : ℕ) (f : SimCashFlow) : Prop where
  booked_at : ∃ t, f.booked_at = some t ∧ t.hour.val = 3
  ref : f.ref = some ("ANM-OFH-" ++ NumberText.zfill 3 k)
  posted : Posted today 60 account f

/-- The flows of anomaly `k`, by its kind. -/
inductive Shaped (rt : PyRuntime) (today : Date) (account : SimBankAccount)
    (medians : Dict String PyFloat) (baseline : List SimCashFlow) (k : ℕ) :
    String → List SimCashFlow → Prop
  | structuring (counterparty : String) (day : Date) (flows : List SimCashFlow)
      (h : List.Forall₂ (SliceOf today account counterparty day k) (List.range STRUCTURING_SLICES) flows) :
      Shaped rt today account medians baseline k "structuring" flows
  | duplicate (f : SimCashFlow) (t u : DateTime) (hf : baseline[k % baseline.length]? = some f)
      (ht : f.booked_at = some t) (hu : t.addSeconds 420 = some u) :
      Shaped rt today account medians baseline k "duplicate" [{ f with booked_at := some u }]
  | amount_outlier (f : SimCashFlow) (h : OutlierOf rt today account medians k f) :
      Shaped rt today account medians baseline k "amount_outlier" [f]
  | off_hours (kind : String) (hstructuring : kind ≠ "structuring") (hduplicate : kind ≠ "duplicate")
      (houtlier : kind ≠ "amount_outlier") (f : SimCashFlow) (h : OffHoursOf today account k f) :
      Shaped rt today account medians baseline k kind [f]

section Flows

variable {today : Date} {account : SimBankAccount} (hcurrency : account.currency.1 = "EUR")
  {medians : Dict String PyFloat} (hmedians : ∀ p ∈ medians, MedianRange p.2)

include hcurrency

include hmedians in
theorem ensures_baselineFlow (i : ℕ) : Ensures (baselineFlow today account medians i : Gen rt SimCashFlow)
    (UsualFlow rt today account medians i) := by
  refine Ensures.bind (Ensures.fromExcept fun _ h => h) fun counterparty hcounterparty => ?_
  refine Ensures.bind (Ensures.fromExcept fun _ h => h) fun median hmedian => ?_
  refine ensures_jitter.bind fun u hu => ?_
  refine (PyRuntime.ensures_randint (by norm_num)).bind fun days hrange => ?_
  refine (PyRuntime.ensures_shiftDate today (-days)).bind fun day hday => ?_
  refine (PyRuntime.ensures_randint (by norm_num)).bind fun hour hhour => ?_
  refine (PyRuntime.ensures_datetime day hour 30).bind fun t ht => ?_
  refine Ensures.fromExcept fun f hf => ?_
  obtain ⟨_, _, _, rfl⟩ := SimCashFlow.create_eq hf
  obtain ⟨_, hth, htm, hts⟩ := at?_fields ht
  have hmedian' := medianOf_range hmedians hmedian
  obtain ⟨q, hq, hallows⟩ := debit_allows (nonNeg_usualAmount hmedian' hu)
  exact {
    counterparty := hcounterparty
    amount := ⟨median, u, hmedian, hmedian', hu, rfl⟩
    booked_at := ⟨t, rfl, by omega, by omega, by omega, hts⟩
    ref := rfl
    posted := {
      account_iban := rfl
      currency := hcurrency.symm
      amount := ⟨_, q, rfl, hq, hallows⟩
      value_date := recent_of_shift hday hrange.1 (by omega)
      booked_at := by
        rintro _ ⟨⟩
        exact at?_offset ht } }

section Anomalies

variable {day : Date} (hday : Recent today 60 day) {counterparty : String} {median : PyFloat}
  (hmedian : medianOf medians counterparty = .ok median)

include hday

theorem ensures_slice (k s : ℕ) : Ensures (slice account counterparty day k s : Gen rt SimCashFlow)
    (SliceOf today account counterparty day k s) := by
  refine (PyRuntime.ensures_datetime day 10 (5 + s)).bind fun t ht => Ensures.fromExcept fun f hf => ?_
  obtain ⟨_, _, _, rfl⟩ := SimCashFlow.create_eq hf
  obtain ⟨_, hth, htm, _⟩ := at?_fields ht
  obtain ⟨q, hq, hallows⟩ := debit_allows (x := STRUCTURING_AMOUNT) (PyFloat.NonNeg.num (by norm_num))
  exact {
    counterparty := rfl
    amount := rfl
    value_date := rfl
    booked_at := ⟨t, rfl, by omega, by omega⟩
    ref := rfl
    posted := {
      account_iban := rfl
      currency := hcurrency.symm
      amount := ⟨_, q, rfl, hq, hallows⟩
      value_date := hday
      booked_at := by
        rintro _ ⟨⟩
        exact at?_offset ht } }

include hmedians hmedian

theorem ensures_outlier (k : ℕ) : Ensures (outlier account counterparty median day k : Gen rt SimCashFlow)
    (OutlierOf rt today account medians k) := by
  refine (PyRuntime.ensures_datetime day 11 0).bind fun t ht => Ensures.fromExcept fun f hf => ?_
  obtain ⟨_, _, _, rfl⟩ := SimCashFlow.create_eq hf
  obtain ⟨_, hth, _, _⟩ := at?_fields ht
  have hrange := medianOf_range hmedians hmedian
  have htwelve : (PyFloat.num 12).Within (12 : ℕ) := PyFloat.Within.num (by norm_num)
  have hproduct : (PyFloat.mul rt.fmt median.neg (.num 12)).Within (96000 : ℕ) :=
    hrange.within.neg.mul htwelve le_rfl (by norm_num)
  obtain ⟨r, hr, _⟩ := hproduct
  have hsign : r ≤ 0 := by
    obtain ⟨q, hq, hq0⟩ := hrange.nonNeg
    have hval := PyFloat.val?_neg hq
    simp only [PyFloat.mul, hval, PyFloat.val?_num] at hr
    have hneg : -q * 12 = -(q * 12) := by ring
    rw [PyFloat.val?_eq_of_ofSigned hr, hneg, rt.fmt.rnd_neg, neg_nonpos]
    exact rt.fmt.rnd_nonneg (by linarith)
  exact {
    amount := ⟨median, hmedian, hrange, rfl⟩
    booked_at := ⟨t, rfl, by omega⟩
    ref := rfl
    posted := {
      account_iban := rfl
      currency := hcurrency.symm
      amount := ⟨_, r, rfl, hr, hsign⟩
      value_date := hday
      booked_at := by
        rintro _ ⟨⟩
        exact at?_offset ht } }

theorem ensures_offHours (k : ℕ) : Ensures (offHours account counterparty median day k : Gen rt SimCashFlow)
    (OffHoursOf today account k) := by
  refine (PyRuntime.ensures_datetime day 3 0).bind fun t ht => Ensures.fromExcept fun f hf => ?_
  obtain ⟨_, _, _, rfl⟩ := SimCashFlow.create_eq hf
  obtain ⟨_, hth, _, _⟩ := at?_fields ht
  obtain ⟨q, hq, hallows⟩ := debit_allows (medianOf_range hmedians hmedian).nonNeg
  exact {
    booked_at := ⟨t, rfl, by omega⟩
    ref := rfl
    posted := {
      account_iban := rfl
      currency := hcurrency.symm
      amount := ⟨_, q, rfl, hq, hallows⟩
      value_date := hday
      booked_at := by
        rintro _ ⟨⟩
        exact at?_offset ht } }

end Anomalies

omit hcurrency in
theorem ensures_duplicate {baseline : List SimCashFlow}
    (hbaseline : ∀ f ∈ baseline, ∃ t, f.booked_at = some t) (day : Date) (k : ℕ) :
    Ensures (duplicate baseline day k : Gen rt SimCashFlow) fun f =>
      Shaped rt today account medians baseline k "duplicate" [f] := by
  refine Ensures.bind (Ensures.fromExcept fun _ h => cycled_eq_ok.mp h) fun source hsource => ?_
  refine Ensures.bind' fun midnight => ?_
  refine (PyRuntime.ensures_addSeconds _ 420).bind fun u hu => Ensures.pure ?_
  obtain ⟨t, ht⟩ := hbaseline source (List.mem_of_getElem? hsource)
  rw [ht, Option.getD_some] at hu
  exact .duplicate source t u hsource ht hu

include hmedians in
theorem ensures_anomaly {baseline : List SimCashFlow}
    (hbaseline : ∀ f ∈ baseline, ∃ t, f.booked_at = some t) (kind : String) (k : ℕ) :
    Ensures (anomaly today account medians baseline kind k : Gen rt (List SimCashFlow))
      (Shaped rt today account medians baseline k kind) := by
  refine Ensures.bind' fun counterparty => ?_
  refine Ensures.bind (Ensures.fromExcept fun _ h => h) fun median hmedian => ?_
  refine (PyRuntime.ensures_randint (by norm_num)).bind fun days hrange => ?_
  refine (PyRuntime.ensures_shiftDate today (-days)).bind fun day hshift => ?_
  have hday : Recent today 60 day := recent_of_shift hshift hrange.1 (by omega)
  split_ifs with hstructuring hduplicate houtlier
  · rw [hstructuring]
    exact (Ensures.mapM fun s _ => ensures_slice hcurrency hday k s).mono fun flows h =>
      .structuring counterparty day flows h
  · rw [hduplicate]
    exact Ensures.map (ensures_duplicate hbaseline day k)
  · rw [houtlier]
    exact Ensures.map ((ensures_outlier hcurrency hmedians hday hmedian k).mono fun f h =>
      .amount_outlier f h)
  · exact Ensures.map ((ensures_offHours hcurrency hmedians hday hmedian k).mono fun f h =>
      .off_hours kind hstructuring hduplicate houtlier f h)

end Flows

/-- The flows of anomaly `k`, and the index at which they start. -/
structure Group where
  index : ℕ
  start : ℕ
  kind : String
  flows : List SimCashFlow

namespace Group

def indices (group : Group) : List ℕ := List.range' group.start group.flows.length

def label (group : Group) : Json PyFloat := FinhubAnomaly.label group.kind group.start group.flows

end Group

/-- The group of anomaly `k`. -/
structure GroupOf (rt : PyRuntime) (today : Date) (account : SimBankAccount)
    (medians : Dict String PyFloat) (baseline : List SimCashFlow) (anomaly_types : List String) (k : ℕ)
    (group : Group) : Prop where
  index : group.index = k
  kind : cycled anomaly_types k = .ok group.kind
  shaped : Shaped rt today account medians baseline k group.kind group.flows

def Located (records : List SimRecord) (group : Group) : Prop :=
  ∀ (s : ℕ) f, group.flows[s]? = some f → records[group.start + s]? = some f.record

theorem Located.append {records : List SimRecord} {group : Group} (h : Located records group)
    (more : List SimRecord) : Located (records ++ more) group := by
  intro s f hf
  have hrecord := h s f hf
  rw [List.getElem?_append_left (List.getElem?_eq_some_iff.mp hrecord).1]
  exact hrecord

theorem located_last {records : List SimRecord} {group : Group} (h : group.start = records.length) :
    Located (records ++ group.flows.map SimCashFlow.record) group := by
  intro s f hf
  rw [h, List.getElem?_append_right (by omega), Nat.add_sub_cancel_left, List.getElem?_map, hf]
  rfl

/-- The loop's invariant: a group for each anomaly so far; their indices follow those of the records
that came first, without a gap. -/
structure Injected (rt : PyRuntime) (today : Date) (account : SimBankAccount)
    (medians : Dict String PyFloat) (baseline : List SimCashFlow) (anomaly_types : List String)
    (first : List SimRecord) (ks : List ℕ) (groups : List Group) (acc : Progress) : Prop where
  related : List.Forall₂ (GroupOf rt today account medians baseline anomaly_types) ks groups
  records : acc.records = first ++ (groups.flatMap Group.flows).map SimCashFlow.record
  indices : groups.flatMap Group.indices = List.range' first.length (groups.flatMap Group.flows).length
  located : ∀ group ∈ groups, Located acc.records group
  injected : acc.injected = groups.map Group.label

section Loop

variable {today : Date} {account : SimBankAccount} (hcurrency : account.currency.1 = "EUR")
  {medians : Dict String PyFloat} (hmedians : ∀ p ∈ medians, MedianRange p.2)
  {baseline : List SimCashFlow} (hbaseline : ∀ f ∈ baseline, ∃ t, f.booked_at = some t)
  {anomaly_types : List String} {first : List SimRecord} {ks : List ℕ} {groups : List Group}
  {acc : Progress}

theorem Injected.snoc (h : Injected rt today account medians baseline anomaly_types first ks groups acc)
    {k : ℕ} {group : Group} (hgroup : GroupOf rt today account medians baseline anomaly_types k group)
    (hstart : group.start = acc.records.length) :
    Injected rt today account medians baseline anomaly_types first (ks ++ [k]) (groups ++ [group])
      ⟨acc.records ++ group.flows.map SimCashFlow.record, acc.injected ++ [group.label]⟩ := by
  have hlength : group.start = first.length + (groups.flatMap Group.flows).length := by
    rw [hstart, h.records, List.length_append, List.length_map]
  refine ⟨List.rel_append h.related (.cons hgroup .nil), ?_, ?_, ?_, ?_⟩
  · simp [h.records]
  · rw [List.flatMap_append, List.flatMap_append, h.indices, List.length_append, ← List.range'_append_1,
      ← hlength]
    simp [Group.indices]
  · intro other hother
    rcases List.mem_append.mp hother with hother | hother
    · exact (h.located other hother).append _
    · rw [List.mem_singleton.mp hother]
      exact located_last hstart
  · simp [h.injected]

include hcurrency hmedians hbaseline

theorem ensures_addAnomaly (k : ℕ)
    (h : Injected rt today account medians baseline anomaly_types first ks groups acc) :
    Ensures (addAnomaly today account medians baseline anomaly_types acc k : Gen rt Progress) fun out =>
      ∃ groups, Injected rt today account medians baseline anomaly_types first (ks ++ [k]) groups out := by
  refine Ensures.bind (Ensures.fromExcept fun _ h => h) fun kind hkind => ?_
  refine (ensures_anomaly hcurrency hmedians hbaseline kind k).bind fun flows hflows => ?_
  have hgroup : GroupOf rt today account medians baseline anomaly_types k
      ⟨k, acc.records.length, kind, flows⟩ := ⟨rfl, hkind, hflows⟩
  exact Ensures.pure ⟨_, h.snoc hgroup rfl⟩

end Loop

/-- The batch of coerced parameters: the account, the baseline, then the labelled groups. -/
structure Labelled (rt : PyRuntime) (p : Params) (today : Date) (base_flows anomaly_count : ℤ)
    (anomaly_types : List String) (account : SimBankAccount) (medians : Dict String PyFloat)
    (baseline : List SimCashFlow) (groups : List Group) (b : GeneratedBatch) : Prop where
  base : paramInt p "base_flows" = .ok base_flows
  count : paramInt p "anomaly_count" = .ok anomaly_count
  types : paramTexts p "anomaly_types" = .ok anomaly_types
  balance : ∃ x, account.balance.1 = money x ∧ IsFinite x
  flows : List.Forall₂ (UsualFlow rt today account medians) (List.range base_flows.toNat) baseline
  injected : Injected rt today account medians baseline anomaly_types
    (account.record :: baseline.map SimCashFlow.record) (List.range anomaly_count.toNat) groups
    ⟨b.records, groups.map Group.label⟩
  truth : b.ground_truth = [("injected_anomalies", .arr (groups.map Group.label))]

theorem ensures_batch (p : Params) (target_label : String) (today : Date) :
    Ensures (batch p target_label today : Gen rt GeneratedBatch) fun b =>
      ∃ base_flows anomaly_count anomaly_types account medians baseline groups,
        Labelled rt p today base_flows anomaly_count anomaly_types account medians baseline groups b := by
  refine Ensures.bind (Ensures.fromExcept fun _ h => h) fun base_flows hbase => ?_
  refine Ensures.bind (Ensures.fromExcept fun _ h => h) fun anomaly_count hcount => ?_
  refine Ensures.bind (Ensures.fromExcept fun _ h => h) fun anomaly_types htypes => ?_
  refine Ensures.bind' fun iban => ?_
  refine (ensures_uniformInt (n := 400000) (by norm_num) (by norm_num)).bind fun x hx => ?_
  refine Ensures.bind (Ensures.fromExcept fun a ha => SimBankAccount.create_ok ha) fun account ha => ?_
  have hcurrency : account.currency.1 = "EUR" := ha.2.2.1
  refine ensures_drawMedians.bind fun medians hmedians => ?_
  refine (Ensures.mapM fun i _ => ensures_baselineFlow hcurrency hmedians i).bind fun baseline hflows => ?_
  have hbooked : ∀ f ∈ baseline, ∃ t, f.booked_at = some t := by
    intro f hf
    obtain ⟨i, _, hflow⟩ := exists_of_mem_right hflows hf
    obtain ⟨t, ht, _⟩ := hflow.booked_at
    exact ⟨t, ht⟩
  refine Ensures.bind (Ensures.foldlM (I := fun ks acc => ∃ groups, Injected rt today account medians
    baseline anomaly_types (account.record :: baseline.map SimCashFlow.record) ks groups acc) ?_ ?_) ?_
  · exact ⟨[], .nil, by simp, rfl, by simp, rfl⟩
  · rintro ks k acc _ ⟨groups, hgroups⟩
    exact ensures_addAnomaly hcurrency hmedians hbooked k hgroups
  · rintro ⟨records, injected⟩ ⟨groups, hgroups⟩
    cases hgroups.injected
    exact Ensures.pure ⟨base_flows, anomaly_count, anomaly_types, account, medians, baseline, groups,
      hbase, hcount, htypes, ⟨x, ha.2.2.2.2, isFinite_of_within hx⟩, hflows, hgroups, rfl⟩

theorem generate_labelled {params : Params} {seed : ℤ} {target_label : String} {today : Date}
    {b : GeneratedBatch} (h : generate rt params seed target_label today = .ok b) :
    ∃ p, coerce_params rt.fmt param_schema params = .ok p ∧
      ∃ base_flows anomaly_count anomaly_types account medians baseline groups,
        Labelled rt p today base_flows anomaly_count anomaly_types account medians baseline groups b :=
  generateWith_ensures (P := fun b => ∃ p, coerce_params rt.fmt param_schema params = .ok p ∧
      ∃ base_flows anomaly_count anomaly_types account medians baseline groups,
        Labelled rt p today base_flows anomaly_count anomaly_types account medians baseline groups b)
    (fun p hp => (ensures_batch p target_label today).mono fun _ hb => ⟨p, hp, hb⟩) h

theorem Shaped.posted {today : Date} {account : SimBankAccount} {medians : Dict String PyFloat}
    {baseline : List SimCashFlow} {k : ℕ} {kind : String} {flows : List SimCashFlow}
    (h : Shaped rt today account medians baseline k kind flows)
    (hbaseline : ∀ f ∈ baseline, Posted today 60 account f) : ∀ f ∈ flows, Posted today 60 account f := by
  intro f hf
  cases h with
  | structuring counterparty day flows h =>
    obtain ⟨s, _, hslice⟩ := exists_of_mem_right h hf
    exact hslice.posted
  | duplicate source t u hsource ht hu =>
    have hposted := hbaseline source (List.mem_of_getElem? hsource)
    rw [List.mem_singleton.mp hf]
    exact {
      account_iban := hposted.account_iban
      currency := hposted.currency
      amount := hposted.amount
      value_date := hposted.value_date
      booked_at := by
        rintro _ ⟨⟩
        rw [addSeconds_offset hu]
        exact hposted.booked_at t ht }
  | amount_outlier g h => exact List.mem_singleton.mp hf ▸ h.posted
  | off_hours kind _ _ _ g h => exact List.mem_singleton.mp hf ▸ h.posted

section Labelled

variable {p : Params} {today : Date} {base_flows anomaly_count : ℤ} {anomaly_types : List String}
  {account : SimBankAccount} {medians : Dict String PyFloat} {baseline : List SimCashFlow}
  {groups : List Group} {b : GeneratedBatch}
  (h : Labelled rt p today base_flows anomaly_count anomaly_types account medians baseline groups b)

include h

theorem Labelled.records : b.records =
    account.record :: (baseline ++ groups.flatMap Group.flows).map SimCashFlow.record := by
  simp [show b.records = _ from h.injected.records]

theorem Labelled.posted : ∀ f ∈ baseline ++ groups.flatMap Group.flows, Posted today 60 account f := by
  have hbaseline : ∀ f ∈ baseline, Posted today 60 account f := by
    intro f hf
    obtain ⟨i, _, hflow⟩ := exists_of_mem_right h.flows hf
    exact hflow.posted
  intro f hf
  rcases List.mem_append.mp hf with hf | hf
  · exact hbaseline f hf
  · obtain ⟨group, hgroup, hf⟩ := List.mem_flatMap.mp hf
    obtain ⟨k, _, hof⟩ := exists_of_mem_right h.injected.related hgroup
    exact hof.shaped.posted hbaseline f hf

theorem Labelled.ledger : Ledger today 60 b.records := by
  have hbalance : ∀ a ∈ [account], ∃ x, a.balance.1 = money x ∧ IsFinite x := by
    intro a ha
    rw [List.mem_singleton.mp ha]
    exact h.balance
  rw [h.records]
  exact ledger_of_accounts hbalance fun f hf => ⟨account, List.mem_singleton_self account, h.posted f hf⟩

end Labelled

theorem generate_ledger {params : Params} {seed : ℤ} {target_label : String} {today : Date}
    {b : GeneratedBatch} (h : generate rt params seed target_label today = .ok b) :
    Ledger today 60 b.records := by
  obtain ⟨_, _, _, _, _, _, _, _, _, hb⟩ := generate_labelled h
  exact hb.ledger

theorem generate_fabricated {params : Params} {seed : ℤ} {target_label : String} {today : Date}
    {b : GeneratedBatch} (h : generate rt params seed target_label today = .ok b) :
    ∀ r ∈ b.records, Fabricated IsFinite r := (generate_ledger h).fabricated

def HasAmount (f : SimCashFlow) : Prop := ∃ x, f.amount.1 = money x ∧ IsFinite x

/-- What is drawn for baseline flow `i`: its reference, and a half hour of the working day. -/
structure BaselineFlow (i : ℕ) (f : SimCashFlow) : Prop where
  ref : f.ref = some ("ANM-" ++ NumberText.zfill 5 i)
  booked : ∃ t, f.booked_at = some t ∧ t.hour.val ≤ 17 ∧ t.minute.val = 30 ∧ t.second.val = 0
  amount : HasAmount f

inductive Origin
  | base (i : ℕ)
  | copy (i : ℕ)
  | slice (k s : ℕ)
  | outlier (k : ℕ)
  | offHours (k : ℕ)

namespace Origin

def ref : Origin → String
  | base i => "ANM-" ++ NumberText.zfill 5 i
  | copy i => "ANM-" ++ NumberText.zfill 5 i
  | slice k s => "ANM-STR-" ++ NumberText.zfill 3 k ++ "-" ++ toString s
  | outlier k => "ANM-OUT-" ++ NumberText.zfill 3 k
  | offHours k => "ANM-OFH-" ++ NumberText.zfill 3 k

/-- The origin whose reference a flow carries: a copy keeps that of its source. -/
def source : Origin → Origin
  | copy i => base i
  | o => o

end Origin

/-- A flow is as its origin says; `baseline` holds the sources of the copies. -/
inductive From (baseline : List SimCashFlow) : Origin → SimCashFlow → Prop
  | base (i : ℕ) (f : SimCashFlow) (hf : baseline[i]? = some f) : From baseline (.base i) f
  | copy (i : ℕ) (f : SimCashFlow) (t u : DateTime) (hf : baseline[i]? = some f)
      (ht : f.booked_at = some t) (hu : t.addSeconds 420 = some u) :
      From baseline (.copy i) { f with booked_at := some u }
  | slice (k s : ℕ) (f : SimCashFlow) (href : f.ref = some (Origin.slice k s).ref) (ha : HasAmount f) :
      From baseline (.slice k s) f
  | outlier (k : ℕ) (f : SimCashFlow) (href : f.ref = some (Origin.outlier k).ref) (ha : HasAmount f) :
      From baseline (.outlier k) f
  | offHours (k : ℕ) (f : SimCashFlow) (href : f.ref = some (Origin.offHours k).ref)
      (ha : HasAmount f) : From baseline (.offHours k) f

/-- The origins of the flows of anomaly `k`, over `n` baseline flows. -/
def originsOf (kind : String) (n k : ℕ) : List Origin :=
  if kind = "structuring" then (List.range STRUCTURING_SLICES).map (.slice k)
  else if kind = "duplicate" then [.copy (k % n)]
  else if kind = "amount_outlier" then [.outlier k]
  else [.offHours k]

def originsAt (anomaly_types : List String) (n k : ℕ) : List Origin :=
  match cycled anomaly_types k with
  | .ok kind => originsOf kind n k
  | .error _ => []

theorem Posted.hasAmount {today : Date} {days : ℤ} {account : SimBankAccount} {f : SimCashFlow}
    (h : Posted today days account f) : HasAmount f := by
  obtain ⟨x, q, hx, hq, _⟩ := h.amount
  exact ⟨x, hx, q, hq⟩

theorem UsualFlow.baselineFlow {today : Date} {account : SimBankAccount} {medians : Dict String PyFloat}
    {i : ℕ} {f : SimCashFlow} (h : UsualFlow rt today account medians i f) : BaselineFlow i f := by
  obtain ⟨t, ht, _, hhour, hminute, hsecond⟩ := h.booked_at
  exact ⟨h.ref, ⟨t, ht, hhour, hminute, hsecond⟩, Posted.hasAmount h.posted⟩

theorem Shaped.from_origins {today : Date} {account : SimBankAccount} {medians : Dict String PyFloat}
    {baseline : List SimCashFlow} {k : ℕ} {kind : String} {flows : List SimCashFlow}
    (h : Shaped rt today account medians baseline k kind flows) :
    List.Forall₂ (From baseline) (originsOf kind baseline.length k) flows := by
  unfold originsOf
  cases h with
  | structuring counterparty day flows h =>
    rw [if_pos rfl, List.forall₂_map_left_iff]
    exact h.imp fun s f hf => .slice k s f hf.ref (Posted.hasAmount hf.posted)
  | duplicate source t u hsource ht hu =>
    rw [if_neg (by decide), if_pos rfl]
    exact .cons (.copy _ source t u hsource ht hu) .nil
  | amount_outlier f h =>
    rw [if_neg (by decide), if_neg (by decide), if_pos rfl]
    exact .cons (.outlier k f h.ref (Posted.hasAmount h.posted)) .nil
  | off_hours kind hstructuring hduplicate houtlier f h =>
    rw [if_neg hstructuring, if_neg hduplicate, if_neg houtlier]
    exact .cons (.offHours k f h.ref (Posted.hasAmount h.posted)) .nil

/-- The batch of coerced parameters: the account, the baseline, then the anomalies. -/
structure Anomalous (p : Params) (base_flows anomaly_count : ℤ) (anomaly_types : List String)
    (account : SimBankAccount) (baseline : List SimCashFlow) (groups : List (List SimCashFlow))
    (b : GeneratedBatch) : Prop where
  base : paramInt p "base_flows" = .ok base_flows
  count : paramInt p "anomaly_count" = .ok anomaly_count
  types : paramTexts p "anomaly_types" = .ok anomaly_types
  balance : ∃ x, account.balance.1 = money x ∧ IsFinite x
  flows : List.Forall₂ BaselineFlow (List.range base_flows.toNat) baseline
  related : List.Forall₂ (fun k => List.Forall₂ (From baseline)
    (originsAt anomaly_types baseline.length k)) (List.range anomaly_count.toNat) groups
  records : b.records = account.record :: (baseline ++ groups.flatten).map SimCashFlow.record

theorem Labelled.anomalous {p : Params} {today : Date} {base_flows anomaly_count : ℤ}
    {anomaly_types : List String} {account : SimBankAccount} {medians : Dict String PyFloat}
    {baseline : List SimCashFlow} {groups : List Group} {b : GeneratedBatch}
    (h : Labelled rt p today base_flows anomaly_count anomaly_types account medians baseline groups b) :
    Anomalous p base_flows anomaly_count anomaly_types account baseline (groups.map Group.flows) b where
  base := h.base
  count := h.count
  types := h.types
  balance := h.balance
  flows := h.flows.imp fun _ _ hflow => hflow.baselineFlow
  related := by
    rw [List.forall₂_map_right_iff]
    apply h.injected.related.imp
    intro k group hgroup
    rw [originsAt, hgroup.kind]
    exact hgroup.shaped.from_origins
  records := by rw [h.records, ← List.flatMap_def]

theorem generate_anomalous {params : Params} {seed : ℤ} {target_label : String} {today : Date}
    {b : GeneratedBatch} (h : generate rt params seed target_label today = .ok b) :
    ∃ p, coerce_params rt.fmt param_schema params = .ok p ∧
      ∃ base_flows anomaly_count anomaly_types account baseline groups,
        Anomalous p base_flows anomaly_count anomaly_types account baseline groups b := by
  obtain ⟨p, hp, base_flows, anomaly_count, anomaly_types, account, _, baseline, groups, hb⟩ :=
    generate_labelled h
  exact ⟨p, hp, base_flows, anomaly_count, anomaly_types, account, baseline, _, hb.anomalous⟩

end FinhubAnomaly
end AtlasConnectors
