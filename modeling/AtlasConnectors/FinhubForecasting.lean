import AtlasConnectors.Ledger

/-! `finhub.forecasting.v1`: a history of recurring monthly flows and variable collections. -/
namespace AtlasConnectors
namespace FinhubForecasting

open Raising

/-- One recurring series: its name, day of month and base amount. -/
structure Series where
  name : String
  dom : ℕ
  base : ℤ
  direction : Direction
  counterparty : String
  category : String

def RECURRING : List Series :=
  [⟨"salaries", 28, -42000, .debit, "Paie Groupe Simulée", "payroll"⟩,
    ⟨"rent", 3, -8500, .debit, "Foncière Simulée", "rent"⟩,
    ⟨"subscription", 5, -1200, .debit, "Logiciels Simulés SAS", "saas"⟩,
    ⟨"customer_invoices", 12, 55000, .credit, "Client Orion SAS", "sales"⟩]

variable {rt : PyRuntime}

def param_schema (rt : PyRuntime) : List ParamSpec :=
  [.int "days" 120 90 730, .int "accounts" 3 1 10,
    .enum "seasonality" "monthly" ["none", "weekly", "monthly"],
    .float "recurring_ratio" (rt.lit (6 / 10)) (rt.lit 0) (rt.lit 1),
    .float "noise" (rt.lit (1 / 10)) (rt.lit 0) (rt.lit 1)]

/-- `math.pi`. -/
def pi (rt : PyRuntime) : PyFloat := rt.lit (884279719003555 / 281474976710656)

/-- `1.0 + 0.25 * math.sin(2 * math.pi * n / period)`. -/
def wave (rt : PyRuntime) (n period : ℕ) : PyFloat :=
  .add rt.fmt (.num 1) (.mul rt.fmt (rt.lit (25 / 100))
    (rt.sin (.divBy rt.fmt (.mul rt.fmt (.mul rt.fmt (.num 2) (pi rt)) (.num n)) period)))

def season_factor (rt : PyRuntime) (day : Date) (mode : String) : PyFloat :=
  if mode = "weekly" then wave rt day.weekday 7
  else if mode = "monthly" then wave rt (day.day - 1) 30
  else .num 1

def accountAt (target_label : String) (i : ℕ) : Gen rt SimBankAccount := do
  let iban ← test_iban
  let balance ← uniformInt 100000 400000
  fromExcept (SimBankAccount.create iban ("Compte courant " ++ NumberText.intText (i + 1)) "EUR"
    (entity_label target_label (i % 2)) (money balance))

def recurringAmount (rt : PyRuntime) (recurring_scale : PyFloat) (series : Series) : PyFloat :=
  .mul rt.fmt (.num series.base) recurring_scale

def recurringFlow (main : SimBankAccount) (recurring_scale : PyFloat) (day : Date)
    (series : Series) : Gen rt SimCashFlow :=
  fromExcept (SimCashFlow.create main.iban (money (recurringAmount rt recurring_scale series)) "EUR"
    day none series.direction series.counterparty ("Récurrent " ++ series.name)
    (some ("REC-" ++ series.name ++ "-" ++ day.isoformat)) (some series.category))

/-- `base_collect * (1.0 + u)`. -/
def collectedAmount (rt : PyRuntime) (variable_scale : PyFloat) (seasonality : String) (day : Date)
    (u : PyFloat) : PyFloat :=
  .mul rt.fmt (.mul rt.fmt (.mul rt.fmt (.num 3000) variable_scale) (season_factor rt day seasonality))
    (.add rt.fmt (.num 1) u)

/-- A day has collections when it is a business day and their scale is positive. -/
abbrev Collects (variable_scale : PyFloat) (day : Date) : Prop :=
  day.weekday < 5 ∧ PyFloat.lt (.num 0) variable_scale = true

def collections (accounts : List SimBankAccount) (variable_scale noise : PyFloat)
    (seasonality : String) (day : Date) (offset : ℕ) : Gen rt (List SimCashFlow) :=
  if Collects variable_scale day then do
    let account ← fromExcept (cycled accounts offset)
    let u ← PyRuntime.uniform noise.neg noise
    let flow ← fromExcept (SimCashFlow.create account.iban
      (money (collectedAmount rt variable_scale seasonality day u)) "EUR" day none .credit
      "Encaissements Clients Divers" "Encaissement variable"
      (some ("VAR-" ++ day.isoformat ++ "-" ++ NumberText.intText offset)) (some "sales"))
    pure [flow]
  else pure []

/-- The flows of one day of the history. -/
def dayFlows (main : SimBankAccount) (accounts : List SimBankAccount)
    (recurring_scale variable_scale noise : PyFloat) (seasonality : String) (start : Date)
    (offset : ℕ) : Gen rt (List SimCashFlow) := do
  let day ← PyRuntime.shiftDate start offset
  let recurring ← (RECURRING.filter fun series => day.day = series.dom).mapM
    (recurringFlow main recurring_scale day)
  let collected ← collections accounts variable_scale noise seasonality day offset
  pure (recurring ++ collected)

def firstAccount : List SimBankAccount → Except PyExc SimBankAccount
  | main :: _ => .ok main
  | [] => .error .indexError

/-- `2.0 * recurring_ratio`. -/
def recurringScale (rt : PyRuntime) (ratio : PyFloat) : PyFloat := .mul rt.fmt (.num 2) ratio

/-- `2.0 * (1.0 - recurring_ratio)`. -/
def variableScale (rt : PyRuntime) (ratio : PyFloat) : PyFloat :=
  .mul rt.fmt (.num 2) (.sub rt.fmt (.num 1) ratio)

def batch (p : Params) (target_label : String) (today : Date) : Gen rt GeneratedBatch := do
  let days ← fromExcept (paramInt p "days")
  let n_accounts ← fromExcept (paramInt p "accounts")
  let seasonality ← fromExcept (paramText p "seasonality")
  let recurring_ratio ← fromExcept (paramFloat p "recurring_ratio")
  let noise ← fromExcept (paramFloat p "noise")
  let accounts ← (List.range n_accounts.toNat).mapM (accountAt target_label)
  let start ← PyRuntime.shiftDate today (-(days - 1))
  let main ← fromExcept (firstAccount accounts)
  let flows ← (List.range days.toNat).mapM (dayFlows main accounts (recurringScale rt recurring_ratio)
    (variableScale rt recurring_ratio) noise seasonality start)
  pure {
    records := accounts.map SimBankAccount.record ++ flows.flatten.map SimCashFlow.record
    ground_truth := [("days", .int days),
      ("recurring_series", .arr (RECURRING.map fun series => .str series.name)),
      ("expected_history_points", .int flows.flatten.length)]
    source_format := "json" }

def generate (rt : PyRuntime) (params : Params) (seed : ℤ) (target_label : String) (today : Date) :
    Except PyExc GeneratedBatch :=
  generateWith rt (param_schema rt) (fun p => batch p target_label today) params seed

def generator (rt : PyRuntime) : PresetGenerator where
  preset_id := "finhub.forecasting.v1"
  moduleName := "AtlasFinhub"
  feature := "forecasting"
  label := "Historique prévisionnel"
  description := "≥90 jours d'historique : flux récurrents mensuels + encaissements variables " ++
    "avec saisonnalité et bruit — la régénération de prévision a de quoi apprendre."
  phase := 1
  param_schema := param_schema rt
  generate := generate rt

/-- What is known of a draw between `-noise` and `noise`. -/
def Jitter (noise u : PyFloat) : Prop :=
  (∀ q, noise.val? = some q → 0 ≤ q → ∃ r, u.val? = some r ∧ -q ≤ r ∧ r ≤ q) ∧
    (noise = .nan → u = .nan)

theorem ensures_jitter (noise : PyFloat) :
    Ensures (PyRuntime.uniform noise.neg noise : Gen rt PyFloat) (Jitter noise) := by
  have hfinite : Ensures (PyRuntime.uniform noise.neg noise : Gen rt PyFloat) fun u =>
      ∀ q, noise.val? = some q → 0 ≤ q → ∃ r, u.val? = some r ∧ -q ≤ r ∧ r ≤ q := by
    intro s u s' hrun q hq hpos
    exact PyRuntime.ensures_uniform (PyFloat.val?_neg hq) hq (by linarith) s u s' hrun
  have hnan : Ensures (PyRuntime.uniform noise.neg noise : Gen rt PyFloat) fun u =>
      noise = .nan → u = .nan := by
    intro s u s' hrun h
    subst h
    exact PyRuntime.ensures_uniform_nan s u s' hrun
  exact hfinite.and hnan

/-- The collections of a day: one with a drawn noise, or none. -/
inductive Collected (rt : PyRuntime) (variable_scale noise : PyFloat) (seasonality : String)
    (day : Date) : List SimCashFlow → Prop
  | business (h : Collects variable_scale day) (f : SimCashFlow) (u : PyFloat) (hu : Jitter noise u)
      (hf : f.amount.1 = money (collectedAmount rt variable_scale seasonality day u)) :
      Collected rt variable_scale noise seasonality day [f]
  | idle (h : ¬Collects variable_scale day) : Collected rt variable_scale noise seasonality day []

theorem ensures_collections (accounts : List SimBankAccount) (variable_scale noise : PyFloat)
    (seasonality : String) (day : Date) (offset : ℕ) :
    Ensures (collections accounts variable_scale noise seasonality day offset :
      Gen rt (List SimCashFlow)) (Collected rt variable_scale noise seasonality day) := by
  by_cases h : Collects variable_scale day
  · rw [collections, if_pos h]
    refine Ensures.bind' fun account => (ensures_jitter noise).bind fun u hu => ?_
    refine Ensures.bind (Ensures.fromExcept fun f hf => SimCashFlow.create_ok hf) fun f hf => ?_
    exact Ensures.pure (.business h f u hu hf.2.1)
  · rw [collections, if_neg h]
    exact Ensures.pure (.idle h)

/-- The flows of the day at an offset: the series due that day, then the collections. -/
structure DayFlows (rt : PyRuntime) (ratio noise : PyFloat) (seasonality : String) (start : Date)
    (offset : ℕ) (flows : List SimCashFlow) : Prop where
  exists_day : ∃ day recurring collected, start.shift offset = some day ∧
    flows = recurring ++ collected ∧
    List.Forall₂ (fun series f => f.amount.1 = money (recurringAmount rt (recurringScale rt ratio) series))
      (RECURRING.filter fun series => day.day = series.dom) recurring ∧
    Collected rt (variableScale rt ratio) noise seasonality day collected

theorem ensures_dayFlows (main : SimBankAccount) (accounts : List SimBankAccount)
    (ratio noise : PyFloat) (seasonality : String) (start : Date) (offset : ℕ) :
    Ensures (dayFlows main accounts (recurringScale rt ratio) (variableScale rt ratio) noise seasonality
      start offset : Gen rt (List SimCashFlow)) (DayFlows rt ratio noise seasonality start offset) := by
  refine (PyRuntime.ensures_shiftDate start offset).bind fun day hday => ?_
  have hrecurring : ∀ series, Ensures (recurringFlow main (recurringScale rt ratio) day series :
      Gen rt SimCashFlow) fun f =>
        f.amount.1 = money (recurringAmount rt (recurringScale rt ratio) series) :=
    fun series => Ensures.fromExcept fun f hf => (SimCashFlow.create_ok hf).2.1
  refine (Ensures.mapM fun series _ => hrecurring series).bind fun recurring hrec => ?_
  refine (ensures_collections accounts _ noise seasonality day offset).bind fun collected hcol => ?_
  exact Ensures.pure ⟨day, recurring, collected, hday, rfl, hrec, hcol⟩

theorem ensures_accountAt (target_label : String) (i : ℕ) :
    Ensures (accountAt target_label i : Gen rt SimBankAccount) fun a =>
      ∃ x, a.balance.1 = money x ∧ IsFinite x := by
  refine Ensures.bind' fun iban => ?_
  refine (ensures_uniformInt (n := 400000) (by norm_num) (by norm_num)).bind fun x hx => ?_
  exact Ensures.fromExcept fun a ha =>
    ⟨x, (SimBankAccount.create_ok ha).2.2.2.2, isFinite_of_within hx⟩

/-- The batch of coerced parameters: accounts, then the flows day by day. -/
structure History (rt : PyRuntime) (p : Params) (b : GeneratedBatch) : Prop where
  exists_days : ∃ days ratio noise seasonality start, ∃ (accounts : List SimBankAccount)
    (flows : List (List SimCashFlow)),
    paramInt p "days" = .ok days ∧ paramFloat p "recurring_ratio" = .ok ratio ∧
    paramFloat p "noise" = .ok noise ∧
    (∀ a ∈ accounts, ∃ x, a.balance.1 = money x ∧ IsFinite x) ∧
    List.Forall₂ (DayFlows rt ratio noise seasonality start) (List.range days.toNat) flows ∧
    b.records = accounts.map SimBankAccount.record ++ flows.flatten.map SimCashFlow.record

theorem ensures_batch (p : Params) (target_label : String) (today : Date) :
    Ensures (batch p target_label today : Gen rt GeneratedBatch) (History rt p) := by
  refine Ensures.bind (Ensures.fromExcept fun _ h => h) fun days hdays => ?_
  refine Ensures.bind' fun n_accounts => Ensures.bind' fun seasonality => ?_
  refine Ensures.bind (Ensures.fromExcept fun _ h => h) fun ratio hratio => ?_
  refine Ensures.bind (Ensures.fromExcept fun _ h => h) fun noise hnoise => ?_
  refine (Ensures.mapM fun i _ => ensures_accountAt target_label i).bind fun accounts haccounts => ?_
  refine Ensures.bind' fun start => Ensures.bind' fun main => ?_
  refine (Ensures.mapM fun offset _ => ensures_dayFlows main accounts ratio noise seasonality start
    offset).bind fun flows hflows => ?_
  refine Ensures.pure ⟨days, ratio, noise, seasonality, start, accounts, flows, hdays, hratio, hnoise,
    ?_, hflows, rfl⟩
  intro a ha
  obtain ⟨i, _, hx⟩ := exists_of_mem_right haccounts ha
  exact hx

theorem within_sin {x : PyFloat} (h : IsFinite x) : (rt.sin x).Within (1 : ℕ) := by
  obtain ⟨q, hq⟩ := h
  simpa using rt.sin_range x q hq

theorem within_swing (n period : ℕ) (hn : n ≤ 31) (hperiod : 1 ≤ period) :
    (PyFloat.mul rt.fmt (rt.lit (25 / 100)) (rt.sin (.divBy rt.fmt
      (.mul rt.fmt (.mul rt.fmt (.num 2) (pi rt)) (.num n)) period))).Within (1 : ℕ) := by
  have hpi : (pi rt).Within (4 : ℕ) := within_lit (by norm_num [abs_le]) (by norm_num)
  have hnum : (PyFloat.num n).Within (31 : ℕ) :=
    PyFloat.Within.num (by rw [Nat.abs_cast]; exact_mod_cast hn)
  have htwo : (PyFloat.num 2).Within (2 : ℕ) := PyFloat.Within.num (by norm_num)
  have htau : (PyFloat.mul rt.fmt (.num 2) (pi rt)).Within (8 : ℕ) := htwo.mul hpi le_rfl (by norm_num)
  have hturn : (PyFloat.mul rt.fmt (.mul rt.fmt (.num 2) (pi rt)) (.num n)).Within (248 : ℕ) :=
    htau.mul hnum le_rfl (by norm_num)
  have hsin : (rt.sin (.divBy rt.fmt (.mul rt.fmt (.mul rt.fmt (.num 2) (pi rt)) (.num n)) period)).Within
      (1 : ℕ) := within_sin (isFinite_of_within (hturn.divBy hperiod (by norm_num)))
  have hquarter : (rt.lit (25 / 100)).Within (1 : ℕ) := within_lit (by norm_num [abs_le]) (by norm_num)
  exact hquarter.mul hsin le_rfl (by norm_num)

theorem within_wave (n period : ℕ) (hn : n ≤ 31) (hperiod : 1 ≤ period) :
    (wave rt n period).Within (2 : ℕ) := by
  have hone : (PyFloat.num 1).Within (1 : ℕ) := PyFloat.Within.num (by norm_num)
  exact hone.add (within_swing n period hn hperiod) le_rfl (by norm_num)

theorem nonNeg_wave (n period : ℕ) (hn : n ≤ 31) (hperiod : 1 ≤ period) : (wave rt n period).NonNeg := by
  obtain ⟨q, hq, hqb⟩ := within_swing n period hn hperiod
  have hsum : (0 : ℚ) ≤ 1 + q := by
    have hlo := (abs_le.mp hqb).1
    push_cast at hlo
    linarith
  exact PyFloat.NonNeg.add rfl hq hsum (within_wave n period hn hperiod)

theorem within_season_factor (day : Date) (mode : String) :
    (season_factor rt day mode).Within (2 : ℕ) := by
  have hday := day.day_range
  have hlen := daysInMonth_range day.year day.month
  have hweekday : day.weekday < 7 := Nat.mod_lt _ (by norm_num)
  unfold season_factor
  split_ifs
  · exact within_wave _ _ (by omega) (by norm_num)
  · exact within_wave _ _ (by omega) (by norm_num)
  · exact PyFloat.Within.num (by norm_num)

theorem nonNeg_season_factor (day : Date) (mode : String) : (season_factor rt day mode).NonNeg := by
  have hday := day.day_range
  have hlen := daysInMonth_range day.year day.month
  have hweekday : day.weekday < 7 := Nat.mod_lt _ (by norm_num)
  unfold season_factor
  split_ifs
  · exact nonNeg_wave _ _ (by omega) (by norm_num)
  · exact nonNeg_wave _ _ (by omega) (by norm_num)
  · exact PyFloat.NonNeg.num (by norm_num)

theorem within_variableScale {ratio : PyFloat} (h : ratio.Within (1 : ℕ)) :
    (variableScale rt ratio).Within (4 : ℕ) := by
  have hone : (PyFloat.num 1).Within (1 : ℕ) := PyFloat.Within.num (by norm_num)
  have htwo : (PyFloat.num 2).Within (2 : ℕ) := PyFloat.Within.num (by norm_num)
  exact htwo.mul (hone.sub h (n := 2) le_rfl (by norm_num)) le_rfl (by norm_num)

theorem isFinite_recurringAmount {ratio : PyFloat} (h : ratio.Within (1 : ℕ)) {series : Series}
    (hseries : series ∈ RECURRING) : IsFinite (recurringAmount rt (recurringScale rt ratio) series) := by
  have htwo : (PyFloat.num 2).Within (2 : ℕ) := PyFloat.Within.num (by norm_num)
  have hbase : (PyFloat.num series.base).Within (55000 : ℕ) := by
    simp only [RECURRING, List.mem_cons, List.not_mem_nil, or_false] at hseries
    rcases hseries with rfl | rfl | rfl | rfl <;> exact PyFloat.Within.num (by norm_num)
  exact isFinite_of_within (hbase.mul (htwo.mul h (n := 2) le_rfl (by norm_num)) (n := 110000) le_rfl
    (by norm_num))

theorem within_seasonal {ratio : PyFloat} (hratio : ratio.Within (1 : ℕ)) (seasonality : String) (day : Date) :
    (PyFloat.mul rt.fmt (.mul rt.fmt (.num 3000) (variableScale rt ratio))
      (season_factor rt day seasonality)).Within (24000 : ℕ) := by
  have hbase : (PyFloat.num 3000).Within (3000 : ℕ) := PyFloat.Within.num (by norm_num)
  have hscale : (variableScale rt ratio).Within (4 : ℕ) := within_variableScale hratio
  have hscaled : (PyFloat.mul rt.fmt (.num 3000) (variableScale rt ratio)).Within (12000 : ℕ) :=
    hbase.mul hscale le_rfl (by norm_num)
  exact hscaled.mul (within_season_factor day seasonality) le_rfl (by norm_num)

theorem within_collectedAmount {ratio u : PyFloat} (hratio : ratio.Within (1 : ℕ))
    (hu : u.Within (1 : ℕ)) (seasonality : String) (day : Date) :
    (collectedAmount rt (variableScale rt ratio) seasonality day u).Within (48000 : ℕ) := by
  have hone : (PyFloat.num 1).Within (1 : ℕ) := PyFloat.Within.num (by norm_num)
  exact (within_seasonal hratio seasonality day).mul (hone.add hu (n := 2) le_rfl (by norm_num)) le_rfl
    (by norm_num)

theorem isFinite_collectedAmount {ratio u : PyFloat} (hratio : ratio.Within (1 : ℕ))
    (hu : u.Within (1 : ℕ)) (seasonality : String) (day : Date) :
    IsFinite (collectedAmount rt (variableScale rt ratio) seasonality day u) :=
  isFinite_of_within (within_collectedAmount hratio hu seasonality day)

theorem nonNeg_collectedAmount {ratio u : PyFloat} (hratio : ratio.Within (1 : ℕ))
    (hu : u.Within (1 : ℕ)) (seasonality : String) {day : Date}
    (hday : Collects (variableScale rt ratio) day) :
    (collectedAmount rt (variableScale rt ratio) seasonality day u).NonNeg := by
  have hone : (PyFloat.num 1).Within (1 : ℕ) := PyFloat.Within.num (by norm_num)
  have hscale : (variableScale rt ratio).Within (4 : ℕ) := within_variableScale hratio
  have hpos : (variableScale rt ratio).NonNeg := by
    obtain ⟨q, hq, _⟩ := hscale
    have hlt := hday.2
    rw [PyFloat.lt_of_val? (show (PyFloat.num 0).val? = some 0 from rfl) hq, decide_eq_true_eq] at hlt
    exact ⟨q, hq, hlt.le⟩
  have hscaled : (PyFloat.mul rt.fmt (.num 3000) (variableScale rt ratio)).NonNeg :=
    (PyFloat.NonNeg.num (by norm_num)).mul hpos (b := (12000 : ℕ))
      ((PyFloat.Within.num (b := (3000 : ℕ)) (by norm_num)).mul hscale le_rfl (by norm_num))
  have hseasonal := hscaled.mul (nonNeg_season_factor day seasonality) (within_seasonal hratio seasonality day)
  have hfactor : (PyFloat.add rt.fmt (.num 1) u).NonNeg := by
    have hsum : (PyFloat.add rt.fmt (.num 1) u).Within (2 : ℕ) := hone.add hu le_rfl (by norm_num)
    obtain ⟨q, hq, hqb⟩ := hu
    have hlo := (abs_le.mp hqb).1
    push_cast at hlo
    exact PyFloat.NonNeg.add rfl hq (by linarith) hsum
  exact hseasonal.mul hfactor (within_collectedAmount hratio hu seasonality day)

theorem recurringAmount_allows {ratio : PyFloat} (hratio : ratio.Within (1 : ℕ)) (hpos : ratio.NonNeg)
    {series : Series} (hseries : series ∈ RECURRING) : ∃ q,
      (recurringAmount rt (recurringScale rt ratio) series).val? = some q ∧ series.direction.Allows q := by
  obtain ⟨r, hr⟩ := isFinite_recurringAmount hratio hseries
  have htwo : (PyFloat.num 2).Within (2 : ℕ) := PyFloat.Within.num (by norm_num)
  have hscale : (recurringScale rt ratio).NonNeg :=
    (PyFloat.NonNeg.num (by norm_num)).mul hpos (b := (2 : ℕ)) (htwo.mul hratio le_rfl (by norm_num))
  obtain ⟨s, hs, hs0⟩ := hscale
  refine ⟨r, hr, ?_⟩
  simp only [recurringAmount, PyFloat.mul, PyFloat.val?_num, hs] at hr
  have hround := PyFloat.val?_eq_of_ofSigned hr
  have hsign : series.direction.Allows (series.base : ℚ) := by
    simp only [RECURRING, List.mem_cons, List.not_mem_nil, or_false] at hseries
    rcases hseries with rfl | rfl | rfl | rfl <;> norm_num [Direction.Allows]
  rw [hround]
  cases hdirection : series.direction with
  | credit =>
    rw [hdirection] at hsign
    exact rt.fmt.rnd_nonneg (mul_nonneg hsign hs0)
  | debit =>
    rw [hdirection] at hsign
    have hle := rt.fmt.rnd_mono (mul_nonpos_of_nonpos_of_nonneg hsign hs0)
    rwa [rt.fmt.rnd_zero] at hle

theorem variableScale_pos_iff {ratio : PyFloat} {q : ℚ} (hq : ratio.val? = some q) (hq0 : 0 ≤ q)
    (hq1 : q ≤ 1) (hrep : ratio.Representable rt.fmt) :
    PyFloat.lt (.num 0) (variableScale rt ratio) = true ↔ q < 1 := by
  have hsub : (PyFloat.sub rt.fmt (.num 1) ratio).val? = some (rt.fmt.rnd (1 - q)) := by
    have hsum : |1 + -q| ≤ ((1 : ℕ) : ℚ) := by
      rw [abs_le]
      constructor <;> push_cast <;> linarith
    simp only [PyFloat.sub, PyFloat.add, PyFloat.val?_num, PyFloat.val?_neg hq]
    rw [PyFloat.val?_ofSigned (rt.fmt.overflows_eq_false_of_le hsum (by norm_num)), ← sub_eq_add_neg]
  have hle : |rt.fmt.rnd (1 - q)| ≤ ((1 : ℕ) : ℚ) := by
    apply rt.fmt.abs_rnd_le
    · rw [abs_le]
      constructor <;> push_cast <;> linarith
    · norm_num
  have hscale : (variableScale rt ratio).val? = some (rt.fmt.rnd (2 * rt.fmt.rnd (1 - q))) := by
    have hmul : |2 * rt.fmt.rnd (1 - q)| ≤ ((2 : ℕ) : ℚ) := by
      rw [abs_mul, abs_two]
      push_cast at hle ⊢
      linarith
    simp only [variableScale, PyFloat.mul, PyFloat.val?_num, hsub]
    exact PyFloat.val?_ofSigned (rt.fmt.overflows_eq_false_of_le hmul (by norm_num))
  rw [PyFloat.lt_of_val? (PyFloat.val?_num 0) hscale, decide_eq_true_iff]
  constructor
  · intro hpos
    by_contra hge
    have hone : q = 1 := by linarith
    simp [hone] at hpos
  · intro hlt
    have hpos := rt.fmt.rnd_sub_pos q 1 (by rw [hrep q hq, rt.fmt.rnd_one]; exact hlt)
    rw [hrep q hq, rt.fmt.rnd_one] at hpos
    exact rt.fmt.rnd_two_mul_pos hpos (rt.fmt.rnd_idem _)

/-- The parameters under which every amount of a day is a number. -/
structure Numeric (rt : PyRuntime) (ratio noise : PyFloat) : Prop where
  ratio_within : ratio.Within (1 : ℕ)
  noise_within : PyFloat.lt (.num 0) (variableScale rt ratio) = true →
    ∃ q, noise.val? = some q ∧ 0 ≤ q ∧ q ≤ 1

theorem DayFlows.isFinite {ratio noise : PyFloat} {seasonality : String} {start : Date} {offset : ℕ}
    {flows : List SimCashFlow} (h : DayFlows rt ratio noise seasonality start offset flows)
    (hnum : Numeric rt ratio noise) : ∀ f ∈ flows, ∃ x, f.amount.1 = money x ∧ IsFinite x := by
  obtain ⟨day, recurring, collected, _, rfl, hrecurring, hcollected⟩ := h.exists_day
  intro f hf
  rcases List.mem_append.mp hf with hf | hf
  · obtain ⟨series, hseries, hamount⟩ := exists_of_mem_right hrecurring hf
    exact ⟨_, hamount, isFinite_recurringAmount hnum.ratio_within (List.mem_of_mem_filter hseries)⟩
  · cases hcollected with
    | idle _ => cases hf
    | business hday g u hu hg =>
      obtain ⟨q, hq, hq0, hq1⟩ := hnum.noise_within hday.2
      obtain ⟨r, hr, hlo, hhi⟩ := hu.1 q hq hq0
      have hwithin : u.Within (1 : ℕ) :=
        ⟨r, hr, abs_le.mpr ⟨by push_cast; linarith, by push_cast; linarith⟩⟩
      rw [List.mem_singleton.mp hf]
      exact ⟨_, hg, isFinite_collectedAmount hnum.ratio_within hwithin seasonality day⟩

theorem DayFlows.nan_of_ratio {noise : PyFloat} {seasonality : String} {start : Date} {offset : ℕ}
    {flows : List SimCashFlow} (h : DayFlows rt .nan noise seasonality start offset flows)
    (hday : ∀ e, start.shift offset = some e → e.day = 3) :
    ∃ f ∈ flows, f.amount.1 = money .nan := by
  obtain ⟨day, recurring, collected, hshift, rfl, hrecurring, _⟩ := h.exists_day
  have hrent : (⟨"rent", 3, -8500, .debit, "Foncière Simulée", "rent"⟩ : Series) ∈
      RECURRING.filter fun series => day.day = series.dom := by
    simp [RECURRING, hday day hshift]
  obtain ⟨f, hf, hamount⟩ := exists_of_mem_left hrecurring hrent
  refine ⟨f, List.mem_append_left _ hf, ?_⟩
  rw [hamount, recurringAmount, recurringScale, PyFloat.mul_nan_right, PyFloat.mul_nan_right]

theorem DayFlows.nan_of_noise {ratio : PyFloat} {seasonality : String} {start : Date} {offset : ℕ}
    {flows : List SimCashFlow} (h : DayFlows rt ratio .nan seasonality start offset flows)
    (hday : ∀ e, start.shift offset = some e → e.weekday < 5)
    (hpos : PyFloat.lt (.num 0) (variableScale rt ratio) = true) :
    ∃ f ∈ flows, f.amount.1 = money .nan := by
  obtain ⟨day, recurring, collected, hshift, rfl, _, hcollected⟩ := h.exists_day
  cases hcollected with
  | idle hidle => exact absurd ⟨hday day hshift, hpos⟩ hidle
  | business _ f u hu hf =>
    refine ⟨f, List.mem_append_right _ (List.mem_singleton_self f), ?_⟩
    rw [hf, hu.2 rfl, collectedAmount, PyFloat.add_nan_right, PyFloat.mul_nan_right]

theorem schema_nodup (rt : PyRuntime) : ((param_schema rt).map ParamSpec.name).Nodup := by
  simp [param_schema, ParamSpec.int, ParamSpec.float, ParamSpec.enum]

theorem schema_wellFormed (rt : PyRuntime) : ∀ spec ∈ param_schema rt, WellFormed spec := by
  simp only [param_schema, List.forall_mem_cons, List.not_mem_nil, IsEmpty.forall_iff, implies_true,
    and_true]
  refine ⟨.int (by norm_num) (by norm_num), .int (by norm_num) (by norm_num), .enum (by simp), ?_, ?_⟩
  · exact wellFormed_float rt (n := 1) (by norm_num) (by norm_num) (by norm_num) (by norm_num) (by norm_num)
  · exact wellFormed_float rt (n := 1) (by norm_num) (by norm_num) (by norm_num) (by norm_num) (by norm_num)

/-- The ratio that a request supplies, or its default. -/
def suppliedRatio (rt : PyRuntime) (params : Params) : PyFloat :=
  suppliedFloat rt.fmt params "recurring_ratio" (rt.lit (6 / 10))

def suppliedNoise (rt : PyRuntime) (params : Params) : PyFloat :=
  suppliedFloat rt.fmt params "noise" (rt.lit (1 / 10))

/-- What a coerced share is: NaN exactly when the supplied one is, else in the unit interval,
and one exactly when the supplied one is at least one. -/
theorem coerced_share {name : String} {d x y : PyFloat}
    (h : clamp (.float y) (.float name d (rt.lit 0) (rt.lit 1)) = .float x) :
    (y = .nan ∧ x = .nan) ∨ (y ≠ .nan ∧ ∃ q, x.val? = some q ∧ 0 ≤ q ∧ q ≤ 1 ∧
      (1 ≤ q ↔ PyFloat.le (.num 1) y = true)) := by
  rw [lit_zero, lit_one] at h
  by_cases hy : y = .nan
  · subst hy
    rw [clamp_nan] at h
    cases h
    exact Or.inl ⟨rfl, rfl⟩
  · obtain ⟨z, hz, hle, hge⟩ := clamp_float name d (PyFloat.val?_num 0) (PyFloat.val?_num 1)
      (by norm_num) hy
    cases hz.symm.trans h
    obtain ⟨q, hq, hq0, hq1⟩ := val?_of_le (PyFloat.val?_num 0) (PyFloat.val?_num 1) hle hge
    exact Or.inr ⟨hy, q, hq, hq0, hq1,
      clamp_eq_hi_iff name d (PyFloat.val?_num 0) (PyFloat.val?_num 1) (by norm_num) h hq⟩

theorem coerced_representable {name : String} {d x y : PyFloat} (hy : y.Representable rt.fmt)
    (h : clamp (.float y) (.float name d (rt.lit 0) (rt.lit 1)) = .float x) :
    x.Representable rt.fmt := by
  rcases clamp_mem name d y (rt.lit 0) (rt.lit 1) with hc | hc | hc
  · cases h.symm.trans hc
    exact hy
  · cases h.symm.trans hc
    exact PyFloat.ofSigned_representable _ _
  · cases h.symm.trans hc
    exact PyFloat.ofSigned_representable _ _

/-- The supplied parameters under which every amount is a number. -/
def NumericParams (rt : PyRuntime) (params : Params) : Prop :=
  suppliedRatio rt params ≠ .nan ∧
    (suppliedNoise rt params ≠ .nan ∨ PyFloat.le (.num 1) (suppliedRatio rt params) = true)

section Supplied

variable {params p : Params} {ratio noise : PyFloat}
  (hp : coerce_params rt.fmt (param_schema rt) params = .ok p)

include hp

theorem clamped_ratio (hratio : paramFloat p "recurring_ratio" = .ok ratio) :
    clamp (.float (suppliedRatio rt params))
      (.float "recurring_ratio" (rt.lit (6 / 10)) (rt.lit 0) (rt.lit 1)) = .float ratio :=
  paramFloat_clamped (schema_nodup rt) hp (by simp [param_schema])
    (val?_lit (n := 1) (by norm_num) (by norm_num))
    (val?_lit (n := 1) (by norm_num [abs_le]) (by norm_num))
    (val?_lit (n := 1) (by norm_num) (by norm_num)) (rt.fmt.rnd_mono (by norm_num))
    (rt.fmt.rnd_mono (by norm_num)) hratio

theorem clamped_noise (hnoise : paramFloat p "noise" = .ok noise) :
    clamp (.float (suppliedNoise rt params))
      (.float "noise" (rt.lit (1 / 10)) (rt.lit 0) (rt.lit 1)) = .float noise :=
  paramFloat_clamped (schema_nodup rt) hp (by simp [param_schema])
    (val?_lit (n := 1) (by norm_num) (by norm_num))
    (val?_lit (n := 1) (by norm_num [abs_le]) (by norm_num))
    (val?_lit (n := 1) (by norm_num) (by norm_num)) (rt.fmt.rnd_mono (by norm_num))
    (rt.fmt.rnd_mono (by norm_num)) hnoise

theorem ratio_representable (hratio : paramFloat p "recurring_ratio" = .ok ratio) :
    ratio.Representable rt.fmt :=
  coerced_representable (suppliedFloat_representable rt.fmt params
    (PyFloat.ofSigned_representable _ _)) (clamped_ratio hp hratio)

variable (hratio : paramFloat p "recurring_ratio" = .ok ratio)
  (hnoise : paramFloat p "noise" = .ok noise)

include hratio hnoise

theorem numeric_of_params (h : NumericParams rt params) : Numeric rt ratio noise := by
  rcases coerced_share (clamped_ratio hp hratio) with ⟨hnan, _⟩ | ⟨_, q, hq, hq0, hq1, hone⟩
  · exact absurd hnan h.1
  · refine ⟨⟨q, hq, abs_le.mpr ⟨by push_cast; linarith, by exact_mod_cast hq1⟩⟩, ?_⟩
    intro hpos
    have hlt := (variableScale_pos_iff hq hq0 hq1 (ratio_representable hp hratio)).mp hpos
    have hnoisy : suppliedNoise rt params ≠ .nan := by
      rcases h.2 with hnoisy | hfull
      · exact hnoisy
      · exact absurd (hone.mpr hfull) (not_le.mpr hlt)
    rcases coerced_share (clamped_noise hp hnoise) with ⟨hnan, _⟩ | ⟨_, r, hr, hr0, hr1, _⟩
    · exact absurd hnan hnoisy
    · exact ⟨r, hr, hr0, hr1⟩

theorem nan_of_params (h : ¬NumericParams rt params) :
    ratio = .nan ∨ noise = .nan ∧ PyFloat.lt (.num 0) (variableScale rt ratio) = true := by
  rcases coerced_share (clamped_ratio hp hratio) with ⟨_, hnan⟩ | ⟨hsupplied, q, hq, hq0, hq1, hone⟩
  · exact Or.inl hnan
  · rw [NumericParams, not_and, not_or, not_not] at h
    obtain ⟨hnoisy, hbelow⟩ := h hsupplied
    refine Or.inr ⟨?_, ?_⟩
    · rcases coerced_share (clamped_noise hp hnoise) with ⟨_, hnan⟩ | ⟨hne, _⟩
      · exact hnan
      · exact absurd hnoisy hne
    · rw [variableScale_pos_iff hq hq0 hq1 (ratio_representable hp hratio)]
      exact not_le.mp fun hle => hbelow (hone.mp hle)

end Supplied

theorem History.exists_nan {params p : Params} {b : GeneratedBatch} (h : History rt p b)
    (hp : coerce_params rt.fmt (param_schema rt) params = .ok p) (hnan : ¬NumericParams rt params) :
    ∃ f : SimCashFlow, f.record ∈ b.records ∧ f.amount.1 = money .nan := by
  obtain ⟨days, ratio, noise, seasonality, start, accounts, flows, hdays, hratio, hnoise, _, hflows,
    hrecords⟩ := h.exists_days
  have hspec : .int "days" 120 90 730 ∈ param_schema rt := by simp [param_schema]
  have hbound := paramInt_bounds (schema_nodup rt) (schema_wellFormed rt) hp hspec hdays
  have hday : ∃ n < 90, ∀ fs, DayFlows rt ratio noise seasonality start n fs →
      ∃ f ∈ fs, f.amount.1 = money .nan := by
    rcases nan_of_params hp hratio hnoise hnan with rfl | ⟨rfl, hpos⟩
    · obtain ⟨n, hn, hthird⟩ := Date.exists_addDays_day start (k := 3) (by norm_num)
      exact ⟨n, by omega, fun fs hfs => hfs.nan_of_ratio hthird⟩
    · obtain ⟨n, hn, hbusiness⟩ := Date.exists_addDays_business start
      exact ⟨n, by omega, fun fs hfs => hfs.nan_of_noise hbusiness hpos⟩
  obtain ⟨n, hn, hspec⟩ := hday
  obtain ⟨fs, hfs, hday⟩ := exists_of_mem_left hflows (List.mem_range.mpr (show n < days.toNat by omega))
  obtain ⟨f, hf, hamount⟩ := hspec fs hday
  refine ⟨f, ?_, hamount⟩
  rw [hrecords]
  exact List.mem_append_right _ (List.mem_map_of_mem (List.mem_flatten_of_mem hfs hf))

theorem History.fabricated {params p : Params} {b : GeneratedBatch} (h : History rt p b)
    (hp : coerce_params rt.fmt (param_schema rt) params = .ok p) (hnum : NumericParams rt params) :
    ∀ r ∈ b.records, Fabricated IsFinite r := by
  obtain ⟨days, ratio, noise, seasonality, start, accounts, flows, _, hratio, hnoise, haccounts,
    hflows, hrecords⟩ := h.exists_days
  intro r hr
  rw [hrecords] at hr
  rcases List.mem_append.mp hr with hr | hr
  · obtain ⟨a, ha, rfl⟩ := List.mem_map.mp hr
    obtain ⟨x, hx, hfin⟩ := haccounts a ha
    exact .bank_account a x hx hfin
  · obtain ⟨f, hf, rfl⟩ := List.mem_map.mp hr
    obtain ⟨fs, hfs, hmem⟩ := List.mem_flatten.mp hf
    obtain ⟨n, _, hday⟩ := exists_of_mem_right hflows hfs
    obtain ⟨x, hx, hfin⟩ := hday.isFinite (numeric_of_params hp hratio hnoise hnum) f hmem
    exact .cash_flow f x hx hfin

/-- The flow of a series or of a collection, on the day at an offset. -/
structure Scheduled (rt : PyRuntime) (ratio noise : PyFloat) (seasonality : String)
    (accounts : List SimBankAccount) (start : Date) (offset : ℕ) (f : SimCashFlow) : Prop where
  account_iban : ∃ a ∈ accounts, f.account_iban.1 = a.iban.1
  currency : f.currency.1 = "EUR"
  value_date : start.shift offset = some f.value_date
  booked_at : f.booked_at = none
  amount : (∃ series ∈ RECURRING, f.direction = series.direction ∧
      f.amount.1 = money (recurringAmount rt (recurringScale rt ratio) series)) ∨
    Collects (variableScale rt ratio) f.value_date ∧ f.direction = .credit ∧ ∃ u, Jitter noise u ∧
      f.amount.1 = money (collectedAmount rt (variableScale rt ratio) seasonality f.value_date u)

theorem ensures_dayFlows_scheduled {main : SimBankAccount} {accounts : List SimBankAccount}
    (hmain : main ∈ accounts) (ratio noise : PyFloat) (seasonality : String) (start : Date) (offset : ℕ) :
    Ensures (dayFlows main accounts (recurringScale rt ratio) (variableScale rt ratio) noise seasonality
      start offset : Gen rt (List SimCashFlow)) fun flows =>
        ∀ f ∈ flows, Scheduled rt ratio noise seasonality accounts start offset f := by
  refine (PyRuntime.ensures_shiftDate start offset).bind fun day hday => ?_
  have hrecurring : ∀ series ∈ RECURRING.filter fun series => day.day = series.dom,
      Ensures (recurringFlow main (recurringScale rt ratio) day series : Gen rt SimCashFlow) fun f =>
        Scheduled rt ratio noise seasonality accounts start offset f := by
    intro series hseries
    refine Ensures.fromExcept fun f hf => ?_
    obtain ⟨_, _, _, rfl⟩ := SimCashFlow.create_eq hf
    exact {
      account_iban := ⟨main, hmain, rfl⟩
      currency := rfl
      value_date := hday
      booked_at := rfl
      amount := Or.inl ⟨series, List.mem_of_mem_filter hseries, rfl, rfl⟩ }
  refine (Ensures.mapM hrecurring).bind fun recurring hrec => ?_
  have hcollections : Ensures (collections accounts (variableScale rt ratio) noise seasonality day offset :
      Gen rt (List SimCashFlow)) fun flows =>
        ∀ f ∈ flows, Scheduled rt ratio noise seasonality accounts start offset f := by
    unfold collections
    split_ifs with hcollects
    · refine Ensures.bind (Ensures.fromExcept fun _ h => cycled_eq_ok.mp h) fun account haccount => ?_
      refine (ensures_jitter noise).bind fun u hu => ?_
      refine Ensures.bind (Ensures.fromExcept fun f hf => SimCashFlow.create_eq hf) fun f hf => ?_
      obtain ⟨_, _, _, rfl⟩ := hf
      refine Ensures.pure fun f hf => ?_
      rw [List.mem_singleton.mp hf]
      exact {
        account_iban := ⟨account, List.mem_of_getElem? haccount, rfl⟩
        currency := rfl
        value_date := hday
        booked_at := rfl
        amount := Or.inr ⟨hcollects, rfl, u, hu, rfl⟩ }
    · exact Ensures.pure (by simp)
  refine hcollections.bind fun collected hcol => Ensures.pure fun f hf => ?_
  rcases List.mem_append.mp hf with hf | hf
  · obtain ⟨_, _, hscheduled⟩ := exists_of_mem_right hrec hf
    exact hscheduled
  · exact hcol f hf

/-- The batch of coerced parameters: accounts in euros, then the flows of the days up to today. -/
structure Schedule (rt : PyRuntime) (p : Params) (today : Date) (b : GeneratedBatch) : Prop where
  exists_flows : ∃ days ratio noise seasonality start, ∃ (accounts : List SimBankAccount)
    (flows : List SimCashFlow),
    paramInt p "days" = .ok days ∧ paramFloat p "recurring_ratio" = .ok ratio ∧
    paramFloat p "noise" = .ok noise ∧ today.shift (-(days - 1)) = some start ∧ accounts ≠ [] ∧
    (∀ a ∈ accounts, a.currency.1 = "EUR" ∧ ∃ x, a.balance.1 = money x ∧ IsFinite x) ∧
    (∀ f ∈ flows, ∃ offset < days.toNat, Scheduled rt ratio noise seasonality accounts start offset f) ∧
    b.records = accounts.map SimBankAccount.record ++ flows.map SimCashFlow.record

theorem ensures_schedule (p : Params) (target_label : String) (today : Date) :
    Ensures (batch p target_label today : Gen rt GeneratedBatch) (Schedule rt p today) := by
  refine Ensures.bind (Ensures.fromExcept fun _ h => h) fun days hdays => ?_
  refine Ensures.bind' fun n_accounts => Ensures.bind' fun seasonality => ?_
  refine Ensures.bind (Ensures.fromExcept fun _ h => h) fun ratio hratio => ?_
  refine Ensures.bind (Ensures.fromExcept fun _ h => h) fun noise hnoise => ?_
  have haccount : ∀ i, Ensures (accountAt target_label i : Gen rt SimBankAccount) fun a =>
      a.currency.1 = "EUR" ∧ ∃ x, a.balance.1 = money x ∧ IsFinite x := by
    intro i
    refine Ensures.bind' fun iban => ?_
    refine (ensures_uniformInt (n := 400000) (by norm_num) (by norm_num)).bind fun x hx => ?_
    refine Ensures.fromExcept fun a ha => ?_
    obtain ⟨_, _, hcurrency, _, hbalance⟩ := SimBankAccount.create_ok ha
    exact ⟨hcurrency, x, hbalance, isFinite_of_within hx⟩
  refine (Ensures.mapM fun i _ => haccount i).bind fun accounts haccounts => ?_
  refine (PyRuntime.ensures_shiftDate today _).bind fun start hstart => ?_
  have hfirst : ∀ main, firstAccount accounts = .ok main → main ∈ accounts := by
    intro main h
    cases accounts with
    | nil => cases h
    | cons a rest =>
      cases h
      exact List.mem_cons_self
  refine Ensures.bind (Ensures.fromExcept hfirst) fun main hmain => ?_
  refine (Ensures.mapM fun offset _ => ensures_dayFlows_scheduled hmain ratio noise seasonality start
    offset).bind fun flows hflows => ?_
  refine Ensures.pure ⟨days, ratio, noise, seasonality, start, accounts, flows.flatten, hdays, hratio,
    hnoise, hstart, List.ne_nil_of_mem hmain, ?_, ?_, rfl⟩
  · intro a ha
    obtain ⟨i, _, h⟩ := exists_of_mem_right haccounts ha
    exact h
  · intro f hf
    obtain ⟨row, hrow, hf⟩ := List.mem_flatten.mp hf
    obtain ⟨offset, hoffset, hall⟩ := exists_of_mem_right hflows hrow
    exact ⟨offset, List.mem_range.mp hoffset, hall f hf⟩

theorem generate_schedule {params : Params} {seed : ℤ} {target_label : String} {today : Date}
    {b : GeneratedBatch} (h : generate rt params seed target_label today = .ok b) :
    ∃ p, coerce_params rt.fmt (param_schema rt) params = .ok p ∧ Schedule rt p today b :=
  generateWith_ensures (P := fun b => ∃ p, coerce_params rt.fmt (param_schema rt) params = .ok p ∧
      Schedule rt p today b)
    (fun p hp => (ensures_schedule p target_label today).mono fun _ hb => ⟨p, hp, hb⟩) h

/-- The ratio and the noise of parameters within the schema. -/
structure Shares (ratio noise : PyFloat) : Prop where
  ratio : ∃ q, ratio.val? = some q ∧ 0 ≤ q ∧ q ≤ 1
  noise : ∃ q, noise.val? = some q ∧ 0 ≤ q ∧ q ≤ 1

theorem shares_of_respects {p : Params} {ratio noise : PyFloat} (h : Respects (param_schema rt) p)
    (hratio : paramFloat p "recurring_ratio" = .ok ratio) (hnoise : paramFloat p "noise" = .ok noise) :
    Shares ratio noise := by
  have hzero : (rt.lit 0).val? = some 0 := by simp [lit_zero]
  have hone : (rt.lit 1).val? = some 1 := by simp [lit_one]
  have hspec : .float "recurring_ratio" (rt.lit (6 / 10)) (rt.lit 0) (rt.lit 1) ∈ param_schema rt := by
    simp [param_schema]
  have hspec' : .float "noise" (rt.lit (1 / 10)) (rt.lit 0) (rt.lit 1) ∈ param_schema rt := by
    simp [param_schema]
  exact ⟨paramFloat_bounds h hspec hzero hone hratio, paramFloat_bounds h hspec' hzero hone hnoise⟩

theorem Scheduled.posted {ratio noise : PyFloat} {seasonality : String} {accounts : List SimBankAccount}
    {today start : Date} {days : ℤ} {offset : ℕ} {f : SimCashFlow}
    (h : Scheduled rt ratio noise seasonality accounts start offset f) (hshares : Shares ratio noise)
    (heuro : ∀ a ∈ accounts, a.currency.1 = "EUR") (hstart : today.shift (-(days - 1)) = some start)
    (hoffset : offset < days.toNat) : ∃ a ∈ accounts, Posted today days a f := by
  obtain ⟨a, ha, hiban⟩ := h.account_iban
  obtain ⟨q, hq, hq0, hq1⟩ := hshares.ratio
  have hratio : ratio.Within (1 : ℕ) := ⟨q, hq, abs_le.mpr ⟨by push_cast; linarith, by exact_mod_cast hq1⟩⟩
  refine ⟨a, ha, hiban, h.currency.trans (heuro a ha).symm, ?_, ?_, by simp [h.booked_at]⟩
  · rcases h.amount with ⟨series, hseries, hdirection, hamount⟩ | ⟨hcollects, hdirection, u, hu, hamount⟩
    · obtain ⟨r, hr, hallows⟩ := recurringAmount_allows hratio ⟨q, hq, hq0⟩ hseries
      exact ⟨_, r, hamount, hr, hdirection ▸ hallows⟩
    · obtain ⟨n, hn, hn0, hn1⟩ := hshares.noise
      obtain ⟨r, hr, hlo, hhi⟩ := hu.1 n hn hn0
      have hwithin : u.Within (1 : ℕ) :=
        ⟨r, hr, abs_le.mpr ⟨by push_cast; linarith, by push_cast; linarith⟩⟩
      obtain ⟨v, hv, hv0⟩ := nonNeg_collectedAmount hratio hwithin seasonality hcollects
      rw [hdirection]
      exact ⟨_, v, hamount, hv, hv0⟩
  · have hback := Date.shift_toOrdinal hstart
    have hforth := Date.shift_toOrdinal h.value_date
    exact ⟨by omega, by omega⟩

theorem generate_ledger {params : Params} {seed : ℤ} {target_label : String} {today : Date}
    {b : GeneratedBatch} {p : Params} (hp : coerce_params rt.fmt (param_schema rt) params = .ok p)
    (hvalid : Respects (param_schema rt) p) (h : generate rt params seed target_label today = .ok b) :
    ∃ days, paramInt p "days" = .ok days ∧ Ledger today days b.records := by
  obtain ⟨p', hp', hschedule⟩ := generate_schedule h
  cases hp.symm.trans hp'
  obtain ⟨days, ratio, noise, seasonality, start, accounts, flows, hdays, hratio, hnoise, hstart, _,
    haccounts, hflows, hrecords⟩ := hschedule.exists_flows
  refine ⟨days, hdays, ?_⟩
  rw [hrecords]
  apply ledger_of_accounts (fun a ha => (haccounts a ha).2)
  intro f hf
  obtain ⟨offset, hoffset, hscheduled⟩ := hflows f hf
  exact hscheduled.posted (shares_of_respects hvalid hratio hnoise) (fun a ha => (haccounts a ha).1) hstart
    hoffset

theorem generate_typed {params : Params} {seed : ℤ} {target_label : String} {today : Date}
    {b : GeneratedBatch} (h : generate rt params seed target_label today = .ok b) :
    ∀ r ∈ b.records, Typed r := by
  have hb : ∃ p, History rt p b := generateWith_ensures (P := fun b => ∃ p, History rt p b)
    (fun p _ => (ensures_batch p target_label today).mono fun _ hb => ⟨p, hb⟩) h
  obtain ⟨p, hb⟩ := hb
  obtain ⟨_, _, _, _, _, accounts, flows, _, _, _, _, _, hrecords⟩ := hb.exists_days
  intro r hr
  rw [hrecords] at hr
  rcases List.mem_append.mp hr with hr | hr
  · obtain ⟨a, _, rfl⟩ := List.mem_map.mp hr
    exact a.typed
  · obtain ⟨f, _, rfl⟩ := List.mem_map.mp hr
    exact f.typed

theorem generate_fabricated {params : Params} {seed : ℤ} {target_label : String} {today : Date}
    {b : GeneratedBatch} (h : generate rt params seed target_label today = .ok b)
    (hnum : NumericParams rt params) : ∀ r ∈ b.records, Fabricated IsFinite r :=
  generateWith_ensures (fun p hp => (ensures_batch p target_label today).mono
    fun _ hb => hb.fabricated hp hnum) h

theorem generate_nan {params : Params} {seed : ℤ} {target_label : String} {today : Date}
    {b : GeneratedBatch} (h : generate rt params seed target_label today = .ok b)
    (hnan : ¬NumericParams rt params) :
    ∃ f : SimCashFlow, f.record ∈ b.records ∧ f.amount.1 = money .nan :=
  generateWith_ensures (P := fun b => ∃ f : SimCashFlow, f.record ∈ b.records ∧ f.amount.1 = money .nan)
    (fun p hp => (ensures_batch p target_label today).mono fun _ hb => hb.exists_nan hp hnan) h

end FinhubForecasting
end AtlasConnectors
