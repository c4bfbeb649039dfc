import AtlasConnectors.CheckedDispatch
import AtlasConnectors.Returning

/-! Generation runs to its end: which requests every preset turns into a batch, whatever is
drawn, and what the others raise. -/
namespace AtlasConnectors

open Raising

namespace PyRuntime

variable {rt : PyRuntime} {α : Type}

theorem returns_draw (f : rt.State → α × rt.State) : Returns (draw f) := fun _ => ⟨_, _, rfl⟩

theorem returns_randint (lo hi : ℤ) : Returns (randint lo hi : Gen rt ℤ) := returns_draw _

theorem returns_uniform (a b : PyFloat) : Returns (uniform a b : Gen rt PyFloat) := returns_draw _

theorem returns_choice {xs : List α} (h : xs ≠ []) : Returns (choice xs : Gen rt α) := by
  have hindex : Ensures (draw (rt.drawIndex xs.length) : Gen rt ℕ) fun i => i < xs.length :=
    ensures_draw fun s => rt.choice_range _ s (List.length_pos_iff.mpr h)
  refine (returns_draw _).bind hindex fun i hi => ?_
  rw [List.getElem?_eq_getElem hi]
  exact Returns.pure _

theorem returns_shiftDate {d : Date} {k : ℤ} (hlo : 1 ≤ d.toOrdinal + k)
    (hhi : d.toOrdinal + k ≤ Date.lastOrdinal) : Returns (shiftDate d k : Gen rt Date) := by
  obtain ⟨e, he⟩ := Date.exists_shift hlo hhi
  rw [shiftDate, he]
  exact Returns.pure e

theorem returns_datetime (d : Date) {hour minute : ℤ} (hh : 0 ≤ hour ∧ hour < 24)
    (hm : 0 ≤ minute ∧ minute < 60) : Returns (datetime d hour minute : Gen rt DateTime) := by
  obtain ⟨t, ht⟩ := DateTime.exists_at? d hh hm
  rw [datetime, ht]
  exact Returns.pure t

theorem returns_addSeconds {t : DateTime} {n : ℕ} (h : t.secondOfDay + n < 86400) :
    Returns (addSeconds t n : Gen rt DateTime) := by
  obtain ⟨u, hu⟩ := DateTime.exists_addSeconds h
  rw [addSeconds, hu]
  exact Returns.pure u

end PyRuntime

variable {rt : PyRuntime}

open PyRuntime

theorem digit_inRange {d : ℤ} (h : 0 ≤ d ∧ d ≤ 9) :
    ∃ c, (NumberText.intText d).toList = [c] ∧ inRange '0' '9' c = true := by
  obtain ⟨hlo, hhi⟩ := h
  interval_cases d <;> exact ⟨_, rfl, rfl⟩

theorem digits_inRange {ds : List ℤ} (h : ∀ d ∈ ds, 0 ≤ d ∧ d ≤ 9) :
    (String.join (ds.map NumberText.intText)).toList.length = ds.length ∧
      ∀ c ∈ (String.join (ds.map NumberText.intText)).toList, inRange '0' '9' c = true := by
  induction ds with
  | nil => exact ⟨rfl, by simp⟩
  | cons d ds ih =>
    obtain ⟨c, hc, hrange⟩ := digit_inRange (h d List.mem_cons_self)
    obtain ⟨hlength, hall⟩ := ih fun d' hd' => h d' (List.mem_cons_of_mem d hd')
    have htext : (String.join ((d :: ds).map NumberText.intText)).toList =
        c :: (String.join (ds.map NumberText.intText)).toList := by
      simp [hc]
    rw [htext]
    exact ⟨by rw [List.length_cons, hlength, List.length_cons], List.forall_mem_cons.mpr ⟨hrange, hall⟩⟩

theorem ensures_test_iban : Ensures (test_iban : Gen rt String) fun s => ibanPattern s = true := by
  refine (Ensures.mapM fun _ _ => ensures_randint (by norm_num)).bind fun ds hds => Ensures.pure ?_
  have hrange : ∀ d ∈ ds, 0 ≤ d ∧ d ≤ 9 := by
    intro d hd
    obtain ⟨_, _, h⟩ := exists_of_mem_right hds hd
    exact h
  obtain ⟨hlength, hall⟩ := digits_inRange hrange
  have hds18 : ds.length = 18 := by rw [← hds.length_eq, List.length_range]
  rw [hds18] at hlength
  have htext : ("FR7699999" ++ String.join (ds.map NumberText.intText)).toList =
      "FR".toList ++ ("7699999".toList ++ (String.join (ds.map NumberText.intText)).toList) := by
    simp
  have hfixed : ∀ c ∈ "7699999".toList, (inRange '0' '9' c || inRange 'A' 'Z' c) = true :=
    List.all_eq_true.mp rfl
  have hdigits : ∀ c ∈ "7699999".toList ++ (String.join (ds.map NumberText.intText)).toList,
      (inRange '0' '9' c || inRange 'A' 'Z' c) = true := by
    intro c hc
    rcases List.mem_append.mp hc with hc | hc
    · exact hfixed c hc
    · rw [hall c hc, Bool.true_or]
  have hsize : ("FR".toList ++ ("7699999".toList ++
      (String.join (ds.map NumberText.intText)).toList)).length = 27 := by
    rw [List.length_append, List.length_append, hlength]
    rfl
  simp only [ibanPattern, htext, hsize]
  simp only [List.take_left' (show "FR".toList.length = 2 from rfl),
    List.drop_left' (show "FR".toList.length = 2 from rfl), List.all_eq_true.mpr hdigits]
  decide

theorem returns_test_iban : Returns (test_iban : Gen rt String) :=
  (Returns.mapM fun _ _ => returns_randint 0 9).bind' fun _ => Returns.pure _

theorem checkDecimal_money (loc : String) (x : PyFloat) : ∃ t, checkDecimal loc (money x) = .ok t := by
  have hkind : (NumberText.decimalKind (money x)).isSome = true := by
    rw [money, NumberText.decimalKind_fixed2]
    cases x <;> rfl
  have hdecimal := require_decimal_signed hkind
  unfold checkDecimal
  split
  · exact ⟨_, rfl⟩
  · rename_i h
    rw [hdecimal] at h
    cases h
  · rename_i h
    rw [hdecimal] at h
    cases h

theorem SimBankAccount.exists_create {iban currency : String} (hiban : ibanPattern iban = true)
    (hcurrency : currencyPattern currency = true) (label entity : String) (x : PyFloat) :
    ∃ a, SimBankAccount.create iban label currency entity (money x) = .ok a := by
  obtain ⟨t, ht⟩ := checkDecimal_money "balance" x
  simp only [SimBankAccount.create, checkIban, hiban, checkCurrency, hcurrency, ht, dif_pos]
  exact ⟨_, rfl⟩

theorem SimCashFlow.exists_create (iban : Iban) {currency : String}
    (hcurrency : currencyPattern currency = true) (x : PyFloat) (value_date : Date)
    (booked_at : Option DateTime) (direction : Direction) (counterparty label : String)
    (ref category_hint : Option String) : ∃ f, SimCashFlow.create iban (money x) currency value_date
      booked_at direction counterparty label ref category_hint = .ok f := by
  obtain ⟨t, ht⟩ := checkDecimal_money "amount" x
  simp only [SimCashFlow.create, checkIban, iban.2, checkCurrency, hcurrency, ht, dif_pos]
  exact ⟨_, rfl⟩

theorem SimErpEntry.exists_create {currency : String} (hcurrency : currencyPattern currency = true)
    (ref : String) (x : PyFloat) (entry_date : Date) (label : String) (matches_iban : Option String) :
    ∃ e, SimErpEntry.create ref (money x) currency entry_date label matches_iban = .ok e := by
  obtain ⟨t, ht⟩ := checkDecimal_money "amount" x
  simp only [SimErpEntry.create, checkCurrency, hcurrency, ht, dif_pos]
  exact ⟨_, rfl⟩

theorem currencyPattern_euro : currencyPattern "EUR" = true := by decide

section Reading

variable {fmt : FloatFormat} {schema : List ParamSpec} {params p : Params} {name : String}
  (hnodup : (schema.map ParamSpec.name).Nodup) (hwf : ∀ spec ∈ schema, WellFormed spec)
  (hp : coerce_params fmt schema params = .ok p)

include hnodup hwf hp

theorem exists_paramInt {d lo hi : ℤ} (hspec : .int name d lo hi ∈ schema) :
    ∃ n, paramInt p name = .ok n := by
  obtain ⟨v, hlook, n, rfl, _⟩ := coerced_valid hnodup hwf hp hspec (by simp [ParamSpec.int])
  exact ⟨n, by rw [paramInt, show p.lookup name = _ from hlook]⟩

theorem exists_paramWindow {d : String} {lo hi : ℤ} (hspec : .window name d lo hi ∈ schema) :
    ∃ n, paramInt p name = .ok n := by
  obtain ⟨v, hlook, n, rfl, _⟩ := coerced_valid hnodup hwf hp hspec (by simp [ParamSpec.window])
  exact ⟨n, by rw [paramInt, show p.lookup name = _ from hlook]⟩

theorem exists_paramFloat {d lo hi : PyFloat} (hspec : .float name d lo hi ∈ schema) :
    ∃ x, paramFloat p name = .ok x := by
  rcases coerced_cases hnodup hwf hp hspec with ⟨v, hlook, ⟨x, rfl, _⟩, _⟩ | ⟨_, hlook, _⟩
  · exact ⟨x, by rw [paramFloat, show p.lookup name = _ from hlook]⟩
  · exact ⟨.nan, by rw [paramFloat, show p.lookup name = _ from hlook]⟩

theorem exists_paramText {d : String} {options : List String} (hspec : .enum name d options ∈ schema) :
    ∃ s, paramText p name = .ok s := by
  obtain ⟨v, hlook, _, s, _, _, rfl⟩ := coerced_valid hnodup hwf hp hspec (by simp [ParamSpec.enum])
  exact ⟨s, by rw [paramText, show p.lookup name = _ from hlook]⟩

theorem exists_paramTexts {ds options : List String} (hspec : .multi name ds options ∈ schema) :
    ∃ ss, paramTexts p name = .ok ss := by
  obtain ⟨v, hlook, _, ss, _, _, _, rfl⟩ := coerced_valid hnodup hwf hp hspec (by simp [ParamSpec.multi])
  exact ⟨_, by rw [paramTexts, show p.lookup name = _ from hlook]⟩

end Reading

theorem exists_cycled {α : Type} {xs : List α} (h : xs ≠ []) (i : ℕ) : ∃ x, cycled xs i = .ok x := by
  have hlt : i % xs.length < xs.length := Nat.mod_lt i (List.length_pos_iff.mpr h)
  exact ⟨xs[i % xs.length], cycled_eq_ok.mpr (List.getElem?_eq_getElem hlt)⟩

theorem cycled_mem {α : Type} {xs : List α} {i : ℕ} {x : α} (h : cycled xs i = .ok x) : x ∈ xs :=
  List.mem_of_getElem? (cycled_eq_ok.mp h)

theorem returns_signedAmount (lo hi : ℤ) (p : ℚ) : Returns (signedAmount lo hi p : Gen rt PyFloat) :=
  (returns_uniform _ _).bind' fun _ => (returns_draw _).bind' fun _ => Returns.pure _

theorem COUNTERPARTIES_ne_nil : COUNTERPARTIES ≠ [] := List.cons_ne_nil _ _

/-- A date with room for the days that generators look back and ahead. -/
structure HasRoom (today : Date) : Prop where
  past : 730 ≤ today.toOrdinal
  future : today.toOrdinal + 3 ≤ Date.lastOrdinal

theorem HasRoom.returns_shift_back {today : Date} (h : HasRoom today) {days : ℤ} (hdays : 0 ≤ days)
    (hlt : days < 730) : Returns (shiftDate today (-days) : Gen rt Date) := by
  have hpast := h.past
  have hfuture := h.future
  exact returns_shiftDate (by omega) (by omega)

theorem HasRoom.returns_day {today : Date} (h : HasRoom today) {lo hi : ℤ} (hlo : 0 ≤ lo) (hle : lo ≤ hi)
    (hhi : hi < 730) {β : Type} {f : Date → Gen rt β} (hf : ∀ day, Recent today 730 day → Returns (f day)) :
    Returns (randint lo hi >>= fun days => shiftDate today (-days) >>= f) := by
  refine (returns_randint _ _).bind (ensures_randint hle) fun days hrange => ?_
  refine (h.returns_shift_back (by omega) (by omega)).bind (ensures_shiftDate _ _) fun day hday => ?_
  exact hf day (recent_of_shift hday (by omega) (by omega))

theorem returns_openEuro (label entity : String) (lo hi : ℤ) {β : Type} {f : SimBankAccount → Gen rt β}
    (hf : ∀ a : SimBankAccount, a.currency.1 = "EUR" → Returns (f a)) :
    Returns (test_iban >>= fun iban => uniformInt lo hi >>= fun balance =>
      fromExcept (SimBankAccount.create iban label "EUR" entity (money balance)) >>= f) := by
  refine returns_test_iban.bind ensures_test_iban fun iban hiban => (returns_uniform _ _).bind' fun x => ?_
  refine Returns.bindExcept (SimBankAccount.exists_create hiban currencyPattern_euro label entity x) ?_
  exact fun a ha => hf a (SimBankAccount.create_ok ha).2.2.1

namespace ConnectIngestion

theorem currencyPattern_option {currency : String} (h : currency ∈ ["EUR", "USD", "GBP", "CHF"]) :
    currencyPattern currency = true := by
  revert currency
  decide

theorem returns_account (target_label : String) {currencies : List String} (hne : currencies ≠ [])
    (hoptions : ∀ c ∈ currencies, c ∈ ["EUR", "USD", "GBP", "CHF"]) (n_entities i : ℕ) :
    Returns (account target_label currencies n_entities i : Gen rt SimBankAccount) := by
  refine returns_test_iban.bind ensures_test_iban fun iban hiban => ?_
  refine Returns.bindExcept (exists_cycled hne i) fun currency hcurrency => (returns_uniform _ _).bind' fun x => ?_
  have hpattern := currencyPattern_option (hoptions currency (cycled_mem hcurrency))
  exact Returns.fromExcept (SimBankAccount.exists_create hiban hpattern _ _ x)

theorem returns_flow {today : Date} (h : HasRoom today) {window_days : ℤ}
    (hdays : 1 ≤ window_days ∧ window_days ≤ 365) (account : SimBankAccount) :
    Returns (flow today window_days account : Gen rt SimCashFlow) := by
  refine (returns_signedAmount 50 25000 (1 / 2)).bind' fun signed => ?_
  refine h.returns_day le_rfl (by omega) (by omega) fun value_date _ => ?_
  refine (returns_choice COUNTERPARTIES_ne_nil).bind' fun counterparty => ?_
  refine (returns_choice (List.cons_ne_nil _ _)).bind' fun label => (returns_randint _ _).bind' fun ref => ?_
  exact Returns.fromExcept (SimCashFlow.exists_create account.iban account.currency.2 signed _ _ _ _ _ _ _)

theorem returns_batch {params p : Params} (hp : coerce_params rt.fmt param_schema params = .ok p)
    (target_label : String) {today : Date} (h : HasRoom today) :
    Returns (batch p target_label today : Gen rt GeneratedBatch) := by
  have hwindow : .window "date_range" "last-90d" 1 365 ∈ param_schema := by simp [param_schema]
  have hcurrencies : .multi "currencies" ["EUR"] ["EUR", "USD", "GBP", "CHF"] ∈ param_schema := by
    simp [param_schema]
  refine Returns.bindExcept (exists_paramInt schema_nodup schema_wellFormed hp
    (show .int "accounts" 3 1 20 ∈ param_schema by simp [param_schema])) fun n_accounts _ => ?_
  refine Returns.bindExcept (exists_paramInt schema_nodup schema_wellFormed hp
    (show .int "flows_per_account" 30 1 500 ∈ param_schema by simp [param_schema])) fun flows_per_account _ => ?_
  refine Returns.bindExcept (exists_paramWindow schema_nodup schema_wellFormed hp hwindow) fun window_days hdays => ?_
  refine Returns.bindExcept (exists_paramTexts schema_nodup schema_wellFormed hp hcurrencies) fun currencies hcur => ?_
  refine Returns.bindExcept (exists_paramText schema_nodup schema_wellFormed hp (show .enum "source_format" "psd2"
    ["psd2", "camt053", "mt940", "odata"] ∈ param_schema by simp [param_schema])) fun source_format _ => ?_
  have hbounds := paramWindow_bounds schema_nodup schema_wellFormed hp hwindow hdays
  have hoptions := paramTexts_options schema_nodup schema_wellFormed hp hcurrencies hcur
  refine (Returns.mapM fun i _ => returns_account target_label hoptions.1 hoptions.2 _ i).bind' fun accounts => ?_
  refine (Returns.mapM fun account _ => Returns.mapM fun _ _ => returns_flow h hbounds account).bind' fun flows => ?_
  exact Returns.pure _

end ConnectIngestion

namespace FinhubConsolidation

theorem returns_flow {today : Date} (h : HasRoom today) (account : SimBankAccount) {currency : String}
    (hcurrency : currencyPattern currency = true) :
    Returns (flow today account currency : Gen rt SimCashFlow) := by
  refine (returns_signedAmount 100 20000 (6 / 10)).bind' fun signed => ?_
  refine h.returns_day le_rfl (by norm_num) (by norm_num) fun value_date _ => ?_
  refine (returns_choice COUNTERPARTIES_ne_nil).bind' fun counterparty => (returns_randint _ _).bind' fun ref => ?_
  exact Returns.fromExcept (SimCashFlow.exists_create account.iban hcurrency signed _ _ _ _ _ _ _)

theorem exists_eurRate {currency : String} (h : currency ∈ ["EUR", "USD", "GBP", "CHF"]) :
    ∃ rate, eurRate rt currency = .ok rate := by
  simp only [List.mem_cons, List.not_mem_nil, or_false] at h
  rcases h with rfl | rfl | rfl | rfl <;> exact ⟨_, rfl⟩

theorem returns_account {today : Date} (h : HasRoom today) {currencies : List String} (hne : currencies ≠ [])
    (hoptions : ∀ c ∈ currencies, c ∈ ["EUR", "USD", "GBP", "CHF"]) (entity : String) (acc : Progress) :
    Returns (account today currencies entity acc : Gen rt Progress) := by
  refine Returns.bindExcept (exists_cycled hne _) fun currency hcurrency => ?_
  have hoption := hoptions currency (cycled_mem hcurrency)
  have hpattern := ConnectIngestion.currencyPattern_option hoption
  refine (returns_uniform _ _).bind (ensures_uniformInt (n := 800000) (by norm_num) (by norm_num)) fun x hx => ?_
  refine returns_test_iban.bind ensures_test_iban fun iban hiban => ?_
  refine Returns.bindExcept (SimBankAccount.exists_create hiban hpattern _ _ x) fun a ha => ?_
  have hbalance : a.balance.1 = money x := (SimBankAccount.create_ok ha).2.2.2.2
  -- the balance is read back from the text that was just written
  have hread : ∃ value, pyFloat rt.fmt (.str a.balance) = .ok value := by
    obtain ⟨q, hq⟩ := isFinite_of_within hx
    obtain ⟨neg, hneg⟩ := NumberText.readFloat_fixed2 rt.fmt hq
    rw [hbalance, money, pyFloat, hneg]
    exact ⟨_, rfl⟩
  refine Returns.bindExcept hread fun value _ => Returns.bindExcept (exists_eurRate hoption) fun rate _ => ?_
  exact (Returns.mapM fun _ _ => returns_flow h a hpattern).bind' fun flows => Returns.pure _

theorem returns_batch {params p : Params} (hp : coerce_params rt.fmt param_schema params = .ok p)
    (target_label : String) {today : Date} (h : HasRoom today) :
    Returns (batch p target_label today : Gen rt GeneratedBatch) := by
  have hcurrencies : .multi "currencies" ["EUR", "USD"] ["EUR", "USD", "GBP", "CHF"] ∈ param_schema := by
    simp [param_schema]
  refine Returns.bindExcept (exists_paramInt schema_nodup schema_wellFormed hp
    (show .int "entities" 4 1 15 ∈ param_schema by simp [param_schema])) fun n_entities _ => ?_
  refine Returns.bindExcept (exists_paramInt schema_nodup schema_wellFormed hp
    (show .int "accounts_per_entity" 2 1 10 ∈ param_schema by simp [param_schema])) fun per_entity _ => ?_
  refine Returns.bindExcept (exists_paramTexts schema_nodup schema_wellFormed hp hcurrencies) fun currencies hcur => ?_
  have hoptions := paramTexts_options schema_nodup schema_wellFormed hp hcurrencies hcur
  refine Returns.bind' ?_ fun acc => Returns.pure _
  refine Returns.foldlM (I := fun _ => True) trivial (fun acc e _ _ => ?_) fun _ _ _ _ => Ensures.trivial
  exact Returns.foldlM (I := fun _ => True) trivial
    (fun acc _ _ _ => returns_account h hoptions.1 hoptions.2 _ acc) fun _ _ _ _ => Ensures.trivial

end FinhubConsolidation

theorem exists_share {n : ℤ} (hn : n.natAbs ≤ 2000) {ratio : PyFloat} {q : ℚ} (hratio : ratio.val? = some q)
    (hq : 0 ≤ q ∧ q ≤ 1) : ∃ k, pyRound (.mul rt.fmt (.num n) ratio) = .ok k := by
  have hcount : (PyFloat.num n).Within (2000 : ℕ) :=
    PyFloat.Within.of_mem rfl le_rfl le_rfl ⟨hn, hn⟩
  have hshare : ratio.Within (1 : ℕ) := ⟨q, hratio, abs_le.mpr ⟨by push_cast; linarith, by exact_mod_cast hq.2⟩⟩
  have hproduct : (PyFloat.mul rt.fmt (.num n) ratio).Within (2000 : ℕ) := hcount.mul hshare le_rfl (by norm_num)
  obtain ⟨r, hr, _⟩ := hproduct
  cases hx : PyFloat.mul rt.fmt (.num n) ratio with
  | nan => rw [hx] at hr; cases hr
  | inf neg => rw [hx] at hr; cases hr
  | negZero => exact ⟨0, rfl⟩
  | num q => exact ⟨_, rfl⟩

theorem pyRound_share_nan (n : ℤ) : pyRound (.mul rt.fmt (.num n) .nan) =
    .error (.valueError "cannot convert float NaN to integer") := rfl

theorem ratio_cases {schema : List ParamSpec} {params p : Params} {name : String} {d : ℚ} {ratio : PyFloat}
    (hnodup : (schema.map ParamSpec.name).Nodup) (hwf : ∀ spec ∈ schema, WellFormed spec)
    (hp : coerce_params rt.fmt schema params = .ok p)
    (hspec : .float name (rt.lit d) (rt.lit 0) (rt.lit 1) ∈ schema) (hratio : paramFloat p name = .ok ratio) :
    (∃ q, ratio.val? = some q ∧ 0 ≤ q ∧ q ≤ 1) ∨ ratio = .nan := by
  rcases paramFloat_cases hnodup hwf hp hspec (by rw [lit_zero]; rfl) (by rw [lit_one]; rfl) hratio with
    ⟨q, hq, hlo, hhi, _⟩ | ⟨hnan, _⟩
  · exact Or.inl ⟨q, hq, hlo, hhi⟩
  · exact Or.inr hnan

namespace FinhubReconciliation

theorem returns_erpLeg (mismatch : Option String) (amount : PyFloat) {day : Date}
    (hday : day.toOrdinal + 3 ≤ Date.lastOrdinal) : Returns (erpLeg mismatch amount day : Gen rt (PyFloat × Date)) := by
  unfold erpLeg
  split
  · exact (returns_uniform _ _).bind' fun delta => Returns.pure _
  · exact (returns_shiftDate (by omega) (by omega)).bind' fun later => Returns.pure _
  · exact Returns.pure _

theorem exists_mismatchOf {mismatch_types : List String} (hne : mismatch_types ≠ []) (mismatch_count : ℤ) (i : ℕ) :
    ∃ mismatch, mismatchOf mismatch_types mismatch_count i = .ok mismatch := by
  obtain ⟨type, htype⟩ := exists_cycled hne i
  unfold mismatchOf
  split_ifs
  · exact ⟨some type, by rw [htype]; rfl⟩
  · exact ⟨none, rfl⟩

theorem returns_pair {today : Date} (h : HasRoom today) (account : SimBankAccount) {mismatch_types : List String}
    (hne : mismatch_types ≠ []) (mismatch_count : ℤ) (acc : Progress) (i : ℕ) :
    Returns (pair today account mismatch_types mismatch_count acc i : Gen rt Progress) := by
  have hfuture := h.future
  refine (returns_uniform _ _).bind' fun amount => h.returns_day le_rfl (by norm_num) (by norm_num) fun day hday => ?_
  have hpast := hday.past
  refine (returns_choice COUNTERPARTIES_ne_nil).bind' fun counterparty => ?_
  refine Returns.bindExcept (SimCashFlow.exists_create account.iban currencyPattern_euro amount.neg _ _ _ _ _ _ _)
    fun flow _ => ?_
  refine Returns.bindExcept (exists_mismatchOf hne mismatch_count i) fun mismatch _ => ?_
  dsimp only
  split_ifs
  · exact Returns.pure _
  · refine (returns_erpLeg mismatch amount (by omega)).bind' fun leg => ?_
    exact Returns.bindExcept (SimErpEntry.exists_create currencyPattern_euro _ leg.1 _ _ _) fun entry _ => Returns.pure _

theorem returns_batch {params p : Params} (hp : coerce_params rt.fmt (param_schema rt) params = .ok p)
    (target_label : String) {today : Date} (h : HasRoom today) (hnan : paramFloat p "mismatch_ratio" ≠ .ok .nan) :
    Returns (batch p target_label today : Gen rt GeneratedBatch) := by
  have hspec : .int "pairs" 100 1 2000 ∈ param_schema rt := by simp [param_schema]
  have htypes : .multi "mismatch_types" MISMATCH_TYPES MISMATCH_TYPES ∈ param_schema rt := by simp [param_schema]
  have hratios : .float "mismatch_ratio" (rt.lit (15 / 100)) (rt.lit 0) (rt.lit 1) ∈ param_schema rt := by
    simp [param_schema]
  refine Returns.bindExcept (exists_paramInt (schema_nodup rt) (schema_wellFormed rt) hp hspec) fun pairs hpairs => ?_
  refine Returns.bindExcept (exists_paramTexts (schema_nodup rt) (schema_wellFormed rt) hp htypes)
    fun mismatch_types hmis => ?_
  refine Returns.bindExcept (exists_paramFloat (schema_nodup rt) (schema_wellFormed rt) hp hratios)
    fun ratio hratio => ?_
  have hbounds := paramInt_bounds (schema_nodup rt) (schema_wellFormed rt) hp hspec hpairs
  have hoptions := paramTexts_options (schema_nodup rt) (schema_wellFormed rt) hp htypes hmis
  have hcount : ∃ k, pyRound (.mul rt.fmt (.num pairs) ratio) = .ok k := by
    rcases ratio_cases (schema_nodup rt) (schema_wellFormed rt) hp hratios hratio with ⟨q, hq, hrange⟩ | rfl
    · exact exists_share (by omega) hq hrange
    · exact absurd hratio hnan
  refine Returns.bindExcept hcount fun mismatch_count _ => ?_
  refine returns_openEuro _ _ 50000 300000 fun account _ => Returns.bind' ?_ fun acc => ?_
  · exact Returns.foldlM (I := fun _ => True) trivial
      (fun acc i _ _ => returns_pair h account hoptions.1 mismatch_count acc i) fun _ _ _ _ => Ensures.trivial
  · rw [if_neg (by omega)]
    exact Returns.pure _

theorem raises_batch {params p : Params} (hp : coerce_params rt.fmt (param_schema rt) params = .ok p)
    (target_label : String) (today : Date) (hnan : paramFloat p "mismatch_ratio" = .ok .nan) :
    Raises (batch p target_label today : Gen rt GeneratedBatch)
      (.valueError "cannot convert float NaN to integer") := by
  refine Raises.bindExcept (exists_paramInt (schema_nodup rt) (schema_wellFormed rt) hp
    (show .int "pairs" 100 1 2000 ∈ param_schema rt by simp [param_schema])) fun pairs _ => ?_
  refine Raises.bindExcept (exists_paramTexts (schema_nodup rt) (schema_wellFormed rt) hp
    (show .multi "mismatch_types" MISMATCH_TYPES MISMATCH_TYPES ∈ param_schema rt by simp [param_schema]))
    fun mismatch_types _ => ?_
  refine Raises.bindExcept ⟨_, hnan⟩ fun ratio hratio => ?_
  cases hnan.symm.trans hratio
  exact Raises.of_error (pyRound_share_nan pairs)

end FinhubReconciliation

namespace FinhubCircuitBreaker

theorem returns_baselineFlow {today : Date} (h : HasRoom today) (account : SimBankAccount) (i : ℕ) :
    Returns (baselineFlow today account i : Gen rt SimCashFlow) := by
  refine h.returns_day (by norm_num) (by norm_num) (by norm_num) fun day _ => (returns_uniform _ _).bind' fun amount => ?_
  refine (returns_randint _ _).bind (ensures_randint (by norm_num)) fun hour hhour => ?_
  refine (returns_datetime day (by omega) (by norm_num)).bind' fun booked_at => ?_
  refine (returns_choice COUNTERPARTIES_ne_nil).bind' fun counterparty => ?_
  exact Returns.fromExcept (SimCashFlow.exists_create account.iban currencyPattern_euro amount.neg _ _ _ _ _ _ _)

theorem returns_rapidTransfer (today : Date) (account : SimBankAccount) (first_seen_iban : String)
    {base_time : DateTime} (hbase : base_time.secondOfDay < 86000) {s : ℕ} (hs : s < RAPID_TRANSFERS) :
    Returns (rapidTransfer today account first_seen_iban base_time s : Gen rt SimCashFlow) := by
  have hlt : s < 8 := hs
  refine (returns_uniform _ _).bind' fun amount => (returns_addSeconds (by omega)).bind' fun booked_at => ?_
  exact Returns.fromExcept (SimCashFlow.exists_create account.iban currencyPattern_euro amount.neg _ _ _ _ _ _ _)

theorem returns_triggers (today : Date) (account : SimBankAccount) (first_seen_iban pattern : String) :
    Returns (triggers today account first_seen_iban pattern : Gen rt (List SimCashFlow)) := by
  unfold triggers
  split_ifs
  · refine Returns.bind' ?_ fun flow => Returns.pure _
    refine (returns_datetime today (by norm_num) (by norm_num)).bind' fun booked_at => ?_
    exact Returns.fromExcept (SimCashFlow.exists_create account.iban currencyPattern_euro LARGE_TRANSFER_EUR.neg
      _ _ _ _ _ _ _)
  · refine (returns_datetime today (by norm_num) (by norm_num)).bind (ensures_datetime today 14 10)
      fun base_time hbase => ?_
    have hsecond : base_time.secondOfDay < 86000 := by
      obtain ⟨_, hhour, hminute, hsecond⟩ := FinhubAnomaly.at?_fields hbase
      rw [DateTime.secondOfDay]
      omega
    exact Returns.mapM fun s hs =>
      returns_rapidTransfer today account first_seen_iban hsecond (List.mem_range.mp hs)

theorem returns_batch {params p : Params} (hp : coerce_params rt.fmt (param_schema rt) params = .ok p)
    (target_label : String) {today : Date} (h : HasRoom today) :
    Returns (batch p target_label today : Gen rt GeneratedBatch) := by
  have hscore : .float "target_risk_score" (rt.lit 9) (rt.lit (81 / 10)) (rt.lit 10) ∈ param_schema rt := by
    simp [param_schema]
  have hpatterns : .enum "trigger_pattern" "large_transfer" ["large_transfer", "rapid_sequence"] ∈ param_schema rt := by
    simp [param_schema]
  refine Returns.bindExcept (exists_paramText (schema_nodup rt) (schema_wellFormed rt) hp hpatterns) fun pattern _ => ?_
  refine returns_openEuro _ _ 400000 900000 fun account _ => ?_
  refine (Returns.mapM fun i _ => returns_baselineFlow h account i).bind' fun baseline => ?_
  refine returns_test_iban.bind' fun first_seen_iban => (returns_triggers today account _ pattern).bind' fun flows => ?_
  exact Returns.bindExcept (exists_paramFloat (schema_nodup rt) (schema_wellFormed rt) hp hscore)
    fun score _ => Returns.pure _

end FinhubCircuitBreaker

namespace FinhubForecasting

theorem returns_accountAt (target_label : String) (i : ℕ) :
    Returns (accountAt target_label i : Gen rt SimBankAccount) := by
  refine returns_test_iban.bind ensures_test_iban fun iban hiban => (returns_uniform _ _).bind' fun x => ?_
  exact Returns.fromExcept (SimBankAccount.exists_create hiban currencyPattern_euro _ _ x)

theorem returns_dayFlows (main : SimBankAccount) {accounts : List SimBankAccount} (hne : accounts ≠ [])
    (recurring_scale variable_scale noise : PyFloat) (seasonality : String) {start : Date} {offset : ℕ}
    (h : start.toOrdinal + offset ≤ Date.lastOrdinal) :
    Returns (dayFlows main accounts recurring_scale variable_scale noise seasonality start offset :
      Gen rt (List SimCashFlow)) := by
  have hfirst := start.day_range
  have hstart : 1 ≤ start.toOrdinal := by
    rw [Date.toOrdinal]
    omega
  refine (returns_shiftDate (by omega) (by omega)).bind' fun day => ?_
  refine (Returns.mapM fun series _ => Returns.fromExcept (SimCashFlow.exists_create main.iban currencyPattern_euro
    _ _ _ _ _ _ _ _)).bind' fun recurring => Returns.bind' ?_ fun collected => Returns.pure _
  unfold collections
  split_ifs
  · refine Returns.bindExcept (exists_cycled hne offset) fun account _ => (returns_uniform _ _).bind' fun u => ?_
    exact Returns.bindExcept (SimCashFlow.exists_create account.iban currencyPattern_euro _ _ _ _ _ _ _ _)
      fun flow _ => Returns.pure _
  · exact Returns.pure _

theorem returns_batch {params p : Params} (hp : coerce_params rt.fmt (param_schema rt) params = .ok p)
    (target_label : String) {today : Date} (h : HasRoom today) :
    Returns (batch p target_label today : Gen rt GeneratedBatch) := by
  have hdays : .int "days" 120 90 730 ∈ param_schema rt := by simp [param_schema]
  have haccounts : .int "accounts" 3 1 10 ∈ param_schema rt := by simp [param_schema]
  have hmodes : .enum "seasonality" "monthly" ["none", "weekly", "monthly"] ∈ param_schema rt := by
    simp [param_schema]
  have hratios : .float "recurring_ratio" (rt.lit (6 / 10)) (rt.lit 0) (rt.lit 1) ∈ param_schema rt := by
    simp [param_schema]
  have hnoises : .float "noise" (rt.lit (1 / 10)) (rt.lit 0) (rt.lit 1) ∈ param_schema rt := by
    simp [param_schema]
  refine Returns.bindExcept (exists_paramInt (schema_nodup rt) (schema_wellFormed rt) hp hdays) fun days hd => ?_
  refine Returns.bindExcept (exists_paramInt (schema_nodup rt) (schema_wellFormed rt) hp haccounts)
    fun n_accounts hn => ?_
  refine Returns.bindExcept (exists_paramText (schema_nodup rt) (schema_wellFormed rt) hp hmodes)
    fun seasonality _ => ?_
  refine Returns.bindExcept (exists_paramFloat (schema_nodup rt) (schema_wellFormed rt) hp hratios)
    fun recurring_ratio _ => ?_
  refine Returns.bindExcept (exists_paramFloat (schema_nodup rt) (schema_wellFormed rt) hp hnoises) fun noise _ => ?_
  have hbounds := paramInt_bounds (schema_nodup rt) (schema_wellFormed rt) hp hdays hd
  have hpositive := paramInt_bounds (schema_nodup rt) (schema_wellFormed rt) hp haccounts hn
  refine (Returns.mapM fun i _ => returns_accountAt target_label i).bind
    (Ensures.mapM fun _ _ => Ensures.trivial) fun accounts hlength => ?_
  have hne : accounts ≠ [] := by
    rw [← List.length_pos_iff, ← hlength.length_eq, List.length_range]
    omega
  refine (h.returns_shift_back (by omega) (by omega)).bind (ensures_shiftDate _ _) fun start hstart => ?_
  have hordinal := Date.shift_toOrdinal hstart
  have hfuture := h.future
  obtain ⟨main, rest, rfl⟩ := List.exists_cons_of_ne_nil hne
  refine Returns.bindExcept ⟨main, rfl⟩ fun main _ => (Returns.mapM fun offset hoffset => ?_).bind' fun flows =>
    Returns.pure _
  have hlt := List.mem_range.mp hoffset
  exact returns_dayFlows main hne _ _ noise seasonality (by omega)

end FinhubForecasting

namespace ConnectFirewall

theorem returns_goodFlow {today : Date} (h : HasRoom today) (account : SimBankAccount) :
    Returns (goodFlow today account : Gen rt SimCashFlow) := by
  refine (returns_signedAmount 50 15000 (1 / 2)).bind' fun signed => ?_
  refine h.returns_day le_rfl (by norm_num) (by norm_num) fun day _ => ?_
  refine (returns_choice COUNTERPARTIES_ne_nil).bind' fun counterparty => (returns_randint _ _).bind' fun n => ?_
  exact Returns.fromExcept (SimCashFlow.exists_create account.iban currencyPattern_euro signed _ _ _ _ _ _ _)

theorem returns_addDefect {defect_types : List String} (hne : defect_types ≠ [])
    {good_payloads : List (Payload Empty)} (hgood : good_payloads ≠ []) (acc : Progress) (k : ℕ) :
    Returns (addDefect defect_types good_payloads acc k : Gen rt Progress) := by
  refine Returns.bindExcept (exists_cycled hne k) fun defect _ => Returns.bind' ?_ fun payload => Returns.pure _
  unfold badPayload
  by_cases hdup : defect = "dup_source_hash"
  · rw [if_pos hdup]
    exact returns_choice hgood
  · rw [if_neg hdup]
    exact (returns_choice hgood).bind' fun drawn => Returns.pure _

theorem returns_batch {params p : Params} (hp : coerce_params rt.fmt (param_schema rt) params = .ok p)
    (target_label : String) {today : Date} (h : HasRoom today) (hnan : paramFloat p "bad_ratio" ≠ .ok .nan) :
    Returns (batch p target_label today : Gen rt GeneratedBatch) := by
  have hspec : .int "base_flows" 50 1 2000 ∈ param_schema rt := by simp [param_schema]
  have htypes : .multi "defect_types" DEFECT_TYPES DEFECT_TYPES ∈ param_schema rt := by simp [param_schema]
  have hratios : .float "bad_ratio" (rt.lit (3 / 10)) (rt.lit 0) (rt.lit 1) ∈ param_schema rt := by
    simp [param_schema]
  refine Returns.bindExcept (exists_paramInt (schema_nodup rt) (schema_wellFormed rt) hp hspec)
    fun base_flows hbase => ?_
  refine Returns.bindExcept (exists_paramTexts (schema_nodup rt) (schema_wellFormed rt) hp htypes)
    fun defect_types hdefects => ?_
  refine Returns.bindExcept (exists_paramFloat (schema_nodup rt) (schema_wellFormed rt) hp hratios)
    fun ratio hratio => ?_
  have hbounds := paramInt_bounds (schema_nodup rt) (schema_wellFormed rt) hp hspec hbase
  have hoptions := paramTexts_options (schema_nodup rt) (schema_wellFormed rt) hp htypes hdefects
  have hcount : ∃ k, pyRound (.mul rt.fmt (.num base_flows) ratio) = .ok k := by
    rcases ratio_cases (schema_nodup rt) (schema_wellFormed rt) hp hratios hratio with ⟨q, hq, hrange⟩ | rfl
    · exact exists_share (by omega) hq hrange
    · exact absurd hratio hnan
  refine Returns.bindExcept hcount fun bad_count _ => returns_openEuro _ _ 10000 200000 fun account _ => ?_
  refine (Returns.mapM fun _ _ => returns_goodFlow h account).bind (Ensures.mapM fun _ _ => Ensures.trivial)
    fun good hlength => ?_
  have hgood : good.map SimCashFlow.model_dump ≠ [] := by
    rw [← List.length_pos_iff, List.length_map, ← hlength.length_eq, List.length_range]
    omega
  refine Returns.bind' ?_ fun acc => Returns.pure _
  exact Returns.foldlM (I := fun _ => True) trivial (fun acc k _ _ => returns_addDefect hoptions.1 hgood acc k)
    fun _ _ _ _ => Ensures.trivial

theorem raises_batch {params p : Params} (hp : coerce_params rt.fmt (param_schema rt) params = .ok p)
    (target_label : String) (today : Date) (hnan : paramFloat p "bad_ratio" = .ok .nan) :
    Raises (batch p target_label today : Gen rt GeneratedBatch)
      (.valueError "cannot convert float NaN to integer") := by
  refine Raises.bindExcept (exists_paramInt (schema_nodup rt) (schema_wellFormed rt) hp
    (show .int "base_flows" 50 1 2000 ∈ param_schema rt by simp [param_schema])) fun base_flows _ => ?_
  refine Raises.bindExcept (exists_paramTexts (schema_nodup rt) (schema_wellFormed rt) hp
    (show .multi "defect_types" DEFECT_TYPES DEFECT_TYPES ∈ param_schema rt by simp [param_schema]))
    fun defect_types _ => ?_
  refine Raises.bindExcept ⟨_, hnan⟩ fun ratio hratio => ?_
  cases hnan.symm.trans hratio
  exact Raises.of_error (pyRound_share_nan base_flows)

end ConnectFirewall

namespace FinhubAnomaly

theorem ensures_drawMedians_keys : Ensures (drawMedians : Gen rt (Dict String PyFloat)) fun medians =>
    medians.keys = COUNTERPARTIES := by
  have hone : ∀ name, Ensures (do
      let median ← uniformInt 500 8000
      pure (name, median) : Gen rt (String × PyFloat)) fun p => p.1 = name :=
    fun name => Ensures.bind' fun x => Ensures.pure rfl
  refine (Ensures.mapM fun name _ => hone name).mono fun medians h => ?_
  have hkeys : ∀ {names : List String} {ms : List (String × PyFloat)},
      List.Forall₂ (fun name p => p.1 = name) names ms → ms.map Prod.fst = names := by
    intro names ms hms
    induction hms with
    | nil => rfl
    | cons hname _ ih => rw [List.map_cons, hname, ih]
  exact hkeys h

theorem exists_medianOf {medians : Dict String PyFloat} (hkeys : medians.keys = COUNTERPARTIES) {counterparty : String}
    (h : counterparty ∈ COUNTERPARTIES) : ∃ median, medianOf medians counterparty = .ok median := by
  rw [← hkeys] at h
  cases hlook : medians.lookup counterparty with
  | none => exact absurd h (Dict.lookup_eq_none_iff.mp hlook)
  | some median => exact ⟨median, by rw [medianOf, hlook]⟩

theorem returns_baselineFlow {today : Date} (h : HasRoom today) (account : SimBankAccount)
    {medians : Dict String PyFloat} (hkeys : medians.keys = COUNTERPARTIES) (i : ℕ) :
    Returns (baselineFlow today account medians i : Gen rt SimCashFlow) := by
  refine Returns.bindExcept (exists_cycled COUNTERPARTIES_ne_nil i) fun counterparty hcounterparty => ?_
  refine Returns.bindExcept (exists_medianOf hkeys (cycled_mem hcounterparty)) fun median _ => ?_
  refine (returns_uniform _ _).bind' fun u => h.returns_day le_rfl (by norm_num) (by norm_num) fun day _ => ?_
  refine (returns_randint _ _).bind (ensures_randint (by norm_num)) fun hour hhour => ?_
  refine (returns_datetime day (by omega) (by norm_num)).bind' fun booked_at => ?_
  exact Returns.fromExcept (SimCashFlow.exists_create account.iban currencyPattern_euro _ _ _ _ _ _ _ _)

/-- A flow booked at a time that seven minutes do not carry into the next day. -/
def BookedByDay (f : SimCashFlow) : Prop := ∃ t, f.booked_at = some t ∧ t.hour.val ≤ 17

theorem returns_duplicate {baseline : List SimCashFlow} (hne : baseline ≠ [])
    (hbooked : ∀ f ∈ baseline, BookedByDay f) (day : Date) (k : ℕ) :
    Returns (duplicate baseline day k : Gen rt SimCashFlow) := by
  refine Returns.bindExcept (exists_cycled hne k) fun source hsource => ?_
  obtain ⟨t, ht, hhour⟩ := hbooked source (cycled_mem hsource)
  refine (returns_datetime day (by norm_num) (by norm_num)).bind' fun midnight => ?_
  rw [ht, Option.getD_some]
  refine (returns_addSeconds ?_).bind' fun booked_at => Returns.pure _
  have hminute := t.minute.isLt
  have hsecond := t.second.isLt
  rw [DateTime.secondOfDay]
  omega

theorem returns_anomaly {today : Date} (h : HasRoom today) (account : SimBankAccount)
    {medians : Dict String PyFloat} (hkeys : medians.keys = COUNTERPARTIES) {baseline : List SimCashFlow}
    (hne : baseline ≠ []) (hbooked : ∀ f ∈ baseline, BookedByDay f) (kind : String) (k : ℕ) :
    Returns (anomaly today account medians baseline kind k : Gen rt (List SimCashFlow)) := by
  refine Returns.bindExcept (exists_cycled COUNTERPARTIES_ne_nil k) fun counterparty hcounterparty => ?_
  refine Returns.bindExcept (exists_medianOf hkeys (cycled_mem hcounterparty)) fun median _ => ?_
  refine h.returns_day le_rfl (by norm_num) (by norm_num) fun day _ => ?_
  -- the three single flows differ in the hour and the amount
  have hflow : ∀ (hour : ℤ) (x : PyFloat) (label : String) (ref : Option String), 0 ≤ hour ∧ hour < 24 →
      Returns (datetime day hour 0 >>= fun t => fromExcept (SimCashFlow.create account.iban (money x) "EUR" day
        (some t) .debit counterparty label ref none) : Gen rt SimCashFlow) := by
    intro hour x label ref hhour
    refine (returns_datetime day hhour (by norm_num)).bind' fun t => ?_
    exact Returns.fromExcept (SimCashFlow.exists_create account.iban currencyPattern_euro x _ _ _ _ _ _ _)
  split_ifs
  · refine Returns.mapM fun s hs => ?_
    have hlt : s < 5 := List.mem_range.mp hs
    refine (returns_datetime day (by norm_num) (by omega)).bind' fun t => ?_
    exact Returns.fromExcept (SimCashFlow.exists_create account.iban currencyPattern_euro STRUCTURING_AMOUNT.neg
      _ _ _ _ _ _ _)
  · exact (returns_duplicate hne hbooked day k).map
  · exact (hflow 11 _ _ _ (by norm_num)).map
  · exact (hflow 3 _ _ _ (by norm_num)).map

theorem returns_batch {params p : Params} (hp : coerce_params rt.fmt param_schema params = .ok p)
    (target_label : String) {today : Date} (h : HasRoom today) :
    Returns (batch p target_label today : Gen rt GeneratedBatch) := by
  have hspec : .int "base_flows" 200 10 2000 ∈ param_schema := by simp [param_schema]
  have htypes : .multi "anomaly_types" ANOMALY_TYPES ANOMALY_TYPES ∈ param_schema := by simp [param_schema]
  refine Returns.bindExcept (exists_paramInt schema_nodup schema_wellFormed hp hspec) fun base_flows hbase => ?_
  refine Returns.bindExcept (exists_paramInt schema_nodup schema_wellFormed hp
    (show .int "anomaly_count" 5 1 50 ∈ param_schema by simp [param_schema])) fun anomaly_count _ => ?_
  refine Returns.bindExcept (exists_paramTexts schema_nodup schema_wellFormed hp htypes) fun anomaly_types hkinds => ?_
  have hbounds := paramInt_bounds schema_nodup schema_wellFormed hp hspec hbase
  have hoptions := paramTexts_options schema_nodup schema_wellFormed hp htypes hkinds
  refine returns_openEuro _ _ 100000 400000 fun account hcurrency => ?_
  have hdraws : Returns (drawMedians : Gen rt (Dict String PyFloat)) :=
    Returns.mapM fun name _ => (returns_uniform _ _).bind' fun median => Returns.pure _
  refine hdraws.bind (ensures_drawMedians.and ensures_drawMedians_keys) fun medians hdrawn => ?_
  obtain ⟨hmedians, hkeys⟩ := hdrawn
  refine (Returns.mapM fun i _ => returns_baselineFlow h account hkeys i).bind
    (Ensures.mapM fun i _ => ensures_baselineFlow hcurrency hmedians i) fun baseline hflows => ?_
  have hne : baseline ≠ [] := by
    rw [← List.length_pos_iff, ← hflows.length_eq, List.length_range]
    omega
  have hbooked : ∀ f ∈ baseline, BookedByDay f := by
    intro f hf
    obtain ⟨i, _, hflow⟩ := exists_of_mem_right hflows hf
    obtain ⟨t, ht, _, hhour, _⟩ := hflow.booked_at
    exact ⟨t, ht, hhour⟩
  refine Returns.bind' ?_ fun acc => Returns.pure _
  refine Returns.foldlM (I := fun _ => True) trivial (fun acc k _ _ => ?_) fun _ _ _ _ => Ensures.trivial
  refine Returns.bindExcept (exists_cycled hoptions.1 k) fun kind _ => ?_
  exact (returns_anomaly h account hkeys hne hbooked kind k).bind' fun flows => Returns.pure _

end FinhubAnomaly

/-- The values whose conversion raises an OverflowError: an infinity for an integer, and for a float
an integer beyond the format. -/
def Overflows (fmt : FloatFormat) (type : ParamType) (v : Json PyFloat) : Prop :=
  match type, v with
  | .int, .float x => ∃ neg, x = .inf neg
  | .window, .float x => ∃ neg, x = .inf neg
  | .float, .int n => fmt.overflows n = true
  | _, _ => False

theorem not_convertible_iff (fmt : FloatFormat) (type : ParamType) (v : Json PyFloat) :
    ¬Convertible fmt type v ↔ Overflows fmt type v ∨ type = .float ∧ pyFloat fmt v = .ok .nan := by
  cases type with
  | int => cases v <;> simp [Convertible, Overflows, or_iff_not_imp_left]
  | window => cases v <;> simp [Convertible, Overflows, or_iff_not_imp_left]
  | enum => simp [Convertible, Overflows]
  | multi => simp [Convertible, Overflows]
  | float =>
    cases v with
    | int n => cases h : fmt.overflows n <;>
        simp [Convertible, Overflows, pyFloat, h, PyFloat.ofRat, PyFloat.ofSigned_ne_nan]
    | str s =>
      simp only [Convertible, Overflows, pyFloat]
      cases NumberText.readFloat fmt s <;> simp
    | _ => simp [Convertible, Overflows, pyFloat]

theorem Overflows.pyFloat {fmt : FloatFormat} {v : Json PyFloat} (h : Overflows fmt .float v) :
    AtlasConnectors.pyFloat fmt v = .error .overflowError := by
  cases v with
  | int n => exact if_pos h
  | _ => cases h

/-- A supplied value overflows. -/
def Overflowing (fmt : FloatFormat) (schema : List ParamSpec) (params : Params) : Prop :=
  ∃ spec ∈ schema, ∃ w, params.lookup spec.name = some w ∧ Overflows fmt spec.type w

section Coercion

variable {fmt : FloatFormat} {schema : List ParamSpec} {params : Params}

variable (fmt params) in
/-- One parameter is coerced, or its value overflows. -/
theorem coerceParam_or_overflow {spec : ParamSpec} (hwf : WellFormed spec) :
    ((∃ v, coerceParam fmt params spec = .ok v) ∧
      ∀ w, params.lookup spec.name = some w → ¬Overflows fmt spec.type w) ∨
    (coerceParam fmt params spec = .error .overflowError ∧
      ∃ w, params.lookup spec.name = some w ∧ Overflows fmt spec.type w) := by
  cases outcome_of_wellFormed fmt params hwf with
  | valid v hv hvalid hc =>
    refine Or.inl ⟨⟨v, hv⟩, fun w hw hover => ?_⟩
    exact (not_convertible_iff fmt spec.type w).mpr (Or.inl hover) (hc w hw)
  | nan w hv hw ht hnan =>
    refine Or.inl ⟨⟨_, hv⟩, fun w' hw' hover => ?_⟩
    cases hw.symm.trans hw'
    rw [ht] at hover
    rw [hover.pyFloat] at hnan
    cases hnan
  | raises w hv hw hc =>
    rcases (not_convertible_iff fmt spec.type w).mp hc with hover | ⟨ht, hnan⟩
    · exact Or.inr ⟨hv, w, hw, hover⟩
    · -- a NaN passes the clamp, it does not raise
      rw [coerceParam_some fmt spec hw] at hv
      cases hwf with
      | float hlo hd hhi hpq hqr =>
        rw [coerceValue_float fmt hnan (clamp_nan _ _ _ _)] at hv
        cases hv
      | _ => cases ht

theorem coerce_params_overflow (hnodup : (schema.map ParamSpec.name).Nodup)
    (hwf : ∀ spec ∈ schema, WellFormed spec) (h : Overflowing fmt schema params) :
    coerce_params fmt schema params = .error .overflowError := by
  rw [coerce_params_eq_mapM hnodup]
  apply mapM_eq_error
  · intro spec hspec
    rcases coerceParam_or_overflow fmt params (hwf spec hspec) with ⟨⟨v, hv⟩, _⟩ | ⟨hv, _⟩
    · exact Or.inl ⟨_, by rw [coercedItem, hv]; rfl⟩
    · exact Or.inr (by rw [coercedItem, hv]; rfl)
  · obtain ⟨spec, hspec, w, hw, hover⟩ := h
    refine ⟨spec, hspec, ?_⟩
    rcases coerceParam_or_overflow fmt params (hwf spec hspec) with ⟨_, hnone⟩ | ⟨hv, _⟩
    · exact absurd hover (hnone w hw)
    · rw [coercedItem, hv]
      rfl

theorem coerce_params_of_not_overflowing (hnodup : (schema.map ParamSpec.name).Nodup)
    (hwf : ∀ spec ∈ schema, WellFormed spec) (h : ¬Overflowing fmt schema params) :
    ∃ p, coerce_params fmt schema params = .ok p := by
  apply coerce_params_exists hnodup
  intro spec hspec
  rcases coerceParam_or_overflow fmt params (hwf spec hspec) with ⟨hv, _⟩ | ⟨_, w, hw, hover⟩
  · exact hv
  · exact absurd ⟨spec, hspec, w, hw, hover⟩ h

/-- A float parameter comes out as NaN when its supplied value reads as one. -/
theorem paramFloat_eq_nan_iff {p : Params} {name : String} {d lo hi : PyFloat} {a c : ℚ}
    (hnodup : (schema.map ParamSpec.name).Nodup) (hwf : ∀ spec ∈ schema, WellFormed spec)
    (hp : coerce_params fmt schema params = .ok p) (hspec : .float name d lo hi ∈ schema)
    (hlo : lo.val? = some a) (hhi : hi.val? = some c) : paramFloat p name = .ok .nan ↔
      ∃ w, params.lookup name = some w ∧ pyFloat fmt w = .ok .nan := by
  obtain ⟨x, hx⟩ := exists_paramFloat hnodup hwf hp hspec
  rcases paramFloat_cases hnodup hwf hp hspec hlo hhi hx with ⟨q, hq, _, _, hne⟩ | ⟨rfl, hnan⟩
  · constructor
    · intro h
      rw [hx] at h
      cases h
      cases hq
    · rintro ⟨w, hw, hnan⟩
      exact absurd hnan (hne w hw)
  · exact ⟨fun _ => hnan, fun _ => hx⟩

end Coercion

/-- The ratio by which a preset counts its defective records. -/
def countingRatio (preset_id : String) : Option String :=
  if preset_id = "connect.firewall.v1" then some "bad_ratio"
  else if preset_id = "finhub.reconciliation.v1" then some "mismatch_ratio"
  else none

/-- The ratio that a preset counts with reads as a NaN. -/
def CountsNan (fmt : FloatFormat) (preset_id : String) (params : Params) : Prop :=
  ∃ name w, countingRatio preset_id = some name ∧ params.lookup name = some w ∧ pyFloat fmt w = .ok .nan

/-- What a preset makes of its parameters: a batch, unless a value overflows or is a NaN to count with. -/
structure Generates (rt : PyRuntime) (gen : PresetGenerator) (params : Params) (seed : ℤ)
    (target_label : String) (today : Date) : Prop where
  overflow : Overflowing rt.fmt gen.param_schema params →
    gen.generate params seed target_label today = .error .overflowError
  nan : ¬Overflowing rt.fmt gen.param_schema params → CountsNan rt.fmt gen.preset_id params →
    gen.generate params seed target_label today =
      .error (.valueError "cannot convert float NaN to integer")
  batch : ¬Overflowing rt.fmt gen.param_schema params → ¬CountsNan rt.fmt gen.preset_id params →
    ∃ b, gen.generate params seed target_label today = .ok b

section Frame

variable {schema : List ParamSpec} {body : Params → Gen rt GeneratedBatch} {params : Params} {seed : ℤ}
  (hnodup : (schema.map ParamSpec.name).Nodup) (hwf : ∀ spec ∈ schema, WellFormed spec)

include hnodup hwf

theorem generateWith_overflow (h : Overflowing rt.fmt schema params) :
    generateWith rt schema body params seed = .error .overflowError := by
  rw [generateWith, coerce_params_overflow hnodup hwf h]
  rfl

theorem generateWith_returns (h : ¬Overflowing rt.fmt schema params)
    (hbody : ∀ p, coerce_params rt.fmt schema params = .ok p → Returns (body p)) :
    ∃ b, generateWith rt schema body params seed = .ok b := by
  obtain ⟨p, hp⟩ := coerce_params_of_not_overflowing hnodup hwf h
  rw [generateWith, hp]
  exact (hbody p hp).outcome _

theorem generateWith_raises {e : PyExc} (h : ¬Overflowing rt.fmt schema params)
    (hbody : ∀ p, coerce_params rt.fmt schema params = .ok p → Raises (body p) e) :
    generateWith rt schema body params seed = .error e := by
  obtain ⟨p, hp⟩ := coerce_params_of_not_overflowing hnodup hwf h
  rw [generateWith, hp]
  exact (hbody p hp).outcome _

end Frame

section Presets

variable {params : Params} {seed : ℤ} {target_label : String} {today : Date} {gen : PresetGenerator}
  {body : Params → Gen rt GeneratedBatch} (hnodup : (gen.param_schema.map ParamSpec.name).Nodup)
  (hwf : ∀ spec ∈ gen.param_schema, WellFormed spec)
  (hgen : gen.generate params seed target_label today = generateWith rt gen.param_schema body params seed)

include hnodup hwf hgen

theorem generates_of_returns (hratio : countingRatio gen.preset_id = none)
    (hbody : ∀ p, coerce_params rt.fmt gen.param_schema params = .ok p → Returns (body p)) :
    Generates rt gen params seed target_label today := by
  constructor
  · exact fun hover => hgen.trans (generateWith_overflow hnodup hwf hover)
  · rintro _ ⟨name, w, hname, _⟩
    rw [hratio] at hname
    cases hname
  · intro hover _
    rw [hgen]
    exact generateWith_returns hnodup hwf hover hbody

theorem generates_of_ratio {name : String} {d : ℚ} (hratio : countingRatio gen.preset_id = some name)
    (hspec : .float name (rt.lit d) (rt.lit 0) (rt.lit 1) ∈ gen.param_schema)
    (hraises : ∀ p, coerce_params rt.fmt gen.param_schema params = .ok p → paramFloat p name = .ok .nan →
      Raises (body p) (.valueError "cannot convert float NaN to integer"))
    (hbody : ∀ p, coerce_params rt.fmt gen.param_schema params = .ok p → paramFloat p name ≠ .ok .nan →
      Returns (body p)) : Generates rt gen params seed target_label today := by
  have hiff : ∀ p, coerce_params rt.fmt gen.param_schema params = .ok p →
      (paramFloat p name = .ok .nan ↔ CountsNan rt.fmt gen.preset_id params) := by
    intro p hp
    rw [paramFloat_eq_nan_iff hnodup hwf hp hspec (by rw [lit_zero]; rfl) (by rw [lit_one]; rfl)]
    simp [CountsNan, hratio]
  constructor
  · exact fun hover => hgen.trans (generateWith_overflow hnodup hwf hover)
  · intro hover hnan
    rw [hgen]
    exact generateWith_raises hnodup hwf hover fun p hp => hraises p hp ((hiff p hp).mpr hnan)
  · intro hover hnan
    rw [hgen]
    exact generateWith_returns hnodup hwf hover fun p hp =>
      hbody p hp fun heq => hnan ((hiff p hp).mp heq)

end Presets

/-- Every preset turns every request into a batch, whatever is drawn, unless a supplied value overflows
or a ratio to count with is a NaN; then it raises that error and no other. -/
theorem preset_generates {gen : PresetGenerator} (hgen : gen ∈ generators rt) (params : Params) (seed : ℤ)
    (target_label : String) {today : Date} (h : HasRoom today) :
    Generates rt gen params seed target_label today := by
  revert gen
  apply forall_generators
  · exact generates_of_ratio (ConnectFirewall.schema_nodup rt) (ConnectFirewall.schema_wellFormed rt) rfl rfl
      (show .float "bad_ratio" (rt.lit (3 / 10)) (rt.lit 0) (rt.lit 1) ∈ ConnectFirewall.param_schema rt by
        simp [ConnectFirewall.param_schema])
      (fun p hp hnan => ConnectFirewall.raises_batch hp target_label today hnan)
      fun p hp hnan => ConnectFirewall.returns_batch hp target_label h hnan
  · exact generates_of_returns ConnectIngestion.schema_nodup ConnectIngestion.schema_wellFormed rfl rfl
      fun p hp => ConnectIngestion.returns_batch hp target_label h
  · exact generates_of_returns FinhubAnomaly.schema_nodup FinhubAnomaly.schema_wellFormed rfl rfl
      fun p hp => FinhubAnomaly.returns_batch hp target_label h
  · exact generates_of_returns (FinhubCircuitBreaker.schema_nodup rt) (FinhubCircuitBreaker.schema_wellFormed rt)
      rfl rfl fun p hp => FinhubCircuitBreaker.returns_batch hp target_label h
  · exact generates_of_returns FinhubConsolidation.schema_nodup FinhubConsolidation.schema_wellFormed rfl rfl
      fun p hp => FinhubConsolidation.returns_batch hp target_label h
  · exact generates_of_returns (FinhubForecasting.schema_nodup rt) (FinhubForecasting.schema_wellFormed rt)
      rfl rfl fun p hp => FinhubForecasting.returns_batch hp target_label h
  · exact generates_of_ratio (FinhubReconciliation.schema_nodup rt) (FinhubReconciliation.schema_wellFormed rt)
      rfl rfl (show .float "mismatch_ratio" (rt.lit (15 / 100)) (rt.lit 0) (rt.lit 1) ∈
        FinhubReconciliation.param_schema rt by simp [FinhubReconciliation.param_schema])
      (fun p hp hnan => FinhubReconciliation.raises_batch hp target_label today hnan)
      fun p hp hnan => FinhubReconciliation.returns_batch hp target_label h hnan

theorem newYear_hasRoom : HasRoom newYear := ⟨by decide, by decide⟩

/-- `{"bad_ratio": NaN}` is no batch of the firewall preset. -/
theorem nan_ratio_generates : Generates leastDraws (ConnectFirewall.generator leastDraws)
    [("bad_ratio", .float .nan)] 42 "Société" newYear :=
  preset_generates (List.mem_cons_self) _ 42 "Société" newYear_hasRoom

end AtlasConnectors
