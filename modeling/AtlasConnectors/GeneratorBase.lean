import AtlasConnectors.ParamSchema
import AtlasConnectors.SimModels

/-! The generator protocol and the fabrication helpers that the presets share. -/
namespace AtlasConnectors

open Raising

/-- One preset: its console description, its parameters and its generator. -/
structure PresetGenerator where
  preset_id : String
  moduleName : String
  feature : String
  label : String
  description : String
  phase : ℕ
  param_schema : List ParamSpec
  generate : Params → ℤ → String → Date → Except PyExc GeneratedBatch

def paramInt (p : Params) (name : String) : Except PyExc ℤ :=
  match p.lookup name with
  | some (.int n) => .ok n
  | some _ => .error .typeError
  | none => .error (.keyError name)

def paramFloat (p : Params) (name : String) : Except PyExc PyFloat :=
  match p.lookup name with
  | some (.float x) => .ok x
  | some _ => .error .typeError
  | none => .error (.keyError name)

def paramText (p : Params) (name : String) : Except PyExc String :=
  match p.lookup name with
  | some (.str s) => .ok s
  | some _ => .error .typeError
  | none => .error (.keyError name)

def textOf? : Json PyFloat → Option String
  | .str s => some s
  | _ => none

def paramTexts (p : Params) (name : String) : Except PyExc (List String) :=
  match p.lookup name with
  | some (.arr vs) => .ok (vs.filterMap textOf?)
  | some _ => .error .typeError
  | none => .error (.keyError name)

section Reading

variable {fmt : FloatFormat} {schema : List ParamSpec} {params p : Params} {name : String}
  (hnodup : (schema.map ParamSpec.name).Nodup) (hwf : ∀ spec ∈ schema, WellFormed spec)
  (hp : coerce_params fmt schema params = .ok p)

include hnodup hwf hp

theorem coerced_cases {spec : ParamSpec} (hspec : spec ∈ schema) :
    (∃ v, p.lookup spec.name = some v ∧ Valid spec v ∧
      ∀ w, params.lookup spec.name = some w → Convertible fmt spec.type w) ∨
    (spec.type = .float ∧ p.lookup spec.name = some (.float .nan) ∧
      ∃ w, params.lookup spec.name = some w ∧ pyFloat fmt w = .ok .nan) := by
  obtain ⟨v, hv, hlook⟩ := (coerce_params_ok hnodup hp).2 spec hspec
  cases outcome_of_wellFormed fmt params (hwf spec hspec) with
  | valid w hw hvalid hc =>
    rw [hw] at hv
    cases hv
    exact Or.inl ⟨_, hlook, hvalid, hc⟩
  | raises w hw _ _ =>
    rw [hw] at hv
    cases hv
  | nan w hw hlookup ht hnan =>
    rw [hw] at hv
    cases hv
    exact Or.inr ⟨ht, hlook, w, hlookup, hnan⟩

theorem coerced_valid {spec : ParamSpec} (hspec : spec ∈ schema) (ht : spec.type ≠ .float) :
    ∃ v, p.lookup spec.name = some v ∧ Valid spec v := by
  rcases coerced_cases hnodup hwf hp hspec with ⟨v, hlook, hvalid, _⟩ | ⟨htype, _⟩
  · exact ⟨v, hlook, hvalid⟩
  · exact absurd htype ht

theorem paramInt_bounds {d lo hi n : ℤ} (hspec : .int name d lo hi ∈ schema)
    (hn : paramInt p name = .ok n) : lo ≤ n ∧ n ≤ hi := by
  obtain ⟨v, hlook, m, rfl, hbound⟩ := coerced_valid hnodup hwf hp hspec (by simp [ParamSpec.int])
  rw [paramInt, show p.lookup name = _ from hlook] at hn
  cases hn
  exact inBounds_int.mp hbound

theorem paramWindow_bounds {d : String} {lo hi n : ℤ} (hspec : .window name d lo hi ∈ schema)
    (hn : paramInt p name = .ok n) : lo ≤ n ∧ n ≤ hi := by
  obtain ⟨v, hlook, m, rfl, hbound⟩ := coerced_valid hnodup hwf hp hspec
    (by simp [ParamSpec.window])
  rw [paramInt, show p.lookup name = _ from hlook] at hn
  cases hn
  exact inBounds_int.mp hbound

theorem paramFloat_cases {d lo hi x : PyFloat} {a c : ℚ} (hspec : .float name d lo hi ∈ schema)
    (hlo : lo.val? = some a) (hhi : hi.val? = some c) (hx : paramFloat p name = .ok x) :
    (∃ q, x.val? = some q ∧ a ≤ q ∧ q ≤ c ∧
      ∀ w, params.lookup name = some w → pyFloat fmt w ≠ .ok .nan) ∨
    (x = .nan ∧ ∃ w, params.lookup name = some w ∧ pyFloat fmt w = .ok .nan) := by
  rcases coerced_cases hnodup hwf hp hspec with ⟨v, hlook, ⟨y, rfl, hbound⟩, hc⟩ | ⟨_, hlook, hnan⟩
  · rw [paramFloat, show p.lookup name = _ from hlook] at hx
    cases hx
    obtain ⟨hle, hge⟩ := inBounds_float.mp hbound
    obtain ⟨q, hq, haq, hqc⟩ := val?_of_le hlo hhi hle hge
    exact Or.inl ⟨q, hq, haq, hqc, fun w hw => ((pyFloat_convertible fmt w).mp (hc w hw)).1⟩
  · rw [paramFloat, show p.lookup name = _ from hlook] at hx
    cases hx
    exact Or.inr ⟨rfl, hnan⟩

omit hwf in
theorem paramFloat_clamped {d lo hi x : PyFloat} {a b c : ℚ} (hspec : .float name d lo hi ∈ schema)
    (hlo : lo.val? = some a) (hd : d.val? = some b) (hhi : hi.val? = some c) (hab : a ≤ b)
    (hbc : b ≤ c) (hx : paramFloat p name = .ok x) :
    clamp (.float (suppliedFloat fmt params name d)) (.float name d lo hi) = .float x := by
  obtain ⟨v, hv, hlook⟩ := (coerce_params_ok hnodup hp).2 _ hspec
  obtain ⟨y, hy, hclamp⟩ := coerceParam_float fmt hlo hd hhi hab hbc hv
  rw [paramFloat, show p.lookup name = some (v.getD (.float d)) from hlook, hy] at hx
  cases hx
  exact hclamp

omit hnodup hwf hp in
theorem paramFloat_bounds {d lo hi x : PyFloat} {a c : ℚ} (hvalid : Respects schema p)
    (hspec : .float name d lo hi ∈ schema) (hlo : lo.val? = some a) (hhi : hi.val? = some c)
    (hx : paramFloat p name = .ok x) : ∃ q, x.val? = some q ∧ a ≤ q ∧ q ≤ c := by
  obtain ⟨v, hlook, y, rfl, hbound⟩ := hvalid.2 _ hspec
  rw [paramFloat, show p.lookup name = _ from hlook] at hx
  cases hx
  obtain ⟨hle, hge⟩ := inBounds_float.mp hbound
  exact val?_of_le hlo hhi hle hge

theorem paramText_mem {d s : String} {options : List String} (hspec : .enum name d options ∈ schema)
    (hs : paramText p name = .ok s) : s ∈ options := by
  obtain ⟨v, hlook, os, t, hos, ht, rfl⟩ := coerced_valid hnodup hwf hp hspec
    (by simp [ParamSpec.enum])
  rw [paramText, show p.lookup name = _ from hlook] at hs
  cases hs
  cases hos
  exact ht

theorem paramTexts_options {ds options ss : List String} (hspec : .multi name ds options ∈ schema)
    (hs : paramTexts p name = .ok ss) : ss ≠ [] ∧ ∀ s ∈ ss, s ∈ options := by
  obtain ⟨v, hlook, os, ts, hos, hne, hts, rfl⟩ := coerced_valid hnodup hwf hp hspec
    (by simp [ParamSpec.multi])
  rw [paramTexts, show p.lookup name = _ from hlook] at hs
  cases hs
  cases hos
  have hback : (ts.map (Json.str : String → Json PyFloat)).filterMap textOf? = ts := by
    rw [List.filterMap_map]
    exact List.filterMap_some
  rw [hback]
  exact ⟨hne, hts⟩

end Reading

def COUNTERPARTIES : List String :=
  ["Fournitures Nébula SARL", "Client Orion SAS", "Ateliers du Lys", "Distribution Callisto",
    "Services Amarante", "Négoce Périclès", "Imprimerie Boréale", "Transports Zéphyr",
    "Conseil Hélianthe", "Matériaux Cassiopée"]

/-- Decimal-string money. -/
def money (value : PyFloat) : String := NumberText.fixed2 value

def entity_label (target_label : String) (index : ℕ) : String :=
  target_label ++ " " ++
    ["Holding", "Filiale Nord", "Filiale Sud", "Filiale Export", "Filiale Services"].getD (index % 5) ""

variable {rt : PyRuntime}

/-- A fabricated IBAN: `FR7699999` and 18 drawn digits. -/
def test_iban : Gen rt String := do
  let digits ← (List.range 18).mapM fun _ => PyRuntime.randint 0 9
  pure ("FR7699999" ++ String.join (digits.map NumberText.intText))

/-- `xs[i % len(xs)]`. -/
def cycled {α : Type} (xs : List α) (i : ℕ) : Except PyExc α :=
  if xs.isEmpty then .error .zeroDivisionError
  else
    match xs[i % xs.length]? with
    | some x => .ok x
    | none => .error .indexError

theorem cycled_eq_ok {α : Type} {xs : List α} {i : ℕ} {x : α} :
    cycled xs i = .ok x ↔ xs[i % xs.length]? = some x := by
  unfold cycled
  cases xs with
  | nil => simp
  | cons y ys =>
    rw [if_neg (by simp)]
    cases (y :: ys)[i % (y :: ys).length]? <;> simp

/-- `rng.uniform` with integer bounds. -/
def uniformInt (lo hi : ℤ) : Gen rt PyFloat := PyRuntime.uniform (.num lo) (.num hi)

/-- `rng.uniform(lo, hi) * (1 if rng.random() < p else -1)`. -/
def signedAmount (lo hi : ℤ) (p : ℚ) : Gen rt PyFloat := do
  let x ← uniformInt lo hi
  let u ← PyRuntime.random
  pure (.mul rt.fmt x (if PyFloat.lt u (rt.lit p) then .num 1 else .num (-1)))

/-- `"credit" if signed >= 0 else "debit"`. -/
def directionOf (signed : PyFloat) : Direction :=
  if PyFloat.le (.num 0) signed then .credit else .debit

/-- The frame of every `generate`: coerce the parameters, seed a generator, build the batch. -/
def generateWith (rt : PyRuntime) (schema : List ParamSpec) (body : Params → Gen rt GeneratedBatch)
    (params : Params) (seed : ℤ) : Except PyExc GeneratedBatch := do
  let p ← coerce_params rt.fmt schema params
  outcome (body p) (rt.seed seed)

theorem generateWith_ensures {schema : List ParamSpec} {body : Params → Gen rt GeneratedBatch}
    {params : Params} {seed : ℤ} {P : GeneratedBatch → Prop} {b : GeneratedBatch}
    (hbody : ∀ p, coerce_params rt.fmt schema params = .ok p → Ensures (body p) P)
    (h : generateWith rt schema body params seed = .ok b) : P b := by
  cases hp : coerce_params rt.fmt schema params with
  | error e =>
    rw [generateWith, hp] at h
    cases h
  | ok p =>
    rw [generateWith, hp] at h
    exact (hbody p hp).outcome h

def IsFinite (x : PyFloat) : Prop := ∃ q, x.val? = some q

/-- A record dumped from a model whose amount is the text of a float with `ok`. -/
inductive Fabricated (ok : PyFloat → Prop) : SimRecord → Prop
  | bank_account (a : SimBankAccount) (x : PyFloat) (ha : a.balance.1 = money x) (hx : ok x) :
      Fabricated ok a.record
  | cash_flow (f : SimCashFlow) (x : PyFloat) (hf : f.amount.1 = money x) (hx : ok x) :
      Fabricated ok f.record
  | financial_transaction (e : SimErpEntry) (x : PyFloat) (he : e.amount.1 = money x) (hx : ok x) :
      Fabricated ok e.record

theorem Fabricated.mono {ok ok' : PyFloat → Prop} (h : ∀ x, ok x → ok' x) {r : SimRecord}
    (hr : Fabricated ok r) : Fabricated ok' r := by
  cases hr with
  | bank_account a x ha hx => exact .bank_account a x ha (h x hx)
  | cash_flow f x hf hx => exact .cash_flow f x hf (h x hx)
  | financial_transaction e x he hx => exact .financial_transaction e x he (h x hx)

theorem Fabricated.typed {ok : PyFloat → Prop} {r : SimRecord} (h : Fabricated ok r) : Typed r := by
  cases h with
  | bank_account a x _ _ => exact a.typed
  | cash_flow f x _ _ => exact f.typed
  | financial_transaction e x _ _ => exact e.typed

theorem isFinite_of_within {b : ℚ} {x : PyFloat} (h : x.Within b) : IsFinite x := by
  obtain ⟨q, hq, _⟩ := h
  exact ⟨q, hq⟩

theorem val?_lit {q : ℚ} {n : ℕ} (hq : |q| ≤ n) (hn : n ≤ 2 ^ 53) :
    (rt.lit q).val? = some (rt.fmt.rnd q) :=
  PyFloat.val?_ofSigned (rt.fmt.overflows_eq_false_of_le hq hn)

theorem lit_zero : rt.lit 0 = .num 0 := by
  have ho := rt.fmt.overflows_eq_false_of_le (q := 0) (n := 0) (by norm_num) (by norm_num)
  simp [PyRuntime.lit, PyFloat.ofRat, PyFloat.ofSigned, ho]

theorem lit_one : rt.lit 1 = .num 1 := by
  have ho := rt.fmt.overflows_eq_false_of_le (q := 1) (n := 1) (by norm_num) (by norm_num)
  simp [PyRuntime.lit, PyFloat.ofRat, PyFloat.ofSigned, ho]

theorem wellFormed_float (rt : PyRuntime) {name : String} {d lo hi : ℚ} {n : ℕ} (hlo : |lo| ≤ n)
    (hhi : |hi| ≤ n) (hn : n ≤ 2 ^ 53) (hld : lo ≤ d) (hdh : d ≤ hi) :
    WellFormed (.float name (rt.lit d) (rt.lit lo) (rt.lit hi)) := by
  have hd : |d| ≤ n := by
    have hlo' := abs_le.mp hlo
    have hhi' := abs_le.mp hhi
    exact abs_le.mpr ⟨by linarith, by linarith⟩
  exact .float (val?_lit hlo hn) (val?_lit hd hn) (val?_lit hhi hn) (rt.fmt.rnd_mono hld)
    (rt.fmt.rnd_mono hdh)

theorem within_lit {q : ℚ} {n : ℕ} (hq : |q| ≤ n) (hn : n ≤ 2 ^ 53) : (rt.lit q).Within n :=
  PyFloat.Within.ofSigned hq hn

theorem ensures_uniformInt {lo hi : ℤ} {n : ℕ} (hle : lo ≤ hi)
    (hn : lo.natAbs ≤ n ∧ hi.natAbs ≤ n) :
    Ensures (uniformInt lo hi : Gen rt PyFloat) fun x => x.Within n := by
  refine (PyRuntime.ensures_uniform rfl rfl (by exact_mod_cast hle)).mono fun x hx => ?_
  obtain ⟨q, hq, hlo, hhi⟩ := hx
  exact PyFloat.Within.of_mem hq hlo hhi hn

theorem ensures_uniform_neg {x : PyFloat} {q : ℚ} (hx : x.val? = some q) (hq : 0 ≤ q) :
    Ensures (PyRuntime.uniform x.neg x : Gen rt PyFloat) fun u => u.Within q := by
  refine (PyRuntime.ensures_uniform (PyFloat.val?_neg hx) hx (by linarith)).mono ?_
  rintro u ⟨r, hr, hlo, hhi⟩
  exact ⟨r, hr, abs_le.mpr ⟨hlo, hhi⟩⟩

theorem ensures_signedAmount {lo hi : ℤ} {p : ℚ} {n : ℕ} (hle : lo ≤ hi)
    (hn : lo.natAbs ≤ n ∧ hi.natAbs ≤ n) (hbound : n ≤ 2 ^ 53) :
    Ensures (signedAmount lo hi p : Gen rt PyFloat) IsFinite := by
  refine (ensures_uniformInt hle hn).bind fun x hx => Ensures.bind' fun u => ?_
  apply Ensures.pure
  have hsign : (if PyFloat.lt u (rt.lit p) then PyFloat.num 1 else .num (-1)).Within (1 : ℕ) := by
    split_ifs
    · exact PyFloat.Within.num (by norm_num)
    · exact PyFloat.Within.num (by norm_num)
  exact isFinite_of_within (hx.mul hsign (by omega) hbound)

end AtlasConnectors
