import AtlasConnectors.Kernel

/-! Parameter schemas and the coercion of request parameters against them. -/
namespace AtlasConnectors

inductive Num
  | int (n : ℤ)
  | float (x : PyFloat)

namespace Num

/-- The position of a number in the order of Python's comparisons. -/
def ext? : Num → Option (WithBot (WithTop ℚ))
  | int n => some (((n : ℚ) : WithTop ℚ) : WithBot (WithTop ℚ))
  | float x => x.ext?

def lt (a b : Num) : Bool :=
  match a.ext?, b.ext? with
  | some x, some y => decide (x < y)
  | _, _ => false

def le (a b : Num) : Bool :=
  match a.ext?, b.ext? with
  | some x, some y => decide (x ≤ y)
  | _, _ => false

/-- `max(a, b)`: the first of two arguments unless the second is greater. -/
def pyMax (a b : Num) : Num := if lt a b then b else a

/-- `min(a, b)`. -/
def pyMin (a b : Num) : Num := if lt b a then b else a

def toInt : Num → Except PyExc ℤ
  | int n => .ok n
  | float x => pyInt (.float x)

def toFloat (fmt : FloatFormat) : Num → Except PyExc PyFloat
  | int n => pyFloat fmt (.int n)
  | float x => .ok x

end Num

inductive ParamType
  | int | float | enum | multi | window
  deriving DecidableEq, Repr

/-- One form parameter: type, default and clamp range. -/
structure ParamSpec where
  name : String
  type : ParamType
  default : Json PyFloat
  min : Option Num
  max : Option Num
  options : Option (List String)

namespace ParamSpec

def int (name : String) (default lo hi : ℤ) : ParamSpec :=
  ⟨name, .int, .int default, some (.int lo), some (.int hi), none⟩

def float (name : String) (default lo hi : PyFloat) : ParamSpec :=
  ⟨name, .float, .float default, some (.float lo), some (.float hi), none⟩

def enum (name default : String) (options : List String) : ParamSpec :=
  ⟨name, .enum, .str default, none, none, some options⟩

def multi (name : String) (default options : List String) : ParamSpec :=
  ⟨name, .multi, .arr (default.map .str), none, none, some options⟩

def window (name default : String) (lo hi : ℤ) : ParamSpec :=
  ⟨name, .window, .str default, some (.int lo), some (.int hi), none⟩

end ParamSpec

abbrev Params := Payload PyFloat

def defaults (schema : List ParamSpec) : Params :=
  Dict.ofPairs (schema.map fun spec => (spec.name, spec.default))

def clamp (value : Num) (spec : ParamSpec) : Num :=
  let value := match spec.min with
    | some lo => value.pyMax lo
    | none => value
  match spec.max with
  | some hi => value.pyMin hi
  | none => value

/-- The trailing day count that a value denotes: an int or `last-<N>d`. -/
def windowDays (value : Json PyFloat) : Except PyExc ℤ :=
  match value with
  | .str s =>
    if "last-".toList.isPrefixOf s.toList && s.toList.getLast? == some 'd' then
      pyInt (.str (String.ofList (s.toList.drop 5).dropLast))
    else pyInt value
  | _ => pyInt value

/-- `_coerce_window`: it calls itself on the default, without end when that is invalid too. -/
def coerceWindow (value : Json PyFloat) (spec : ParamSpec) : Except PyExc ℤ :=
  match catching (windowDays value) with
  | .error e => .error e
  | .ok (some days) => (clamp (.int days) spec).toInt
  | .ok none =>
    match catching (windowDays spec.default) with
    | .error e => .error e
    | .ok (some days) => (clamp (.int days) spec).toInt
    | .ok none => .error .recursionError

/-- `value in spec.options`. -/
def isOption (options : List String) : Json PyFloat → Bool
  | .str s => options.contains s
  | _ => false

/-- The value that a supplied parameter stores, `none` when the default stands. -/
def coerceValue (fmt : FloatFormat) (spec : ParamSpec) (value : Json PyFloat) :
    Except PyExc (Option (Json PyFloat)) :=
  match spec.type with
  | .int => catching do
      let n ← pyInt value
      let c ← (clamp (.int n) spec).toInt
      pure (.int c)
  | .float => catching do
      let x ← pyFloat fmt value
      let c ← (clamp (.float x) spec).toFloat fmt
      pure (.float c)
  | .enum =>
    match spec.options with
    | some options => .ok (if isOption options value then some value else none)
    | none => .ok none
  | .multi =>
    match spec.options, value with
    | some options, .arr vs =>
      let kept := vs.filter (isOption options)
      .ok (if kept.isEmpty then none else some (.arr kept))
    | _, _ => .ok none
  | .window => (coerceWindow value spec).map fun days => some (.int days)

/-- What the loop of `coerce_params` stores for one parameter, `none` when the default stands. -/
def coerceParam (fmt : FloatFormat) (params : Params) (spec : ParamSpec) :
    Except PyExc (Option (Json PyFloat)) :=
  match params.lookup spec.name with
  | some value => coerceValue fmt spec value
  | none =>
    if spec.type = .window then (coerceWindow spec.default spec).map fun days => some (.int days)
    else .ok none

def storeParam (out : Params) (name : String) : Option (Json PyFloat) → Params
  | some v => out.set name v
  | none => out

/-- Coerce and clamp the parameters of a request; unknown names are dropped. -/
def coerce_params (fmt : FloatFormat) (schema : List ParamSpec) (params : Params) :
    Except PyExc Params :=
  schema.foldlM (fun out spec => do
    let v ← coerceParam fmt params spec
    pure (storeParam out spec.name v)) (defaults schema)

/-- A number in the clamp range; a NaN is in none. -/
def InBounds (spec : ParamSpec) (v : Num) : Prop :=
  (∀ lo, spec.min = some lo → Num.le lo v = true) ∧ ∀ hi, spec.max = some hi → Num.le v hi = true

/-- The values a parameter of the schema may have. -/
def Valid (spec : ParamSpec) (v : Json PyFloat) : Prop :=
  match spec.type with
  | .int => ∃ n, v = .int n ∧ InBounds spec (.int n)
  | .window => ∃ n, v = .int n ∧ InBounds spec (.int n)
  | .float => ∃ x, v = .float x ∧ InBounds spec (.float x)
  | .enum => ∃ options s, spec.options = some options ∧ s ∈ options ∧ v = .str s
  | .multi => ∃ options ss, spec.options = some options ∧ ss ≠ [] ∧ (∀ s ∈ ss, s ∈ options) ∧
      v = .arr (ss.map .str)

/-- A supplied value is not an infinite float where an integer is wanted, and where a float
is wanted it is no NaN, reads as none, and is no integer beyond the format. -/
def Convertible (fmt : FloatFormat) (type : ParamType) (v : Json PyFloat) : Prop :=
  match type, v with
  | .int, .float x => ∀ b, x ≠ .inf b
  | .window, .float x => ∀ b, x ≠ .inf b
  | .float, .int n => fmt.overflows n = false
  | .float, .float x => x ≠ .nan
  | .float, .str s => NumberText.readFloat fmt s ≠ some .nan
  | _, _ => True

/-- Ranges in order and defaults inside them. -/
inductive WellFormed : ParamSpec → Prop
  | int {name : String} {d lo hi : ℤ} (hlo : lo ≤ d) (hhi : d ≤ hi) :
      WellFormed (.int name d lo hi)
  | float {name : String} {d lo hi : PyFloat} {p q r : ℚ} (hlo : lo.val? = some p)
      (hd : d.val? = some q) (hhi : hi.val? = some r) (hpq : p ≤ q) (hqr : q ≤ r) :
      WellFormed (.float name d lo hi)
  | enum {name d : String} {options : List String} (hd : d ∈ options) :
      WellFormed (.enum name d options)
  | multi {name : String} {ds options : List String} (hne : ds ≠ []) (hd : ∀ d ∈ ds, d ∈ options) :
      WellFormed (.multi name ds options)
  | window {name d : String} {lo hi n : ℤ} (hd : windowDays (.str d) = .ok n) (h : lo ≤ hi) :
      WellFormed (.window name d lo hi)

namespace Num

theorem le_int {m n : ℤ} : le (int m) (int n) = true ↔ m ≤ n := by
  simp [le, ext?]

theorem lt_int {m n : ℤ} : lt (int m) (int n) = true ↔ m < n := by
  simp [lt, ext?]

end Num

theorem clamp_int {name : String} {type : ParamType} {default : Json PyFloat}
    {options : Option (List String)} (n lo hi : ℤ) :
    clamp (.int n) ⟨name, type, default, some (.int lo), some (.int hi), options⟩ =
      .int (min (max n lo) hi) := by
  have hmax : (Num.int n).pyMax (.int lo) = .int (max n lo) := by
    unfold Num.pyMax
    by_cases h : n < lo
    · rw [if_pos (Num.lt_int.mpr h), max_eq_right h.le]
    · rw [if_neg (fun h' => h (Num.lt_int.mp h')), max_eq_left (not_lt.mp h)]
  have hmin : ∀ m : ℤ, (Num.int m).pyMin (.int hi) = .int (min m hi) := by
    intro m
    unfold Num.pyMin
    by_cases h : hi < m
    · rw [if_pos (Num.lt_int.mpr h), min_eq_right h.le]
    · rw [if_neg (fun h' => h (Num.lt_int.mp h')), min_eq_left (not_lt.mp h)]
  simp only [clamp, hmax, hmin]

theorem inBounds_int {name : String} {type : ParamType} {default : Json PyFloat}
    {options : Option (List String)} {n lo hi : ℤ} :
    InBounds ⟨name, type, default, some (.int lo), some (.int hi), options⟩ (.int n) ↔
      lo ≤ n ∧ n ≤ hi := by
  simp [InBounds, Num.le_int]

theorem inBounds_clamped {name : String} {type : ParamType} {default : Json PyFloat}
    {options : Option (List String)} (n : ℤ) {lo hi : ℤ} (h : lo ≤ hi) :
    InBounds ⟨name, type, default, some (.int lo), some (.int hi), options⟩
      (.int (min (max n lo) hi)) := by
  rw [inBounds_int]
  omega

theorem pyInt_eq_overflow {v : Json PyFloat} :
    pyInt v = .error .overflowError ↔ ∃ b, v = .float (.inf b) := by
  cases v with
  | float x => cases x <;> simp [pyInt]
  | str s =>
    simp only [pyInt]
    cases NumberText.readInt s <;> simp
  | null => simp [pyInt]
  | bool b => simp [pyInt]
  | int n => simp [pyInt]
  | arr xs => simp [pyInt]
  | obj ps => simp [pyInt]

theorem pyInt_cases (v : Json PyFloat) : (∃ n, pyInt v = .ok n) ∨
    (catching (pyInt v) = .ok none) ∨ pyInt v = .error .overflowError := by
  cases v with
  | float x => cases x <;> simp [pyInt, catching]
  | str s =>
    simp only [pyInt]
    cases NumberText.readInt s <;> simp [catching]
  | null => simp [pyInt, catching]
  | bool b => simp [pyInt]
  | int n => simp [pyInt]
  | arr xs => simp [pyInt, catching]
  | obj ps => simp [pyInt, catching]

theorem pyFloat_cases (fmt : FloatFormat) (v : Json PyFloat) : (∃ x, pyFloat fmt v = .ok x) ∨
    (catching (pyFloat fmt v) = .ok none) ∨ pyFloat fmt v = .error .overflowError := by
  cases v with
  | float x => simp [pyFloat]
  | str s =>
    simp only [pyFloat]
    cases NumberText.readFloat fmt s <;> simp [catching]
  | null => simp [pyFloat, catching]
  | bool b => simp [pyFloat]
  | int n =>
    simp only [pyFloat]
    split_ifs <;> simp
  | arr xs => simp [pyFloat, catching]
  | obj ps => simp [pyFloat, catching]

theorem pyFloat_convertible (fmt : FloatFormat) (v : Json PyFloat) : Convertible fmt .float v ↔
    pyFloat fmt v ≠ .ok .nan ∧ pyFloat fmt v ≠ .error .overflowError := by
  cases v with
  | int n =>
    cases h : fmt.overflows n <;> simp [Convertible, pyFloat, h, PyFloat.ofRat, PyFloat.ofSigned_ne_nan]
  | float x => simp [Convertible, pyFloat]
  | str s =>
    simp only [Convertible, pyFloat]
    cases NumberText.readFloat fmt s <;> simp
  | bool b => simp [Convertible, pyFloat]
  | null => simp [Convertible, pyFloat]
  | arr xs => simp [Convertible, pyFloat]
  | obj ps => simp [Convertible, pyFloat]

theorem pyInt_convertible (fmt : FloatFormat) {type : ParamType} (ht : type = .int ∨ type = .window)
    (v : Json PyFloat) : Convertible fmt type v ↔ pyInt v ≠ .error .overflowError := by
  rw [ne_eq, pyInt_eq_overflow]
  rcases ht with rfl | rfl <;> cases v <;> simp [Convertible]

theorem catching_bind_none {α β : Type} {x : Except PyExc α} {f : α → Except PyExc β}
    (h : catching x = .ok none) : catching (x >>= f) = .ok none := by
  cases x with
  | ok a => cases h
  | error e => cases e <;> first | rfl | cases h

/-- What becomes of one parameter: it comes out valid, its conversion overflows, or a NaN
passes the clamp. -/
inductive Outcome (fmt : FloatFormat) (params : Params) (spec : ParamSpec) : Prop
  | valid (v : Option (Json PyFloat)) (h : coerceParam fmt params spec = .ok v)
      (hvalid : Valid spec (v.getD spec.default))
      (hc : ∀ w, params.lookup spec.name = some w → Convertible fmt spec.type w)
  | raises (w : Json PyFloat) (h : coerceParam fmt params spec = .error .overflowError)
      (hw : params.lookup spec.name = some w) (hc : ¬Convertible fmt spec.type w)
  | nan (w : Json PyFloat) (h : coerceParam fmt params spec = .ok (some (.float .nan)))
      (hw : params.lookup spec.name = some w) (ht : spec.type = .float)
      (hnan : pyFloat fmt w = .ok .nan)

section OneParam

variable (fmt : FloatFormat) (params : Params) {name : String}

variable {params} in
theorem coerceParam_some (spec : ParamSpec) {v : Json PyFloat}
    (hv : params.lookup spec.name = some v) :
    coerceParam fmt params spec = coerceValue fmt spec v := by
  simp [coerceParam, hv]

variable {params} in
theorem Outcome.of_absent {spec : ParamSpec} (ht : spec.type ≠ .window)
    (hdefault : Valid spec spec.default) (hv : params.lookup spec.name = none) :
    Outcome fmt params spec :=
  .valid none (by simp [coerceParam, hv, ht]) hdefault (by simp [hv])

theorem outcome_int {d lo hi : ℤ} (hlo : lo ≤ d) (hhi : d ≤ hi) :
    Outcome fmt params (.int name d lo hi) := by
  have hdefault : Valid (.int name d lo hi) (.int d) := ⟨d, rfl, inBounds_int.mpr ⟨hlo, hhi⟩⟩
  cases hv : params.lookup name with
  | none => exact Outcome.of_absent fmt (by simp [ParamSpec.int]) hdefault hv
  | some v =>
    have hparam := coerceParam_some fmt (.int name d lo hi) hv
    have hconv := pyInt_convertible fmt (Or.inl rfl) v
    rcases pyInt_cases v with ⟨n, hn⟩ | hnone | hover
    · have hvalue : coerceValue fmt (.int name d lo hi) v =
          .ok (some (.int (min (max n lo) hi))) := by
        simp only [coerceValue, ParamSpec.int, hn]
        change catching ((clamp (.int n) (.int name d lo hi)).toInt.map Json.int) = _
        rw [ParamSpec.int, clamp_int]
        rfl
      refine .valid _ (hparam.trans hvalue) ⟨_, rfl, inBounds_clamped n (hlo.trans hhi)⟩ ?_
      intro w hw
      cases hv.symm.trans hw
      exact hconv.mpr (by simp [hn])
    · refine .valid none (hparam.trans (catching_bind_none hnone)) hdefault ?_
      intro w hw
      cases hv.symm.trans hw
      exact hconv.mpr fun h => by simp [h, catching] at hnone
    · refine .raises v (hparam.trans ?_) hv fun h => hconv.mp h hover
      simp only [coerceValue, ParamSpec.int, hover]
      rfl

theorem windowDays_eq (v : Json PyFloat) :
    windowDays v = pyInt v ∨ ∃ s t, v = .str s ∧ windowDays v = pyInt (.str t) := by
  cases v with
  | str s =>
    simp only [windowDays]
    split_ifs
    · exact Or.inr ⟨_, _, rfl, rfl⟩
    · exact Or.inl rfl
  | _ => exact Or.inl (by simp [windowDays])

theorem windowDays_convertible (v : Json PyFloat) :
    Convertible fmt .window v ↔ windowDays v ≠ .error .overflowError := by
  rcases windowDays_eq v with h | ⟨s, t, rfl, h⟩
  · rw [h, pyInt_convertible fmt (Or.inr rfl)]
  · rw [h, ne_eq, pyInt_eq_overflow]
    simp [Convertible]

theorem windowDays_cases (v : Json PyFloat) : (∃ n, windowDays v = .ok n) ∨
    catching (windowDays v) = .ok none ∨ windowDays v = .error .overflowError := by
  rcases windowDays_eq v with h | ⟨s, t, rfl, h⟩ <;> rw [h] <;> exact pyInt_cases _

theorem coerceWindow_ok (name d : String) (lo hi : ℤ) {v : Json PyFloat} {n : ℤ}
    (hn : windowDays v = .ok n) :
    coerceWindow v (.window name d lo hi) = .ok (min (max n lo) hi) := by
  have hc : catching (windowDays v) = .ok (some n) := by rw [hn]; rfl
  simp only [coerceWindow, hc, ParamSpec.window, clamp_int]
  rfl

theorem coerceWindow_default (name : String) (lo hi : ℤ) {v : Json PyFloat} {d : String} {n : ℤ}
    (hv : catching (windowDays v) = .ok none) (hd : windowDays (.str d) = .ok n) :
    coerceWindow v (.window name d lo hi) = .ok (min (max n lo) hi) := by
  have hc : catching (windowDays (.str d)) = .ok (some n) := by rw [hd]; rfl
  simp only [coerceWindow, hv, ParamSpec.window, hc, clamp_int]
  rfl

theorem outcome_window {d : String} {lo hi n : ℤ} (hd : windowDays (.str d) = .ok n)
    (h : lo ≤ hi) : Outcome fmt params (.window name d lo hi) := by
  have hvalid : ∀ m : ℤ, Valid (.window name d lo hi) (.int (min (max m lo) hi)) := fun m =>
    ⟨_, rfl, inBounds_clamped m h⟩
  cases hv : params.lookup name with
  | none =>
    have hw := coerceWindow_ok name d lo hi hd
    refine .valid (some (.int (min (max n lo) hi))) ?_ (hvalid n) fun w hw => ?_
    · simp only [coerceParam, ParamSpec.window, hv, if_true] at hw ⊢
      rw [hw]
      rfl
    · cases hv.symm.trans hw
  | some v =>
    have hparam : coerceParam fmt params (.window name d lo hi) =
        (coerceWindow v (.window name d lo hi)).map fun days => some (.int days) :=
      coerceParam_some fmt (.window name d lo hi) hv
    have hconv := windowDays_convertible fmt v
    rcases windowDays_cases v with ⟨m, hm⟩ | hnone | hover
    · rw [coerceWindow_ok _ _ _ _ hm] at hparam
      refine .valid _ hparam (hvalid m) fun w hw => ?_
      cases hv.symm.trans hw
      exact hconv.mpr (by simp [hm])
    · rw [coerceWindow_default _ _ _ hnone hd] at hparam
      refine .valid _ hparam (hvalid n) fun w hw => ?_
      cases hv.symm.trans hw
      exact hconv.mpr fun h => by simp [h, catching] at hnone
    · rw [coerceWindow, hover] at hparam
      exact .raises v hparam hv fun h => hconv.mp h hover

theorem Num.le_float {x y : PyFloat} : Num.le (.float x) (.float y) = PyFloat.le x y := rfl

theorem Num.lt_float {x y : PyFloat} : Num.lt (.float x) (.float y) = PyFloat.lt x y := rfl

theorem coe_ext_le {p q : ℚ} (h : p ≤ q) :
    ((p : WithTop ℚ) : WithBot (WithTop ℚ)) ≤ ((q : WithTop ℚ) : WithBot (WithTop ℚ)) := by
  exact_mod_cast h

theorem le_of_val? {x y : PyFloat} {p q : ℚ} (hx : x.val? = some p) (hy : y.val? = some q)
    (h : p ≤ q) : PyFloat.le x y = true := by
  simp [PyFloat.le, PyFloat.ext?_eq_of_val? hx, PyFloat.ext?_eq_of_val? hy, h]

theorem val?_of_le {x lo hi : PyFloat} {p r : ℚ} (hlo : lo.val? = some p) (hhi : hi.val? = some r)
    (hle : PyFloat.le lo x = true) (hge : PyFloat.le x hi = true) :
    ∃ q, x.val? = some q ∧ p ≤ q ∧ q ≤ r := by
  simp only [PyFloat.le, PyFloat.ext?_eq_of_val? hlo, PyFloat.ext?_eq_of_val? hhi] at hle hge
  cases x with
  | nan => simp [PyFloat.ext?] at hle
  | inf neg => cases neg <;> simp [PyFloat.ext?] at hle hge
  | negZero => exact ⟨0, rfl, by simpa [PyFloat.ext?] using hle, by simpa [PyFloat.ext?] using hge⟩
  | num q => exact ⟨q, rfl, by simpa [PyFloat.ext?] using hle, by simpa [PyFloat.ext?] using hge⟩

theorem clamp_nan (name : String) (d lo hi : PyFloat) :
    clamp (.float .nan) (.float name d lo hi) = .float .nan := by
  simp [clamp, ParamSpec.float, Num.pyMax, Num.pyMin, Num.lt_float]

theorem clamp_float (name : String) (d : PyFloat) {x lo hi : PyFloat} {p r : ℚ}
    (hlo : lo.val? = some p) (hhi : hi.val? = some r) (hpr : p ≤ r) (hx : x ≠ .nan) :
    ∃ y, clamp (.float x) (.float name d lo hi) = .float y ∧ PyFloat.le lo y = true ∧
      PyFloat.le y hi = true := by
  have hel := PyFloat.ext?_eq_of_val? hlo
  have heh := PyFloat.ext?_eq_of_val? hhi
  have horder := coe_ext_le hpr
  obtain ⟨e, he⟩ := Option.ne_none_iff_exists'.mp (fun h => hx (PyFloat.ext?_eq_none_iff.mp h))
  simp only [clamp, ParamSpec.float, Num.pyMax, Num.pyMin, Num.lt_float, PyFloat.lt, PyFloat.le, he,
    hel, decide_eq_true_eq]
  by_cases h1 : e < ((p : WithTop ℚ) : WithBot (WithTop ℚ))
  · refine ⟨lo, ?_, ?_⟩
    · simp [h1, Num.lt_float, PyFloat.lt, hel, heh, not_lt.mpr hpr]
    · simp [hel, heh, horder]
  · by_cases h2 : ((r : WithTop ℚ) : WithBot (WithTop ℚ)) < e
    · refine ⟨hi, ?_, ?_⟩
      · simp [h1, Num.lt_float, PyFloat.lt, he, heh, h2]
      · simp [heh, horder]
    · refine ⟨x, ?_, ?_⟩
      · simp [h1, Num.lt_float, PyFloat.lt, he, heh, h2]
      · simp [he, heh, not_lt.mp h1, not_lt.mp h2]

theorem clamp_of_le (name : String) (d : PyFloat) {x lo hi : PyFloat} {p r : ℚ}
    (hlo : lo.val? = some p) (hhi : hi.val? = some r) (hle : PyFloat.le lo x = true)
    (hge : PyFloat.le x hi = true) : clamp (.float x) (.float name d lo hi) = .float x := by
  obtain ⟨q, hq, hpq, hqr⟩ := val?_of_le hlo hhi hle hge
  have hx := PyFloat.lt_of_val? hq hlo
  have hy := PyFloat.lt_of_val? hhi hq
  simp [clamp, ParamSpec.float, Num.pyMax, Num.pyMin, Num.lt_float, hx, hy, not_lt.mpr hpq,
    not_lt.mpr hqr]

theorem clamp_eq_hi_iff (name : String) (d : PyFloat) {x y lo hi : PyFloat} {p q r : ℚ}
    (hlo : lo.val? = some p) (hhi : hi.val? = some r) (hpr : p < r)
    (hy : clamp (.float x) (.float name d lo hi) = .float y) (hq : y.val? = some q) :
    r ≤ q ↔ PyFloat.le hi x = true := by
  have hel := PyFloat.ext?_eq_of_val? hlo
  have heh := PyFloat.ext?_eq_of_val? hhi
  cases he : x.ext? with
  | none =>
    rw [PyFloat.ext?_eq_none_iff.mp he, clamp_nan] at hy
    cases hy
    cases hq
  | some e =>
    by_cases h1 : e < ((p : WithTop ℚ) : WithBot (WithTop ℚ))
    · have hlt : e < ((r : WithTop ℚ) : WithBot (WithTop ℚ)) := h1.trans_le (coe_ext_le hpr.le)
      simp [clamp, ParamSpec.float, Num.pyMax, Num.pyMin, Num.lt_float, PyFloat.lt, he, hel, heh, h1,
        not_lt.mpr hpr.le] at hy
      subst hy
      cases hlo.symm.trans hq
      simp [PyFloat.le, he, heh, not_le.mpr hlt, hpr]
    · by_cases h2 : ((r : WithTop ℚ) : WithBot (WithTop ℚ)) < e
      · simp [clamp, ParamSpec.float, Num.pyMax, Num.pyMin, Num.lt_float, PyFloat.lt, he, hel, heh, h1,
          h2] at hy
        subst hy
        cases hhi.symm.trans hq
        simp [PyFloat.le, he, heh, h2.le]
      · simp [clamp, ParamSpec.float, Num.pyMax, Num.pyMin, Num.lt_float, PyFloat.lt, he, hel, heh, h1,
          h2] at hy
        subst hy
        simp [PyFloat.le, heh, PyFloat.ext?_eq_of_val? hq]

theorem clamp_mem (name : String) (d x lo hi : PyFloat) :
    clamp (.float x) (.float name d lo hi) = .float x ∨
      clamp (.float x) (.float name d lo hi) = .float lo ∨
      clamp (.float x) (.float name d lo hi) = .float hi := by
  simp only [clamp, ParamSpec.float, Num.pyMax, Num.pyMin]
  split_ifs <;> simp

theorem inBounds_float {d lo hi y : PyFloat} : InBounds (.float name d lo hi) (.float y) ↔
    PyFloat.le lo y = true ∧ PyFloat.le y hi = true := by
  simp [InBounds, ParamSpec.float, Num.le_float]

theorem coerceValue_float {d lo hi x y : PyFloat} {v : Json PyFloat} (hx : pyFloat fmt v = .ok x)
    (hy : clamp (.float x) (.float name d lo hi) = .float y) :
    coerceValue fmt (.float name d lo hi) v = .ok (some (.float y)) := by
  simp only [coerceValue, ParamSpec.float, hx]
  change catching ((clamp (.float x) (.float name d lo hi)).toFloat fmt >>= fun c =>
    pure (Json.float c)) = _
  rw [hy]
  rfl

theorem outcome_float {d lo hi : PyFloat} {p q r : ℚ} (hlo : lo.val? = some p)
    (hd : d.val? = some q) (hhi : hi.val? = some r) (hpq : p ≤ q) (hqr : q ≤ r) :
    Outcome fmt params (.float name d lo hi) := by
  have hdefault : Valid (.float name d lo hi) (.float d) :=
    ⟨d, rfl, inBounds_float.mpr ⟨le_of_val? hlo hd hpq, le_of_val? hd hhi hqr⟩⟩
  cases hv : params.lookup name with
  | none => exact Outcome.of_absent fmt (by simp [ParamSpec.float]) hdefault hv
  | some v =>
    have hparam := coerceParam_some fmt (.float name d lo hi) hv
    have hconv := pyFloat_convertible fmt v
    rcases pyFloat_cases fmt v with ⟨x, hx⟩ | hnone | hover
    · by_cases hnan : x = .nan
      · subst hnan
        exact .nan v (hparam.trans (coerceValue_float fmt hx (clamp_nan name d lo hi))) hv rfl hx
      · obtain ⟨y, hy, hrange⟩ := clamp_float name d hlo hhi (hpq.trans hqr) hnan
        refine .valid _ (hparam.trans (coerceValue_float fmt hx hy))
          ⟨y, rfl, inBounds_float.mpr hrange⟩ fun w hw => ?_
        cases hv.symm.trans hw
        exact hconv.mpr ⟨by simpa [hx] using hnan, by simp [hx]⟩
    · refine .valid none (hparam.trans (catching_bind_none hnone)) hdefault fun w hw => ?_
      cases hv.symm.trans hw
      exact hconv.mpr ⟨fun h => by simp [h, catching] at hnone,
        fun h => by simp [h, catching] at hnone⟩
    · refine .raises v (hparam.trans ?_) hv fun h => (hconv.mp h).2 hover
      simp only [coerceValue, ParamSpec.float, hover]
      rfl

/-- The float that is clamped: what the supplied value reads as, else the default. -/
def suppliedFloat (name : String) (default : PyFloat) : PyFloat :=
  match params.lookup name with
  | some w =>
    match pyFloat fmt w with
    | .ok x => x
    | .error _ => default
  | none => default

variable {params} in
theorem coerceParam_float {d lo hi : PyFloat} {p q r : ℚ} (hlo : lo.val? = some p)
    (hd : d.val? = some q) (hhi : hi.val? = some r) (hpq : p ≤ q) (hqr : q ≤ r)
    {v : Option (Json PyFloat)} (h : coerceParam fmt params (.float name d lo hi) = .ok v) :
    ∃ c, v.getD (.float d) = .float c ∧
      clamp (.float (suppliedFloat fmt params name d)) (.float name d lo hi) = .float c := by
  have hdefault := clamp_of_le name d hlo hhi (le_of_val? hlo hd hpq) (le_of_val? hd hhi hqr)
  cases hv : params.lookup name with
  | none =>
    have hc : coerceParam fmt params (.float name d lo hi) = .ok none := by
      simp [coerceParam, ParamSpec.float, hv]
    rw [hc] at h
    cases h
    exact ⟨d, rfl, by simpa [suppliedFloat, hv] using hdefault⟩
  | some w =>
    rw [coerceParam_some fmt (.float name d lo hi) hv] at h
    rcases pyFloat_cases fmt w with ⟨x, hx⟩ | hnone | hover
    · have hsup : suppliedFloat fmt params name d = x := by simp [suppliedFloat, hv, hx]
      have hclamp : ∃ c, clamp (.float x) (.float name d lo hi) = .float c := by
        rcases clamp_mem name d x lo hi with hc | hc | hc <;> exact ⟨_, hc⟩
      obtain ⟨c, hc⟩ := hclamp
      rw [coerceValue_float fmt hx hc] at h
      cases h
      exact ⟨c, rfl, by rw [hsup, hc]⟩
    · have hsup : suppliedFloat fmt params name d = d := by
        cases hw : pyFloat fmt w with
        | ok x => simp [hw, catching] at hnone
        | error e => simp [suppliedFloat, hv, hw]
      have hcatch : coerceValue fmt (.float name d lo hi) w = .ok none := catching_bind_none hnone
      rw [hcatch] at h
      cases h
      exact ⟨d, rfl, by rw [hsup, hdefault]⟩
    · simp only [coerceValue, ParamSpec.float, hover] at h
      cases h

theorem pyFloat_representable {v : Json PyFloat} {x : PyFloat} (h : pyFloat fmt v = .ok x) :
    x.Representable fmt := by
  cases v with
  | bool b =>
    cases h
    intro q hq
    cases b <;> cases hq <;> simp
  | int n =>
    simp only [pyFloat] at h
    split_ifs at h
    cases h
    exact PyFloat.ofSigned_representable _ _
  | float y =>
    cases h
    exact PyFloat.read_representable y
  | str s =>
    simp only [pyFloat] at h
    cases hs : NumberText.readFloat fmt s with
    | none =>
      rw [hs] at h
      cases h
    | some y =>
      rw [hs] at h
      cases h
      exact NumberText.readFloat_representable hs
  | null => cases h
  | arr xs => cases h
  | obj ps => cases h

theorem suppliedFloat_representable {default : PyFloat} (h : default.Representable fmt) :
    (suppliedFloat fmt params name default).Representable fmt := by
  unfold suppliedFloat
  cases params.lookup name with
  | none => exact h
  | some w =>
    dsimp only
    cases hw : pyFloat fmt w with
    | ok x => exact pyFloat_representable fmt hw
    | error e => exact h

theorem isOption_eq_true {options : List String} {v : Json PyFloat} (h : isOption options v = true) :
    ∃ s ∈ options, v = .str s := by
  cases v with
  | str s => exact ⟨s, by simpa [isOption] using h, rfl⟩
  | _ => cases h

theorem outcome_enum {d : String} {options : List String} (hd : d ∈ options) :
    Outcome fmt params (.enum name d options) := by
  have hdefault : Valid (.enum name d options) (.str d) := ⟨options, d, rfl, hd, rfl⟩
  cases hv : params.lookup name with
  | none => exact Outcome.of_absent fmt (by simp [ParamSpec.enum]) hdefault hv
  | some v =>
    refine .valid _ (coerceParam_some fmt _ hv) ?_ fun _ _ => trivial
    by_cases h : isOption options v = true
    · rw [if_pos h]
      obtain ⟨s, hs, rfl⟩ := isOption_eq_true h
      exact ⟨options, s, rfl, hs, rfl⟩
    · rw [if_neg h]
      exact hdefault

theorem filter_isOption (options : List String) (vs : List (Json PyFloat)) :
    ∃ ss : List String, vs.filter (isOption options) = ss.map .str ∧ ∀ s ∈ ss, s ∈ options := by
  induction vs with
  | nil => exact ⟨[], rfl, by simp⟩
  | cons v vs ih =>
    obtain ⟨ss, hss, hmem⟩ := ih
    by_cases h : isOption options v = true
    · obtain ⟨s, hs, rfl⟩ := isOption_eq_true h
      refine ⟨s :: ss, by rw [List.filter_cons_of_pos h, hss, List.map_cons], ?_⟩
      intro t ht
      rcases List.mem_cons.mp ht with rfl | ht
      · exact hs
      · exact hmem t ht
    · exact ⟨ss, by rw [List.filter_cons_of_neg h, hss], hmem⟩

theorem outcome_multi {ds options : List String} (hne : ds ≠ []) (hd : ∀ d ∈ ds, d ∈ options) :
    Outcome fmt params (.multi name ds options) := by
  have hdefault : Valid (.multi name ds options) (.arr (ds.map .str)) :=
    ⟨options, ds, rfl, hne, hd, rfl⟩
  cases hv : params.lookup name with
  | none => exact Outcome.of_absent fmt (by simp [ParamSpec.multi]) hdefault hv
  | some v =>
    have hparam := coerceParam_some fmt (.multi name ds options) hv
    cases v with
    | arr vs =>
      obtain ⟨ss, hss, hmem⟩ := filter_isOption options vs
      simp only [coerceValue, ParamSpec.multi, hss] at hparam
      refine .valid _ hparam ?_ fun _ _ => trivial
      by_cases h : ss = []
      · subst h
        exact hdefault
      · rw [if_neg (by simpa using h)]
        exact ⟨options, ss, rfl, h, hmem, rfl⟩
    | _ => exact .valid none hparam hdefault fun _ _ => trivial

theorem outcome_of_wellFormed {spec : ParamSpec} (h : WellFormed spec) : Outcome fmt params spec := by
  cases h with
  | int hlo hhi => exact outcome_int fmt params hlo hhi
  | float hlo hd hhi hpq hqr => exact outcome_float fmt params hlo hd hhi hpq hqr
  | enum hd => exact outcome_enum fmt params hd
  | multi hne hd => exact outcome_multi fmt params hne hd
  | window hd h => exact outcome_window fmt params hd h

def CoercesToValid (spec : ParamSpec) : Prop :=
  ∃ v, coerceParam fmt params spec = .ok v ∧ Valid spec (v.getD spec.default)

theorem not_valid_nan {spec : ParamSpec} (h : WellFormed spec) : ¬Valid spec (.float .nan) := by
  cases h with
  | float hlo _ _ _ _ =>
    rintro ⟨x, hx, hbound⟩
    cases hx
    have hle := (inBounds_float.mp hbound).1
    simp [PyFloat.le, PyFloat.ext?] at hle
  | int _ _ => rintro ⟨n, hn, _⟩; cases hn
  | window _ _ => rintro ⟨n, hn, _⟩; cases hn
  | enum _ => rintro ⟨_, s, _, _, hs⟩; cases hs
  | multi _ _ => rintro ⟨_, ss, _, _, _, hs⟩; cases hs

/-- A parameter comes out valid exactly when the value supplied for it, if any, is convertible. -/
theorem coercesToValid_iff {spec : ParamSpec} (h : WellFormed spec) :
    CoercesToValid fmt params spec ↔
      ∀ w, params.lookup spec.name = some w → Convertible fmt spec.type w := by
  cases outcome_of_wellFormed fmt params h with
  | valid v hv hvalid hc => exact ⟨fun _ => hc, fun _ => ⟨v, hv, hvalid⟩⟩
  | raises w hv hw hc =>
    refine ⟨?_, fun hall => absurd (hall w hw) hc⟩
    rintro ⟨v, hok, _⟩
    rw [hv] at hok
    cases hok
  | nan w hv hw ht hnan =>
    constructor
    · rintro ⟨v, hok, hvalid⟩
      rw [hv] at hok
      cases hok
      exact absurd hvalid (not_valid_nan h)
    · intro hall
      have hc := hall w hw
      rw [ht, pyFloat_convertible] at hc
      exact absurd hnan hc.1

end OneParam

section AllParams

variable {fmt : FloatFormat} {params : Params}

def coerceStep (fmt : FloatFormat) (params : Params) (out : Params) (spec : ParamSpec) :
    Except PyExc Params := do
  let v ← coerceParam fmt params spec
  pure (storeParam out spec.name v)

theorem coerce_params_eq (schema : List ParamSpec) :
    coerce_params fmt schema params = schema.foldlM (coerceStep fmt params) (defaults schema) := rfl

theorem defaults_eq {schema : List ParamSpec} (hnodup : (schema.map ParamSpec.name).Nodup) :
    defaults schema = schema.map fun spec => (spec.name, spec.default) := by
  apply Dict.ofPairs_eq_self
  simpa [Dict.keys, Function.comp_def] using hnodup

theorem lookup_defaults {schema : List ParamSpec} (hnodup : (schema.map ParamSpec.name).Nodup)
    {spec : ParamSpec} (h : spec ∈ schema) :
    (defaults schema).lookup spec.name = some spec.default := by
  rw [defaults_eq hnodup, Dict.lookup_eq_some_iff (by simpa [Dict.keys, Function.comp_def] using hnodup)]
  exact List.mem_map_of_mem h

def coercedItem (fmt : FloatFormat) (params : Params) (spec : ParamSpec) :
    Except PyExc (String × Json PyFloat) :=
  (coerceParam fmt params spec).map fun v => (spec.name, v.getD spec.default)

theorem storeParam_append {done rest : Params} {name : String} (h : name ∉ done.keys)
    (d : Json PyFloat) (v : Option (Json PyFloat)) :
    storeParam (done ++ (name, d) :: rest) name v = (done ++ [(name, v.getD d)]) ++ rest := by
  cases v with
  | none => simp [storeParam]
  | some v =>
    induction done with
    | nil => simp [storeParam, Dict.set]
    | cons p done ih =>
      simp only [Dict.keys, List.map_cons, List.mem_cons, not_or] at h
      have hrest := ih h.2
      simp only [storeParam] at hrest
      simp [storeParam, Dict.set, Ne.symm h.1, hrest]

variable (fmt params) in
/-- The loop replaces the defaults one by one, those in `done` being replaced already. -/
theorem foldlM_coerceStep (schema : List ParamSpec) (done : Params)
    (hnodup : (done.keys ++ schema.map ParamSpec.name).Nodup) :
    schema.foldlM (coerceStep fmt params) (done ++ schema.map fun spec => (spec.name, spec.default)) =
      (schema.mapM (coercedItem fmt params)).map fun out => done ++ out := by
  induction schema generalizing done with
  | nil => rfl
  | cons spec schema ih =>
    have hname : spec.name ∉ done.keys := fun hmem =>
      List.disjoint_of_nodup_append hnodup hmem (by simp)
    rw [List.foldlM_cons, List.mapM_cons, coerceStep, coercedItem]
    cases coerceParam fmt params spec with
    | error e => rfl
    | ok v =>
      have hrest := ih (done ++ [(spec.name, v.getD spec.default)]) (by simpa [Dict.keys] using hnodup)
      change List.foldlM (coerceStep fmt params)
        (storeParam (done ++ (spec.name, spec.default) :: _) spec.name v) schema = _
      rw [storeParam_append hname, hrest]
      cases hall : schema.mapM (coercedItem fmt params) with
      | error e => simp [Except.map, bind, Except.bind]
      | ok out => simp [Except.map, bind, Except.bind, pure, Except.pure]

/-- Where names are distinct each parameter is coerced by itself. -/
theorem coerce_params_eq_mapM {schema : List ParamSpec} (hnodup : (schema.map ParamSpec.name).Nodup) :
    coerce_params fmt schema params = schema.mapM (coercedItem fmt params) := by
  have hloop := foldlM_coerceStep fmt params schema [] (by simpa [Dict.keys] using hnodup)
  rw [coerce_params_eq, defaults_eq hnodup]
  rw [List.nil_append] at hloop
  rw [hloop]
  cases schema.mapM (coercedItem fmt params) <;> rfl

theorem coercedItem_ok {spec : ParamSpec} {item : String × Json PyFloat}
    (h : coercedItem fmt params spec = .ok item) :
    ∃ v, coerceParam fmt params spec = .ok v ∧ item = (spec.name, v.getD spec.default) := by
  unfold coercedItem at h
  cases hv : coerceParam fmt params spec with
  | error e =>
    rw [hv] at h
    cases h
  | ok v =>
    rw [hv] at h
    cases h
    exact ⟨v, rfl, rfl⟩

/-- What coercion returns: the names of the schema, each with its coerced value or default. -/
theorem coerce_params_ok {schema : List ParamSpec} {out : Params}
    (hnodup : (schema.map ParamSpec.name).Nodup) (h : coerce_params fmt schema params = .ok out) :
    out.keys = schema.map ParamSpec.name ∧ ∀ spec ∈ schema, ∃ v,
      coerceParam fmt params spec = .ok v ∧ out.lookup spec.name = some (v.getD spec.default) := by
  rw [coerce_params_eq_mapM hnodup] at h
  have hitems := Raising.forall₂_of_mapM h
  have hkeys : out.keys = schema.map ParamSpec.name := by
    clear h hnodup
    induction hitems with
    | nil => rfl
    | cons hitem _ ih =>
      obtain ⟨v, _, rfl⟩ := coercedItem_ok hitem
      simpa [Dict.keys] using ih
  refine ⟨hkeys, ?_⟩
  intro spec hspec
  obtain ⟨item, hitem, hok⟩ := Raising.exists_of_mem_left hitems hspec
  obtain ⟨v, hv, rfl⟩ := coercedItem_ok hok
  exact ⟨v, hv, (Dict.lookup_eq_some_iff (by rw [hkeys]; exact hnodup)).mpr hitem⟩

theorem coerce_params_exists {schema : List ParamSpec} (hnodup : (schema.map ParamSpec.name).Nodup)
    (h : ∀ spec ∈ schema, ∃ v, coerceParam fmt params spec = .ok v) :
    ∃ out, coerce_params fmt schema params = .ok out := by
  rw [coerce_params_eq_mapM hnodup]
  apply Raising.exists_mapM
  intro spec hspec
  obtain ⟨v, hv⟩ := h spec hspec
  exact ⟨_, by rw [coercedItem, hv]; rfl⟩

/-- A coerced map has exactly the names of the schema, each with a valid value. -/
def Respects (schema : List ParamSpec) (out : Params) : Prop :=
  out.keys = schema.map ParamSpec.name ∧
    ∀ spec ∈ schema, ∃ v, out.lookup spec.name = some v ∧ Valid spec v

theorem coerce_params_respects_iff {schema : List ParamSpec}
    (hnodup : (schema.map ParamSpec.name).Nodup) (hwf : ∀ spec ∈ schema, WellFormed spec) :
    (∃ out, coerce_params fmt schema params = .ok out ∧ Respects schema out) ↔
      ∀ spec ∈ schema, ∀ w, params.lookup spec.name = some w → Convertible fmt spec.type w := by
  constructor
  · rintro ⟨out, hout, _, hvalid⟩ spec hspec
    rw [← coercesToValid_iff fmt params (hwf spec hspec)]
    obtain ⟨v, hv, hlook⟩ := (coerce_params_ok hnodup hout).2 spec hspec
    obtain ⟨w, hw, hwvalid⟩ := hvalid spec hspec
    rw [hlook] at hw
    cases hw
    exact ⟨v, hv, hwvalid⟩
  · intro h
    have hall : ∀ spec ∈ schema, CoercesToValid fmt params spec := fun spec hspec =>
      (coercesToValid_iff fmt params (hwf spec hspec)).mpr (h spec hspec)
    obtain ⟨out, hout⟩ := coerce_params_exists hnodup fun spec hspec =>
      (hall spec hspec).imp fun _ hv => hv.1
    obtain ⟨hkeys, hmem⟩ := coerce_params_ok hnodup hout
    refine ⟨out, hout, hkeys, ?_⟩
    intro spec hspec
    obtain ⟨v, hv, hlook⟩ := hmem spec hspec
    obtain ⟨w, hw, hwvalid⟩ := hall spec hspec
    rw [hv] at hw
    cases hw
    exact ⟨_, hlook, hwvalid⟩

end AllParams

end AtlasConnectors
