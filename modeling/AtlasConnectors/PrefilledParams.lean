import AtlasConnectors.Clamping

/-! Coercion of parameters that were filled in before: by a form with the defaults, or by an
earlier coercion. -/
namespace AtlasConnectors

/-- `a == b` of numbers; a NaN equals none. -/
def Num.Equal (a b : Num) : Prop := ∃ x, a.ext? = some x ∧ b.ext? = some x

/-- The number that a value is; booleans are integers. -/
def number? : Json PyFloat → Option Num
  | .bool b => some (.int (if b then 1 else 0))
  | .int n => some (.int n)
  | .float x => some (.float x)
  | _ => none

/-- `a == b`, where no NaN is one and the same object on both sides. -/
inductive PyEq : Json PyFloat → Json PyFloat → Prop
  | null : PyEq .null .null
  | str (s : String) : PyEq (.str s) (.str s)
  | number {a b : Json PyFloat} {m n : Num} (ha : number? a = some m) (hb : number? b = some n) (h : m.Equal n) :
      PyEq a b
  | arr {xs ys : List (Json PyFloat)} (h : List.Forall₂ PyEq xs ys) : PyEq (.arr xs) (.arr ys)
  | obj {ps qs : Params} (hkeys : ∀ k, (ps.lookup k).isSome = (qs.lookup k).isSome)
      (h : ∀ k v w, ps.lookup k = some v → qs.lookup k = some w → PyEq v w) : PyEq (.obj ps) (.obj qs)

/-- Equal maps, or the same exception. -/
abbrev SameParams : Except PyExc Params → Except PyExc Params → Prop :=
  Raising.Rel fun p q => PyEq (.obj p) (.obj q)

theorem pyEq_strs (ss : List String) : PyEq (.arr (ss.map .str)) (.arr (ss.map .str)) := by
  apply PyEq.arr
  rw [List.forall₂_map_left_iff, List.forall₂_map_right_iff, List.forall₂_same]
  exact fun s _ => .str s

def ItemRel (R : Json PyFloat → Json PyFloat → Prop) (a b : String × Json PyFloat) : Prop := a.1 = b.1 ∧ R a.2 b.2

theorem eq_of_itemRel {ps qs : Params} (h : List.Forall₂ (ItemRel Eq) ps qs) : ps = qs := by
  induction h with
  | nil => rfl
  | cons hp _ ih => rw [ih, Prod.ext hp.1 hp.2]

theorem pyEq_of_itemRel {ps qs : Params} (h : List.Forall₂ (ItemRel PyEq) ps qs) : PyEq (.obj ps) (.obj qs) := by
  have hlook : ∀ k, (ps.lookup k).isSome = (qs.lookup k).isSome ∧
      ∀ v w, ps.lookup k = some v → qs.lookup k = some w → PyEq v w := by
    intro k
    induction h with
    | nil => exact ⟨rfl, fun v w hv => by cases hv⟩
    | cons hp _ ih =>
      obtain ⟨hname, hvalue⟩ := hp
      rw [Dict.lookup_cons, Dict.lookup_cons, ← hname]
      split_ifs with hk
      · refine ⟨rfl, ?_⟩
        rintro v w ⟨⟩ ⟨⟩
        exact hvalue
      · exact ih
  exact .obj (fun k => (hlook k).1) fun k => (hlook k).2

/-- A default in the range of its parameter that equals what it is converted to, or for a window a
text that says a number of days. -/
def Fits (spec : ParamSpec) : Prop :=
  match spec.type with
  | .int => ∃ d n, number? spec.default = some d ∧ InBounds spec d ∧ pyInt spec.default = .ok n ∧
      Num.Equal (.int n) d
  | .float => ∃ d x, number? spec.default = some d ∧ InBounds spec d ∧ pyFloat binary64 spec.default = .ok x ∧
      Num.Equal (.float x) d
  | .window => (∃ s days, spec.default = .str s ∧ windowDays (.str s) = .ok days) ∨ Valid spec spec.default
  | _ => Valid spec spec.default

/-- The default fits, and the numbers are ones that Python can hold. -/
structure Coherent (spec : ParamSpec) : Prop where
  default_fits : Fits spec
  default_double : ∀ x, spec.default = .float x → x.read binary64 = x
  bounds_double : ∀ w, spec.min = some w ∨ spec.max = some w → w.IsDouble

theorem catching_eq_some {α : Type} {x : Except PyExc α} {a : α} : catching x = .ok (some a) ↔ x = .ok a := by
  cases x with
  | ok b => simp [catching]
  | error e => cases e <;> simp [catching]

section OneParam

variable {fmt : FloatFormat} {spec : ParamSpec} {v w : Json PyFloat}

theorem coerceValue_int_some (ht : spec.type = .int) : coerceValue fmt spec v = .ok (some w) ↔
    ∃ n m, pyInt v = .ok n ∧ (clamp (.int n) spec).toInt = .ok m ∧ w = .int m := by
  simp only [coerceValue, ht, catching_eq_some, Raising.bind_eq_ok, pure, Except.pure, Except.ok.injEq]
  constructor
  · rintro ⟨n, hn, m, hm, rfl⟩
    exact ⟨n, m, hn, hm, rfl⟩
  · rintro ⟨n, m, hn, hm, rfl⟩
    exact ⟨n, hn, m, hm, rfl⟩

theorem coerceValue_float_some (ht : spec.type = .float) : coerceValue fmt spec v = .ok (some w) ↔
    ∃ x y, pyFloat fmt v = .ok x ∧ (clamp (.float x) spec).toFloat fmt = .ok y ∧ w = .float y := by
  simp only [coerceValue, ht, catching_eq_some, Raising.bind_eq_ok, pure, Except.pure, Except.ok.injEq]
  constructor
  · rintro ⟨x, hx, y, hy, rfl⟩
    exact ⟨x, y, hx, hy, rfl⟩
  · rintro ⟨x, y, hx, hy, rfl⟩
    exact ⟨x, hx, y, hy, rfl⟩

theorem coerceWindow_int (n : ℤ) : coerceWindow (.int n) spec = (clamp (.int n) spec).toInt := rfl

theorem exists_of_coerceWindow {m : ℤ} (h : coerceWindow v spec = .ok m) :
    ∃ n, (clamp (.int n) spec).toInt = .ok m := by
  unfold coerceWindow at h
  split at h
  · cases h
  · exact ⟨_, h⟩
  · split at h
    · cases h
    · exact ⟨_, h⟩
    · cases h

theorem settled_of_inBounds {n : Num} (h : InBounds spec n) : Settled spec n := by
  have hnot : ∀ a b : Num, Num.le a b = true → Num.lt b a = false := by
    intro a b hle
    unfold Num.le at hle
    unfold Num.lt
    cases ha : a.ext? <;> cases hb : b.ext? <;> simp_all
  exact ⟨fun lo hlo => hnot lo n (h.1 lo hlo), fun hi hhi => hnot n hi (h.2 hi hhi)⟩

theorem ordered_of_inBounds {n : Num} (h : InBounds spec n) : Ordered spec := by
  intro lo hi hlo hhi
  have hlow := h.1 lo hlo
  have hhigh := h.2 hi hhi
  unfold Num.le at hlow hhigh
  unfold Num.lt
  cases hl : lo.ext? with
  | none => cases hi.ext? <;> rfl
  | some x =>
    cases hn : n.ext? with
    | none => simp [hl, hn] at hlow
    | some y =>
      cases hh : hi.ext? with
      | none => rfl
      | some z =>
        have hxy : x ≤ y := by simpa [hl, hn] using hlow
        have hyz : y ≤ z := by simpa [hn, hh] using hhigh
        exact decide_eq_false (not_lt.mpr (hxy.trans hyz))

theorem read_of_pyFloat {x : PyFloat} (h : pyFloat binary64 v = .ok x) : x.read binary64 = x := by
  cases v with
  | null => cases h
  | arr vs => cases h
  | obj ps => cases h
  | bool b =>
    cases h
    have hself : ∀ k : ℤ, 0 ≤ k → |k| ≤ 2 ^ 53 → PyFloat.ofRat binary64 k = .num k := by
      intro k hk hle
      have hover : binary64.overflows k = false :=
        Binary64.overflows_eq_false k (by exact_mod_cast hle)
      have hrnd : binary64.rnd k = k := Binary64.rnd_int k hle
      have hsign : ¬(k : ℚ) < 0 := by exact_mod_cast not_lt.mpr hk
      rw [PyFloat.ofRat, PyFloat.ofSigned, hover, hrnd]
      by_cases hzero : (k : ℚ) = 0
      · simp [hzero]
      · simp [hzero]
    cases b with
    | false => exact_mod_cast hself 0 le_rfl (by norm_num)
    | true => exact_mod_cast hself 1 zero_le_one (by norm_num)
  | int n => exact (toFloat_int (k := n) h).2 ▸ PyFloat.read_ofSigned _ _
  | float y =>
    cases h
    cases y with
    | num q => exact PyFloat.read_ofSigned _ q
    | nan => rfl
    | inf neg => rfl
    | negZero => rfl
  | str s =>
    simp only [pyFloat] at h
    cases hs : NumberText.readFloat binary64 s with
    | none =>
      rw [hs] at h
      cases h
    | some y =>
      rw [hs] at h
      cases h
      rcases NumberText.readFloat_cases hs with rfl | ⟨neg, rfl⟩ | ⟨sign, q, rfl⟩
      · rfl
      · rfl
      · exact PyFloat.read_ofSigned sign q

theorem isDouble_clamp (hbounds : ∀ w, spec.min = some w ∨ spec.max = some w → w.IsDouble) {n : Num}
    (h : n.IsDouble) : (clamp n spec).IsDouble := by
  have hmax : ∀ lo, spec.min = some lo → (n.pyMax lo).IsDouble := by
    intro lo hlo
    rw [Num.pyMax]
    split_ifs
    · exact hbounds lo (Or.inl hlo)
    · exact h
  have hmin : ∀ (m : Num) hi, spec.max = some hi → m.IsDouble → (m.pyMin hi).IsDouble := by
    intro m hi hhi hm
    rw [Num.pyMin]
    split_ifs
    · exact hbounds hi (Or.inr hhi)
    · exact hm
  unfold clamp
  cases hlo : spec.min with
  | none =>
    cases hhi : spec.max with
    | none => exact h
    | some hi => exact hmin n hi hhi h
  | some lo =>
    cases hhi : spec.max with
    | none => exact hmax lo hlo
    | some hi => exact hmin _ hi hhi (hmax lo hlo)

theorem read_of_toFloat {n : Num} {y : PyFloat} (hn : n.IsDouble) (h : n.toFloat binary64 = .ok y) :
    y.read binary64 = y := by
  cases n with
  | int k => exact read_of_pyFloat (v := .int k) h
  | float x =>
    cases h
    exact hn

/-- A coerced value is coerced to itself. -/
theorem coerceValue_again (hc : Coherent spec) (h : coerceValue binary64 spec v = .ok (some w)) :
    coerceValue binary64 spec w = .ok (some w) := by
  cases ht : spec.type with
  | int =>
    obtain ⟨n, m, _, hm, rfl⟩ := (coerceValue_int_some ht).mp h
    exact (coerceValue_int_some ht).mpr ⟨m, m, rfl, toInt_clamp_again hm, rfl⟩
  | float =>
    obtain ⟨x, y, hx, hy, rfl⟩ := (coerceValue_float_some ht).mp h
    have hord : Ordered spec := by
      have hfits := hc.default_fits
      simp only [Fits, ht] at hfits
      obtain ⟨d, _, _, hbounds, _⟩ := hfits
      exact ordered_of_inBounds hbounds
    have hread : y.read binary64 = y :=
      read_of_toFloat (isDouble_clamp (n := .float x) hc.bounds_double (read_of_pyFloat hx)) hy
    refine (coerceValue_float_some ht).mpr ⟨y, y, ?_, toFloat_clamp_again hord hc.bounds_double hy, rfl⟩
    rw [pyFloat, hread]
  | enum =>
    simp only [coerceValue, ht] at h ⊢
    cases hoptions : spec.options with
    | none => simp [hoptions] at h
    | some options =>
      simp only [hoptions] at h ⊢
      split_ifs at h with hoption
      · cases h
        rw [if_pos hoption]
      · cases h
  | multi =>
    simp only [coerceValue, ht] at h ⊢
    cases hoptions : spec.options with
    | none => simp [hoptions] at h
    | some options =>
      cases v with
      | arr vs =>
        simp only [hoptions] at h ⊢
        split_ifs at h with hnone
        · cases h
        · cases h
          dsimp only
          rw [List.filter_filter]
          simp only [Bool.and_self, if_neg hnone]
      | _ => simp [hoptions] at h
  | window =>
    simp only [coerceValue, ht] at h ⊢
    cases hdays : coerceWindow v spec with
    | error e =>
      rw [hdays] at h
      cases h
    | ok m =>
      rw [hdays] at h
      cases h
      obtain ⟨n, hn⟩ := exists_of_coerceWindow hdays
      rw [coerceWindow_int, toInt_clamp_again hn]
      rfl

theorem settled_of_equal {m n : Num} (h : m.Equal n) (hbounds : InBounds spec n) : Settled spec m := by
  obtain ⟨x, hm, hn⟩ := h
  apply settled_of_inBounds
  constructor
  · intro lo hlo
    have hle := hbounds.1 lo hlo
    rwa [Num.le, hn, ← hm, ← Num.le] at hle
  · intro hi hhi
    have hle := hbounds.2 hi hhi
    rwa [Num.le, hn, ← hm, ← Num.le] at hle

/-- A supplied default is coerced to an equal value; to itself, where it is one that coercion makes. -/
theorem coerceValue_default (hc : Coherent spec) (ht : spec.type ≠ .window) :
    ∃ w, coerceValue binary64 spec spec.default = .ok w ∧ PyEq (w.getD spec.default) spec.default ∧
      (Valid spec spec.default → w.getD spec.default = spec.default) := by
  have hfits := hc.default_fits
  cases hspec : spec.type with
  | int =>
    simp only [Fits, hspec] at hfits
    obtain ⟨d, n, hd, hbounds, hn, hequal⟩ := hfits
    refine ⟨some (.int n), (coerceValue_int_some hspec).mpr ⟨n, n, hn, ?_, rfl⟩, .number rfl hd hequal, ?_⟩
    · rw [clamp_of_settled (settled_of_equal hequal hbounds)]
      rfl
    · intro hvalid
      simp only [Valid, hspec] at hvalid
      obtain ⟨m, hdefault, _⟩ := hvalid
      rw [hdefault] at hn
      cases hn
      exact hdefault.symm
  | float =>
    simp only [Fits, hspec] at hfits
    obtain ⟨d, x, hd, hbounds, hx, hequal⟩ := hfits
    refine ⟨some (.float x), (coerceValue_float_some hspec).mpr ⟨x, x, hx, ?_, rfl⟩, .number rfl hd hequal, ?_⟩
    · rw [clamp_of_settled (settled_of_equal hequal hbounds)]
      rfl
    · intro hvalid
      simp only [Valid, hspec] at hvalid
      obtain ⟨y, hdefault, _⟩ := hvalid
      rw [hdefault, pyFloat, hc.default_double y hdefault] at hx
      cases hx
      exact hdefault.symm
  | enum =>
    simp only [Fits, Valid, hspec] at hfits
    obtain ⟨options, t, hoptions, hmem, hdefault⟩ := hfits
    have hoption : isOption options spec.default = true := by
      rw [hdefault]
      simpa [isOption] using hmem
    refine ⟨some spec.default, ?_, ?_, fun _ => rfl⟩
    · simp only [coerceValue, hspec, hoptions, if_pos hoption]
    · rw [Option.getD_some, hdefault]
      exact .str t
  | multi =>
    simp only [Fits, Valid, hspec] at hfits
    obtain ⟨options, ss, hoptions, hne, hmem, hdefault⟩ := hfits
    have hall : (ss.map Json.str).filter (isOption options) = (ss.map .str : List (Json PyFloat)) := by
      rw [List.filter_eq_self]
      intro v hv
      obtain ⟨t, ht', rfl⟩ := List.mem_map.mp hv
      simpa [isOption] using hmem t ht'
    refine ⟨some spec.default, ?_, ?_, fun _ => rfl⟩
    · simp [coerceValue, hspec, hoptions, hdefault, hall, hne]
    · rw [Option.getD_some, hdefault]
      exact pyEq_strs ss
  | window => exact absurd hspec ht

theorem pyEq_default (hc : Coherent spec) (ht : spec.type ≠ .window) : PyEq spec.default spec.default := by
  have hfits := hc.default_fits
  cases hspec : spec.type with
  | int =>
    simp only [Fits, hspec] at hfits
    obtain ⟨d, _, hd, _, _, x, _, hx⟩ := hfits
    exact .number hd hd ⟨x, hx, hx⟩
  | float =>
    simp only [Fits, hspec] at hfits
    obtain ⟨d, _, hd, _, _, x, _, hx⟩ := hfits
    exact .number hd hd ⟨x, hx, hx⟩
  | enum =>
    simp only [Fits, Valid, hspec] at hfits
    obtain ⟨_, t, _, _, hdefault⟩ := hfits
    rw [hdefault]
    exact .str t
  | multi =>
    simp only [Fits, Valid, hspec] at hfits
    obtain ⟨_, ss, _, _, _, hdefault⟩ := hfits
    rw [hdefault]
    exact pyEq_strs ss
  | window => exact absurd hspec ht

theorem ext?_clamp {n : Num} (h : ∃ x, n.ext? = some x) : ∃ x, (clamp n spec).ext? = some x := by
  have hmax : ∀ m lo : Num, (∃ x, m.ext? = some x) → ∃ x, (m.pyMax lo).ext? = some x := by
    intro m lo hm
    rw [Num.pyMax]
    split_ifs with hlt
    · obtain ⟨_, y, _, hy, _⟩ := Num.lt_iff.mp hlt
      exact ⟨y, hy⟩
    · exact hm
  have hmin : ∀ m hi : Num, (∃ x, m.ext? = some x) → ∃ x, (m.pyMin hi).ext? = some x := by
    intro m hi hm
    rw [Num.pyMin]
    split_ifs with hlt
    · obtain ⟨x, _, hx, _, _⟩ := Num.lt_iff.mp hlt
      exact ⟨x, hx⟩
    · exact hm
  unfold clamp
  cases spec.min <;> cases spec.max
  · exact h
  · exact hmin _ _ h
  · exact hmax _ _ h
  · exact hmin _ _ (hmax _ _ h)

theorem pyEq_coerced (h : coerceValue binary64 spec v = .ok (some w))
    (hnan : spec.type = .float → pyFloat binary64 v ≠ .ok .nan) : PyEq w w := by
  cases ht : spec.type with
  | int =>
    obtain ⟨_, m, _, _, rfl⟩ := (coerceValue_int_some ht).mp h
    exact .number rfl rfl ⟨_, rfl, rfl⟩
  | float =>
    obtain ⟨x, y, hx, hy, rfl⟩ := (coerceValue_float_some ht).mp h
    have hext : ∃ q, Num.ext? (.float x) = some q := by
      rw [← Option.ne_none_iff_exists', ne_eq, Num.ext?, PyFloat.ext?_eq_none_iff]
      rintro rfl
      exact hnan ht hx
    obtain ⟨q, hq⟩ : ∃ q, (clamp (.float x) spec).ext? = some q := ext?_clamp hext
    have hy' : ∃ r, Num.ext? (.float y) = some r := by
      cases hclamp : clamp (.float x) spec with
      | int k =>
        rw [hclamp] at hy
        rw [← Option.ne_none_iff_exists', ne_eq, Num.ext?, PyFloat.ext?_eq_none_iff, (toFloat_int hy).2]
        exact PyFloat.ofSigned_ne_nan _ _
      | float z =>
        rw [hclamp] at hy hq
        cases hy
        exact ⟨q, hq⟩
    obtain ⟨r, hr⟩ := hy'
    exact .number rfl rfl ⟨r, hr, hr⟩
  | enum =>
    simp only [coerceValue, ht] at h
    cases hoptions : spec.options with
    | none => simp [hoptions] at h
    | some options =>
      simp only [hoptions] at h
      split_ifs at h with hoption
      · cases h
        obtain ⟨t, _, rfl⟩ := isOption_eq_true hoption
        exact .str t
      · cases h
  | multi =>
    simp only [coerceValue, ht] at h
    cases hoptions : spec.options with
    | none => simp [hoptions] at h
    | some options =>
      cases v with
      | arr vs =>
        simp only [hoptions] at h
        split_ifs at h with hnone
        · cases h
        · cases h
          obtain ⟨ss, hss, _⟩ := filter_isOption options vs
          rw [hss]
          exact pyEq_strs ss
      | _ => simp [hoptions] at h
  | window =>
    simp only [coerceValue, ht] at h
    cases hdays : coerceWindow v spec with
    | error e =>
      rw [hdays] at h
      cases h
    | ok m =>
      rw [hdays] at h
      cases h
      exact .number rfl rfl ⟨_, rfl, rfl⟩

theorem coerceParam_cases (fmt : FloatFormat) (params : Params) (spec : ParamSpec) :
    (∃ u, coerceParam fmt params spec = coerceValue fmt spec u) ∨
      spec.type ≠ .window ∧ coerceParam fmt params spec = .ok none := by
  unfold coerceParam
  cases params.lookup spec.name with
  | some u => exact Or.inl ⟨u, rfl⟩
  | none =>
    by_cases ht : spec.type = .window
    · exact Or.inl ⟨spec.default, by simp only [coerceValue, ht, if_true]⟩
    · exact Or.inr ⟨ht, if_neg ht⟩

theorem coerceValue_none (h : coerceValue fmt spec v = .ok none) : spec.type ≠ .window := by
  intro ht
  simp only [coerceValue, ht] at h
  cases hdays : coerceWindow v spec with
  | error e =>
    rw [hdays] at h
    cases h
  | ok m =>
    rw [hdays] at h
    cases h

variable {params : Params}

theorem pyEq_inForce (hc : Coherent spec)
    (hnan : spec.type = .float → ∀ u, params.lookup spec.name = some u → pyFloat binary64 u ≠ .ok .nan)
    {u : Option (Json PyFloat)} (hu : coerceParam binary64 params spec = .ok u) :
    PyEq (u.getD spec.default) (u.getD spec.default) := by
  cases u with
  | none =>
    apply pyEq_default hc
    rcases coerceParam_cases binary64 params spec with ⟨v, hv⟩ | ⟨ht, _⟩
    · exact coerceValue_none (hv.symm.trans hu)
    · exact ht
  | some w =>
    cases hsupplied : params.lookup spec.name with
    | some v =>
      rw [coerceParam_some binary64 spec hsupplied] at hu
      exact pyEq_coerced hu fun ht => hnan ht v hsupplied
    | none =>
      rw [coerceParam, hsupplied] at hu
      by_cases ht : spec.type = .window
      · have hcoerced : coerceValue binary64 spec spec.default = .ok (some w) := by
          simpa only [coerceValue, ht, if_true] using hu
        exact pyEq_coerced hcoerced fun hfloat => by cases ht.symm.trans hfloat
      · simp [ht] at hu

/-- Coercion relates a default to what it makes of it, and the value in force to itself. -/
structure Keeps (R : Json PyFloat → Json PyFloat → Prop) (params : Params) (spec : ParamSpec) : Prop where
  coherent : Coherent spec
  default : spec.type ≠ .window → ∃ w, coerceValue binary64 spec spec.default = .ok w ∧
    R (w.getD spec.default) spec.default
  self : ∀ u, coerceParam binary64 params spec = .ok u → R (u.getD spec.default) (u.getD spec.default)

variable {R : Json PyFloat → Json PyFloat → Prop}

theorem Keeps.coercedItem_self (h : Keeps R params spec) :
    Raising.Rel (ItemRel R) (coercedItem binary64 params spec) (coercedItem binary64 params spec) := by
  apply Raising.rel_self
  intro item hitem
  obtain ⟨u, hu, rfl⟩ := coercedItem_ok hitem
  exact ⟨rfl, h.self u hu⟩

theorem Keeps.coercedItem_update (h : Keeps R params spec) {filled : Params}
    (hfilled : filled.lookup spec.name = (params.lookup spec.name).or (some spec.default)) :
    Raising.Rel (ItemRel R) (coercedItem binary64 filled spec) (coercedItem binary64 params spec) := by
  have hself := h.coercedItem_self
  cases hsupplied : params.lookup spec.name with
  | some v =>
    rw [hsupplied, Option.some_or] at hfilled
    rw [coercedItem, coerceParam_some binary64 spec hsupplied] at hself
    rw [coercedItem, coercedItem, coerceParam_some binary64 spec hfilled, coerceParam_some binary64 spec hsupplied]
    exact hself
  | none =>
    rw [hsupplied, Option.none_or] at hfilled
    by_cases ht : spec.type = .window
    · have hsame : coercedItem binary64 filled spec = coercedItem binary64 params spec := by
        rw [coercedItem, coercedItem, coerceParam_some binary64 spec hfilled, coerceParam, hsupplied]
        simp only [coerceValue, ht, if_true]
      rw [hsame]
      exact hself
    · obtain ⟨w, hw, hrel⟩ := h.default ht
      have hstands : coercedItem binary64 params spec = .ok (spec.name, spec.default) := by
        rw [coercedItem, coerceParam, hsupplied]
        simp only [if_neg ht]
        rfl
      rw [hstands, coercedItem, coerceParam_some binary64 spec hfilled, hw]
      exact .ok ⟨rfl, hrel⟩

theorem Keeps.coercedItem_again (h : Keeps R params spec) {out : Params} {u : Option (Json PyFloat)}
    (hu : coerceParam binary64 params spec = .ok u) (hout : out.lookup spec.name = some (u.getD spec.default)) :
    Raising.Rel (ItemRel R) (coercedItem binary64 out spec) (coercedItem binary64 params spec) := by
  have hself := h.self u hu
  rw [coercedItem, coercedItem, coerceParam_some binary64 spec hout, hu]
  cases u with
  | none =>
    have ht : spec.type ≠ .window := by
      rcases coerceParam_cases binary64 params spec with ⟨v, hv⟩ | ⟨ht, _⟩
      · exact coerceValue_none (hv.symm.trans hu)
      · exact ht
    obtain ⟨w, hw, hrel⟩ := h.default ht
    rw [Option.getD_none, hw]
    exact .ok ⟨rfl, hrel⟩
  | some w =>
    have hw : coerceValue binary64 spec w = .ok (some w) := by
      rcases coerceParam_cases binary64 params spec with ⟨v, hv⟩ | ⟨_, hnone⟩
      · exact coerceValue_again h.coherent (hv.symm.trans hu)
      · cases hnone.symm.trans hu
    rw [Option.getD_some, hw]
    exact .ok ⟨rfl, hself⟩

end OneParam

section Schema

variable {R : Json PyFloat → Json PyFloat → Prop} {schema : List ParamSpec} {params : Params}
  (hnodup : (schema.map ParamSpec.name).Nodup) (hkeeps : ∀ spec ∈ schema, Keeps R params spec)

include hnodup hkeeps

theorem coerce_params_update : Raising.Rel (List.Forall₂ (ItemRel R))
    (coerce_params binary64 schema ((defaults schema).update params)) (coerce_params binary64 schema params) := by
  rw [coerce_params_eq_mapM hnodup, coerce_params_eq_mapM hnodup]
  apply Raising.rel_mapM
  intro spec hspec
  apply (hkeeps spec hspec).coercedItem_update
  rw [Dict.lookup_update, lookup_defaults hnodup hspec]

theorem coerce_params_again {out : Params} (hout : coerce_params binary64 schema params = .ok out) :
    Raising.Rel (List.Forall₂ (ItemRel R)) (coerce_params binary64 schema out)
      (coerce_params binary64 schema params) := by
  obtain ⟨_, hitems⟩ := coerce_params_ok hnodup hout
  rw [coerce_params_eq_mapM hnodup, coerce_params_eq_mapM hnodup]
  apply Raising.rel_mapM
  intro spec hspec
  obtain ⟨u, hu, hlook⟩ := hitems spec hspec
  exact (hkeeps spec hspec).coercedItem_again hu hlook

end Schema

theorem eq_of_rel {x y : Except PyExc Params} (h : Raising.Rel (List.Forall₂ (ItemRel Eq)) x y) : x = y := by
  cases h with
  | ok h => rw [eq_of_itemRel h]
  | error e => rfl

end AtlasConnectors
