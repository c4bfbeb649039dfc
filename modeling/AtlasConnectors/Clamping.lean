import AtlasConnectors.Binary64
import AtlasConnectors.ParamSchema

/-! Clamping a number, and clamping again what came out of a clamp. -/
namespace AtlasConnectors
namespace Num

def val? : Num → Option ℚ
  | int n => some n
  | float x => x.val?

theorem ext?_of_val? {v : Num} {q : ℚ} (h : v.val? = some q) :
    v.ext? = some ((q : WithTop ℚ) : WithBot (WithTop ℚ)) := by
  cases v with
  | int n =>
    cases h
    rfl
  | float x => exact PyFloat.ext?_eq_of_val? h

theorem val?_of_ext? {v : Num} {q : ℚ} (h : v.ext? = some ((q : WithTop ℚ) : WithBot (WithTop ℚ))) :
    v.val? = some q := by
  cases v with
  | int n => simpa [ext?, val?] using h
  | float x =>
    cases x with
    | nan => cases h
    | inf neg => cases neg <;> simp [ext?, PyFloat.ext?] at h
    | negZero => simpa [ext?, PyFloat.ext?, val?, eq_comm] using h
    | num r => simpa [ext?, PyFloat.ext?, val?] using h

theorem lt_iff {a b : Num} : lt a b = true ↔ ∃ x y, a.ext? = some x ∧ b.ext? = some y ∧ x < y := by
  unfold lt
  cases a.ext? <;> cases b.ext? <;> simp

@[simp] theorem lt_self (a : Num) : lt a a = false := by
  unfold lt
  cases a.ext? <;> simp

theorem exists_val_above {a c w : Num} {p q : ℚ} (ha : a.val? = some p) (hc : c.val? = some q)
    (hlow : lt a w = true) (hhigh : lt c w = false) : ∃ r, w.val? = some r ∧ p < r ∧ r ≤ q := by
  obtain ⟨x, y, hx, hy, hxy⟩ := lt_iff.mp hlow
  have hle : y ≤ ((q : WithTop ℚ) : WithBot (WithTop ℚ)) := by simpa [lt, ext?_of_val? hc, hy] using hhigh
  rw [ext?_of_val? ha] at hx
  cases hx
  induction y with
  | bot => simp at hxy
  | coe y =>
    induction y with
    | top => simp at hle
    | coe r => exact ⟨r, val?_of_ext? hy, by simpa using hxy, by simpa using hle⟩

theorem exists_val_below {a c w : Num} {p q : ℚ} (ha : a.val? = some p) (hc : c.val? = some q)
    (hhigh : lt w a = true) (hlow : lt w c = false) : ∃ r, w.val? = some r ∧ r < p ∧ q ≤ r := by
  obtain ⟨x, y, hx, hy, hxy⟩ := lt_iff.mp hhigh
  have hle : ((q : WithTop ℚ) : WithBot (WithTop ℚ)) ≤ x := by simpa [lt, ext?_of_val? hc, hx] using hlow
  rw [ext?_of_val? ha] at hy
  cases hy
  induction x with
  | bot => simp at hle
  | coe x =>
    induction x with
    | top => simp at hxy
    | coe r => exact ⟨r, val?_of_ext? hx, by simpa using hxy, by simpa using hle⟩

end Num

/-- A number beyond neither bound. -/
def Settled (spec : ParamSpec) (v : Num) : Prop :=
  (∀ lo, spec.min = some lo → Num.lt v lo = false) ∧ ∀ hi, spec.max = some hi → Num.lt hi v = false

/-- The bounds are in order, or one of them is a NaN or missing. -/
def Ordered (spec : ParamSpec) : Prop :=
  ∀ lo hi, spec.min = some lo → spec.max = some hi → Num.lt hi lo = false

section Clamping

variable {spec : ParamSpec} {v : Num}

theorem clamp_of_settled (h : Settled spec v) : clamp v spec = v := by
  obtain ⟨hlow, hhigh⟩ := h
  unfold clamp Num.pyMax Num.pyMin
  cases hmin : spec.min with
  | none =>
    cases hmax : spec.max with
    | none => rfl
    | some hi => simp [hhigh hi hmax]
  | some lo =>
    cases hmax : spec.max with
    | none => simp [hlow lo hmin]
    | some hi => simp [hlow lo hmin, hhigh hi hmax]

theorem clamp_cases (hord : Ordered spec) (v : Num) : (Settled spec v ∧ clamp v spec = v) ∨
    (∃ lo, spec.min = some lo ∧ Num.lt v lo = true ∧ clamp v spec = lo) ∨
    ∃ hi, spec.max = some hi ∧ Num.lt hi v = true ∧ clamp v spec = hi := by
  by_cases hlow : ∃ lo, spec.min = some lo ∧ Num.lt v lo = true
  · obtain ⟨lo, hmin, hlt⟩ := hlow
    refine Or.inr (Or.inl ⟨lo, hmin, hlt, ?_⟩)
    cases hmax : spec.max with
    | none => simp [clamp, Num.pyMax, hmin, hmax, hlt]
    | some hi => simp [clamp, Num.pyMax, Num.pyMin, hmin, hmax, hlt, hord lo hi hmin hmax]
  · have hkept : ∀ lo, spec.min = some lo → Num.lt v lo = false := by simpa using hlow
    by_cases hhigh : ∃ hi, spec.max = some hi ∧ Num.lt hi v = true
    · obtain ⟨hi, hmax, hlt⟩ := hhigh
      refine Or.inr (Or.inr ⟨hi, hmax, hlt, ?_⟩)
      cases hmin : spec.min with
      | none => simp [clamp, Num.pyMin, hmin, hmax, hlt]
      | some lo => simp [clamp, Num.pyMax, Num.pyMin, hmin, hmax, hlt, hkept lo hmin]
    · have hsettled : Settled spec v := ⟨hkept, by simpa using hhigh⟩
      exact Or.inl ⟨hsettled, clamp_of_settled hsettled⟩

theorem settled_clamp (hord : Ordered spec) (v : Num) : Settled spec (clamp v spec) := by
  rcases clamp_cases hord v with ⟨hsettled, heq⟩ | ⟨lo, hmin, _, heq⟩ | ⟨hi, hmax, _, heq⟩
  · rwa [heq]
  · rw [heq]
    refine ⟨?_, fun hi hmax => hord lo hi hmin hmax⟩
    intro lo' hmin'
    cases hmin.symm.trans hmin'
    exact Num.lt_self lo
  · rw [heq]
    refine ⟨fun lo hmin => hord lo hi hmin hmax, ?_⟩
    intro hi' hmax'
    cases hmax.symm.trans hmax'
    exact Num.lt_self hi

/-- Clamping moves a number, if at all, to a bound on the side of a settled one and not beyond it. -/
theorem clamp_toward (hord : Ordered spec) {c v : Num} {p q : ℚ} (hc : Settled spec c) (hv : v.val? = some p)
    (hq : c.val? = some q) : clamp v spec = v ∨
      ∃ (w : Num) (r : ℚ), (spec.min = some w ∨ spec.max = some w) ∧ clamp v spec = w ∧ w.val? = some r ∧
        ((p < r ∧ r ≤ q) ∨ (q ≤ r ∧ r < p)) := by
  rcases clamp_cases hord v with ⟨_, heq⟩ | ⟨lo, hmin, hlt, heq⟩ | ⟨hi, hmax, hlt, heq⟩
  · exact Or.inl heq
  · obtain ⟨r, hr, hpr, hrq⟩ := Num.exists_val_above hv hq hlt (hc.1 lo hmin)
    exact Or.inr ⟨lo, r, Or.inl hmin, heq, hr, Or.inl ⟨hpr, hrq⟩⟩
  · obtain ⟨r, hr, hrp, hqr⟩ := Num.exists_val_below hv hq hlt (hc.2 hi hmax)
    exact Or.inr ⟨hi, r, Or.inr hmax, heq, hr, Or.inr ⟨hqr, hrp⟩⟩

theorem clamp_of_disordered {lo hi : Num} (hmin : spec.min = some lo) (hmax : spec.max = some hi)
    (h : Num.lt hi lo = true) {q : ℚ} (hv : v.val? = some q) : clamp v spec = hi := by
  obtain ⟨x, y, hx, hy, hxy⟩ := Num.lt_iff.mp h
  by_cases hlow : Num.lt v lo = true
  · simp [clamp, Num.pyMax, Num.pyMin, hmin, hmax, hlow, h]
  · have hext := Num.ext?_of_val? hv
    have hle : y ≤ ((q : WithTop ℚ) : WithBot (WithTop ℚ)) := by simpa [Num.lt, hext, hy] using hlow
    have hhigh : Num.lt hi v = true := Num.lt_iff.mpr ⟨x, _, hx, hext, hxy.trans_le hle⟩
    simp [clamp, Num.pyMax, Num.pyMin, hmin, hmax, hlow, hhigh]

end Clamping

theorem truncate_intCast (n : ℤ) : truncate n = n := by
  simp [truncate]

theorem truncate_of_nonneg {q : ℚ} (h : 0 ≤ q) : truncate q = ⌊q⌋ := by
  rw [truncate, Rat.floor_def', Int.tdiv_eq_ediv_of_nonneg (Rat.num_nonneg.mpr h)]

theorem truncate_neg (q : ℚ) : truncate (-q) = -truncate q := by
  simp [truncate]

theorem truncate_mono : Monotone truncate := by
  have hnonneg : ∀ q : ℚ, 0 ≤ q → 0 ≤ truncate q := by
    intro q hq
    rw [truncate_of_nonneg hq]
    exact Int.floor_nonneg.mpr hq
  have hmono : ∀ p q : ℚ, 0 ≤ p → p ≤ q → truncate p ≤ truncate q := by
    intro p q hp hpq
    rw [truncate_of_nonneg hp, truncate_of_nonneg (hp.trans hpq)]
    exact Int.floor_mono hpq
  intro p q hpq
  rcases le_total 0 p with hp | hp
  · exact hmono p q hp hpq
  · have hleft := hnonneg (-p) (by linarith)
    rw [truncate_neg] at hleft
    rcases le_total 0 q with hq | hq
    · exact (by omega : truncate p ≤ 0).trans (hnonneg q hq)
    · have h := hmono (-q) (-p) (by linarith) (by linarith)
      rw [truncate_neg, truncate_neg] at h
      omega

theorem truncate_between {p q : ℚ} (h : ((truncate q : ℚ) ≤ p ∧ p ≤ q) ∨ (q ≤ p ∧ p ≤ (truncate q : ℚ))) :
    truncate p = truncate q := by
  rcases h with ⟨hlow, hhigh⟩ | ⟨hlow, hhigh⟩
  · exact le_antisymm (truncate_mono hhigh) (by simpa only [truncate_intCast] using truncate_mono hlow)
  · exact le_antisymm (by simpa only [truncate_intCast] using truncate_mono hhigh) (truncate_mono hlow)

namespace Num

theorem toInt_of_val? {v : Num} {q : ℚ} (h : v.val? = some q) : v.toInt = .ok (truncate q) := by
  cases v with
  | int n =>
    cases h
    rw [truncate_intCast]
    rfl
  | float x =>
    cases x with
    | nan => cases h
    | inf neg => cases h
    | negZero =>
      cases h
      rfl
    | num r =>
      cases h
      rfl

theorem exists_of_toInt {v : Num} {m : ℤ} (h : v.toInt = .ok m) : ∃ q, v.val? = some q ∧ truncate q = m := by
  cases hv : v.val? with
  | some q =>
    rw [toInt_of_val? hv] at h
    exact ⟨q, rfl, by cases h; rfl⟩
  | none =>
    cases v with
    | int n => cases hv
    | float x =>
      cases x with
      | nan => cases h
      | inf neg => cases h
      | negZero => cases hv
      | num r => cases hv

end Num

section Again

variable {spec : ParamSpec}

/-- An integer that came out of a clamp is clamped to itself. -/
theorem toInt_clamp_again {n m : ℤ} (h : (clamp (.int n) spec).toInt = .ok m) :
    (clamp (.int m) spec).toInt = .ok m := by
  by_cases hord : Ordered spec
  · obtain ⟨q, hq, rfl⟩ := Num.exists_of_toInt h
    rcases clamp_toward hord (settled_clamp hord (.int n)) (v := .int (truncate q)) (p := truncate q) rfl hq with
      heq | ⟨w, r, _, heq, hr, hbetween⟩
    · rw [heq]
      rfl
    · have hsame := truncate_between (hbetween.imp (And.imp_left le_of_lt) (And.imp_right le_of_lt))
      rw [heq, Num.toInt_of_val? hr, hsame]
  · have hbounds : ∃ lo hi, spec.min = some lo ∧ spec.max = some hi ∧ Num.lt hi lo = true := by
      simpa [Ordered] using hord
    obtain ⟨lo, hi, hmin, hmax, hlt⟩ := hbounds
    rw [clamp_of_disordered hmin hmax hlt (q := n) rfl] at h
    rw [clamp_of_disordered hmin hmax hlt (q := m) rfl, h]

def Num.IsDouble : Num → Prop
  | .int _ => True
  | .float x => x.read binary64 = x

theorem toFloat_int {k : ℤ} {y : PyFloat} (h : Num.toFloat binary64 (.int k) = .ok y) :
    Binary64.overflows k = false ∧ y = .ofRat binary64 k := by
  have hover : binary64.overflows k = Binary64.overflows k := rfl
  simp only [Num.toFloat, pyFloat, hover] at h
  split_ifs at h with hoverflows
  cases h
  exact ⟨Bool.eq_false_of_not_eq_true hoverflows, rfl⟩

theorem toFloat_int_congr {j k : ℤ} (h : Binary64.rnd j = Binary64.rnd k) :
    Num.toFloat binary64 (.int j) = Num.toFloat binary64 (.int k) := by
  have hover : binary64.overflows j = binary64.overflows k := Binary64.overflows_congr h
  have hrnd : binary64.rnd j = binary64.rnd k := h
  by_cases hzero : Binary64.rnd k = 0
  · have hj := Binary64.rnd_intCast_eq_zero (h.trans hzero)
    have hk := Binary64.rnd_intCast_eq_zero hzero
    rw [hj, hk]
  · have hne : binary64.rnd k ≠ 0 := hzero
    have hsign : decide ((j : ℚ) < 0) = decide ((k : ℚ) < 0) := by
      rw [decide_eq_decide, ← Binary64.rnd_neg_iff hzero, ← Binary64.rnd_neg_iff (h ▸ hzero), h]
    simp only [Num.toFloat, pyFloat, PyFloat.ofRat, PyFloat.ofSigned, hover, hrnd, if_neg hne, hsign]

theorem toFloat_clamp_again (hord : Ordered spec)
    (hdouble : ∀ w, spec.min = some w ∨ spec.max = some w → w.IsDouble) {x y : PyFloat}
    (h : (clamp (.float x) spec).toFloat binary64 = .ok y) : (clamp (.float y) spec).toFloat binary64 = .ok y := by
  have hsettled := settled_clamp hord (.float x)
  cases hc : clamp (.float x) spec with
  | float z =>
    rw [hc] at h hsettled
    cases h
    rw [clamp_of_settled hsettled]
    rfl
  | int k =>
    rw [hc] at h hsettled
    obtain ⟨hover, hy⟩ := toFloat_int h
    have hval : Num.val? (.float y) = some (Binary64.rnd k) := by
      rw [hy]
      exact PyFloat.val?_ofSigned hover
    rcases clamp_toward hord hsettled hval rfl with heq | ⟨w, r, hbound, heq, hr, hbetween⟩
    · rw [heq]
      rfl
    · rw [heq]
      have hrnd := Binary64.rnd_between (hbetween.imp (And.imp_left le_of_lt) (And.imp_right le_of_lt))
      cases w with
      | int j =>
        cases hr
        rw [toFloat_int_congr hrnd, h]
      | float z =>
        -- a bound that Python can hold is rounded to itself, so it is not beyond the rounded value
        have hz : (PyFloat.read binary64 z).val? = some r := by rwa [hdouble _ hbound]
        have hself : Binary64.rnd r = r := PyFloat.read_representable z r hz
        rw [hself] at hrnd
        rcases hbetween with ⟨hlt, _⟩ | ⟨_, hlt⟩
        · exact absurd hrnd hlt.ne'
        · exact absurd hrnd hlt.ne

end Again

end AtlasConnectors
