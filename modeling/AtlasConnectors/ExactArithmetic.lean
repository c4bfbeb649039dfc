import AtlasConnectors.GeneratorBase
import AtlasConnectors.Registry

/-! What the operations of a runtime denote: with exact rationals, and with any rounding that
keeps amounts. -/
namespace AtlasConnectors

open NumberText

/-- The least draws, with exact arithmetic. -/
def exactDraws : PyRuntime := { leastDraws with fmt := FloatFormat.exact }

/-- Rounding moves an amount by less than half a unit. -/
def FloatFormat.KeepsAmounts (fmt : FloatFormat) : Prop := ∀ q : ℚ, |q| ≤ 2 ^ 20 → |fmt.rnd q - q| < 1 / 2

theorem keepsAmounts_exact : FloatFormat.exact.KeepsAmounts := by
  intro q _
  change |q - q| < 1 / 2
  norm_num

theorem keepsAmounts_binary64 : binary64.KeepsAmounts := by
  intro q hq
  by_cases hz : q = 0
  · have hzero : binary64.rnd 0 = 0 := binary64.rnd_zero
    rw [hz, hzero]
    norm_num
  have hexp : Binary64.ulpExp q ≤ -1 :=
    Binary64.ulpExp_le_of_abs_lt hz (hq.trans_lt (by norm_num)) (by norm_num)
  have hulp : (2 : ℚ) ^ Binary64.ulpExp q ≤ 2 ^ (-1 : ℤ) := zpow_le_zpow_right₀ (by norm_num) hexp
  have hmove : |binary64.rnd q - q| ≤ 1 / 2 * 2 ^ Binary64.ulpExp q := Binary64.abs_rnd_sub_le q
  norm_num at hulp
  linarith

namespace PyFloat

variable {fmt : FloatFormat} {x y : PyFloat} {p q : ℚ}

theorem val?_mul_exact (hx : x.val? = some p) (hy : y.val? = some q) :
    (mul FloatFormat.exact x y).val? = some (p * q) := by
  simp only [mul, hx, hy]
  exact val?_ofSigned rfl

theorem val?_add_exact (hx : x.val? = some p) (hy : y.val? = some q) :
    (add FloatFormat.exact x y).val? = some (p + q) := by
  simp only [add, hx, hy]
  exact val?_ofSigned rfl

theorem val?_ofRat_exact (q : ℚ) : (ofRat FloatFormat.exact q).val? = some q := val?_ofSigned rfl

theorem val?_foldl_add_exact {xs : List PyFloat} {qs : List ℚ}
    (h : List.Forall₂ (fun x q => x.val? = some q) xs qs) {start : PyFloat} {s : ℚ}
    (hstart : start.val? = some s) :
    (xs.foldl (add FloatFormat.exact) start).val? = some (s + qs.sum) := by
  induction h generalizing start s with
  | nil => simpa using hstart
  | cons hx _ ih =>
    rw [List.foldl_cons, List.sum_cons, ← add_assoc]
    exact ih (val?_add_exact hstart hx)

theorem val?_roundPlaces (places : ℕ) (hx : x.val? = some q)
    (hfits : fmt.overflows ((roundHalfEven (q * 10 ^ places) : ℚ) / 10 ^ places) = false) :
    (roundPlaces fmt places x).val? = some (fmt.rnd ((roundHalfEven (q * 10 ^ places) : ℚ) / 10 ^ places)) := by
  cases x with
  | nan => cases hx
  | inf b => cases hx
  | negZero =>
    cases hx
    have hzero : roundHalfEven 0 = 0 := by exact_mod_cast roundHalfEven_intCast 0
    simp [roundPlaces, hzero]
  | num r =>
    cases hx
    exact val?_ofSigned hfits

theorem val?_roundPlaces_exact (places : ℕ) (hx : x.val? = some q) :
    (roundPlaces FloatFormat.exact places x).val? = some ((roundHalfEven (q * 10 ^ places) : ℚ) / 10 ^ places) :=
  val?_roundPlaces places hx rfl

theorem val?_roundCents_exact (hx : x.val? = some q) :
    (roundPlaces FloatFormat.exact 2 x).val? = some (roundCents q) := by
  have h := val?_roundPlaces_exact 2 hx
  norm_num at h
  exact h

end PyFloat

theorem abs_roundCents_le {q : ℚ} {n : ℕ} (hq : |q| ≤ n) : |roundCents q| ≤ n := by
  have hhi := roundCents_mono (show q ≤ ((n : ℤ) : ℚ) by exact_mod_cast (abs_le.mp hq).2)
  have hlo := roundCents_mono (show ((-n : ℤ) : ℚ) ≤ q by exact_mod_cast (abs_le.mp hq).1)
  rw [roundCents_intCast] at hhi hlo
  exact abs_le.mpr ⟨by exact_mod_cast hlo, by exact_mod_cast hhi⟩

namespace PyFloat.Within

variable {fmt : FloatFormat} {x y : PyFloat} {n : ℕ}

theorem pyFloat_money (hx : x.Within n) (hn : n ≤ 2 ^ 53) (h : pyFloat fmt (.str (money x)) = .ok y) :
    y.Within n := by
  obtain ⟨q, hq, hle⟩ := hx
  obtain ⟨s, hs⟩ := readFloat_fixed2 fmt hq
  simp only [pyFloat, money, hs] at h
  cases h
  exact .ofSigned (abs_roundCents_le hle) hn

theorem roundCents (hx : x.Within n) (hn : n ≤ 2 ^ 53) : (roundPlaces fmt 2 x).Within n := by
  obtain ⟨q, hq, hle⟩ := hx
  have hcents : (roundHalfEven (q * 10 ^ 2) : ℚ) / 10 ^ 2 = NumberText.roundCents q := by
    norm_num [NumberText.roundCents]
  have hround := abs_roundCents_le hle
  have hfits := fmt.overflows_eq_false_of_le hround hn
  have hval : (roundPlaces fmt 2 x).val? = some (fmt.rnd ((roundHalfEven (q * 10 ^ 2) : ℚ) / 10 ^ 2)) :=
    val?_roundPlaces 2 hq (by rwa [hcents])
  rw [hcents] at hval
  exact ⟨_, hval, fmt.abs_rnd_le hround hn⟩

theorem foldl_add {k : ℕ} {xs : List PyFloat} (hxs : ∀ y ∈ xs, y.Within k) (hx : x.Within n)
    (hn : n + k * xs.length ≤ 2 ^ 53) : (xs.foldl (PyFloat.add fmt) x).Within (n + k * xs.length : ℕ) := by
  induction xs generalizing x n with
  | nil => simpa using hx
  | cons y ys ih =>
    rw [List.length_cons, Nat.mul_succ, ← Nat.add_assoc, Nat.add_right_comm] at hn ⊢
    have hsum : (PyFloat.add fmt x y).Within (n + k : ℕ) :=
      hx.add (hxs y List.mem_cons_self) le_rfl (le_trans (Nat.le_add_right _ _) hn)
    exact ih (fun z hz => hxs z (List.mem_cons_of_mem y hz)) hsum hn

end PyFloat.Within

theorem val?_pyFloat_money {x value : PyFloat} {q : ℚ} (hx : x.val? = some q)
    (h : pyFloat FloatFormat.exact (.str (money x)) = .ok value) : value.val? = some (roundCents q) := by
  obtain ⟨s, hs⟩ := readFloat_fixed2 FloatFormat.exact hx
  simp only [pyFloat, money, hs] at h
  cases h
  exact PyFloat.val?_ofSigned rfl

end AtlasConnectors
