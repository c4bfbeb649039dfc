import AtlasConnectors.FloatFormat

/-! IEEE 754 binary64, rounding to nearest with ties to even and gradual underflow,
as an instance of `FloatFormat`. -/
namespace AtlasConnectors
namespace Binary64

/-- Exponent of the last place at the magnitude of `q`. -/
def ulpExp (q : ℚ) : ℤ := max (Int.log 2 |q| - 52) (-1074)

def rnd (q : ℚ) : ℚ := roundHalfEven (q / 2 ^ ulpExp q) * 2 ^ ulpExp q

def overflows (q : ℚ) : Bool := decide (2 ^ 1024 ≤ |rnd q|)

@[simp] theorem ulpExp_neg (q : ℚ) : ulpExp (-q) = ulpExp q := by
  simp [ulpExp]

theorem min_le_ulpExp (q : ℚ) : -1074 ≤ ulpExp q := le_max_right _ _

theorem two_zpow_pos (e : ℤ) : (0 : ℚ) < 2 ^ e := zpow_pos (by norm_num) e

theorem grid_refine (k : ℤ) {d e : ℤ} (hde : d ≤ e) :
    (k : ℚ) * 2 ^ e = ((k * 2 ^ (e - d).toNat : ℤ) : ℚ) * 2 ^ d := by
  have hexp : e = ((e - d).toNat : ℤ) + d := by omega
  push_cast
  rw [mul_assoc, ← zpow_natCast, ← zpow_add₀ (by norm_num : (2 : ℚ) ≠ 0), ← hexp]

theorem rnd_le_grid {q : ℚ} {k e : ℤ} (hq : q ≤ k * 2 ^ e) (he : ulpExp q ≤ e) :
    rnd q ≤ k * 2 ^ e := by
  have hpos := two_zpow_pos (ulpExp q)
  rw [grid_refine k he] at hq ⊢
  have hdiv := (div_le_iff₀ hpos).mpr hq
  have hround := roundHalfEven_mono hdiv
  rw [roundHalfEven_intCast] at hround
  have hround' : (roundHalfEven (q / 2 ^ ulpExp q) : ℚ) ≤ ((k * 2 ^ (e - ulpExp q).toNat : ℤ) : ℚ) := by
    exact_mod_cast hround
  exact mul_le_mul_of_nonneg_right hround' hpos.le

theorem grid_le_rnd {q : ℚ} {k e : ℤ} (hq : k * 2 ^ e ≤ q) (he : ulpExp q ≤ e) :
    k * 2 ^ e ≤ rnd q := by
  have hpos := two_zpow_pos (ulpExp q)
  rw [grid_refine k he] at hq ⊢
  have hdiv := (le_div_iff₀ hpos).mpr hq
  have hround := roundHalfEven_mono hdiv
  rw [roundHalfEven_intCast] at hround
  have hround' : ((k * 2 ^ (e - ulpExp q).toNat : ℤ) : ℚ) ≤ (roundHalfEven (q / 2 ^ ulpExp q) : ℚ) := by
    exact_mod_cast hround
  exact mul_le_mul_of_nonneg_right hround' hpos.le

theorem rnd_grid {q : ℚ} {k e : ℤ} (hq : q = k * 2 ^ e) (he : ulpExp q ≤ e) : rnd q = q := by
  have hle := rnd_le_grid hq.le he
  have hge := grid_le_rnd hq.ge he
  linarith

theorem rnd_neg (q : ℚ) : rnd (-q) = -rnd q := by
  simp [rnd, neg_div, roundHalfEven_neg]

theorem rnd_zero : rnd 0 = 0 := rnd_grid (k := 0) (e := ulpExp 0) (by simp) le_rfl

theorem rnd_nonneg {q : ℚ} (hq : 0 ≤ q) : 0 ≤ rnd q := by
  have h := grid_le_rnd (q := q) (k := 0) (e := ulpExp q) (by simpa using hq) le_rfl
  simpa using h

theorem lt_two_zpow_log (q : ℚ) : |q| < 2 ^ (Int.log 2 |q| + 1) := by
  simpa using Int.lt_zpow_succ_log_self (b := 2) (by norm_num) |q|

theorem two_zpow_log_le {q : ℚ} (hq : q ≠ 0) : 2 ^ Int.log 2 |q| ≤ |q| := by
  simpa using Int.zpow_log_le_self (b := 2) (by norm_num) (abs_pos.mpr hq)

theorem abs_lt_two_zpow_ulpExp (q : ℚ) : |q| < 2 ^ (ulpExp q + 53) := by
  refine (lt_two_zpow_log q).trans_le (zpow_le_zpow_right₀ (by norm_num) ?_)
  have h := le_max_left (Int.log 2 |q| - 52) (-1074)
  unfold ulpExp
  omega

theorem ulpExp_le_of_abs_lt {q : ℚ} {e : ℤ} (hz : q ≠ 0) (hq : |q| < 2 ^ (e + 53))
    (he : -1074 ≤ e) : ulpExp q ≤ e := by
  have hlog : Int.log 2 |q| < e + 53 := by
    have h := (two_zpow_log_le hz).trans_lt hq
    exact (zpow_lt_zpow_iff_right₀ (by norm_num)).mp h
  unfold ulpExp
  omega

theorem rnd_mono_of_nonneg {p q : ℚ} (hp : 0 ≤ p) (hpq : p ≤ q) : rnd p ≤ rnd q := by
  rcases hp.eq_or_lt with rfl | hpos
  · rw [rnd_zero]
    exact rnd_nonneg hpq
  have hqpos : 0 < q := hpos.trans_le hpq
  have hlog : Int.log 2 |p| ≤ Int.log 2 |q| := by
    rw [abs_of_pos hpos, abs_of_pos hqpos]
    exact Int.log_mono_right hpos hpq
  have hexp : ulpExp p ≤ ulpExp q := max_le_max_right _ (by omega)
  rcases hexp.eq_or_lt with heq | hlt
  · have hdiv : p / 2 ^ ulpExp q ≤ q / 2 ^ ulpExp q :=
      div_le_div_of_nonneg_right hpq (two_zpow_pos _).le
    have hround : (roundHalfEven (p / 2 ^ ulpExp q) : ℚ) ≤ roundHalfEven (q / 2 ^ ulpExp q) := by
      exact_mod_cast roundHalfEven_mono hdiv
    unfold rnd
    rw [heq]
    exact mul_le_mul_of_nonneg_right hround (two_zpow_pos _).le
  · -- the power of two at the foot of the binade of `q` separates the two results
    have hq52 : ulpExp q = Int.log 2 |q| - 52 := by
      have h := min_le_ulpExp p
      unfold ulpExp at hlt h ⊢
      omega
    have hplog : Int.log 2 |p| + 1 ≤ Int.log 2 |q| := by
      have h := le_max_left (Int.log 2 |p| - 52) (-1074)
      unfold ulpExp at hlt hq52
      omega
    have hp' : p ≤ (1 : ℤ) * 2 ^ Int.log 2 |q| := by
      have h := (lt_two_zpow_log p).le.trans (zpow_le_zpow_right₀ (by norm_num : (1 : ℚ) ≤ 2) hplog)
      rw [abs_of_pos hpos] at h
      simpa [abs_of_pos hpos] using h
    have hq' : (1 : ℤ) * 2 ^ Int.log 2 |q| ≤ q := by
      have h := two_zpow_log_le hqpos.ne'
      rw [abs_of_pos hqpos] at h
      simpa [abs_of_pos hqpos] using h
    exact (rnd_le_grid hp' (by omega)).trans (grid_le_rnd hq' (by omega))

theorem rnd_mono : Monotone rnd := by
  intro p q hpq
  rcases le_total 0 p with hp | hp
  · exact rnd_mono_of_nonneg hp hpq
  · rcases le_total 0 q with hq | hq
    · have h := rnd_nonneg (neg_nonneg.mpr hp)
      rw [rnd_neg] at h
      linarith [rnd_nonneg hq]
    · have h := rnd_mono_of_nonneg (neg_nonneg.mpr hq) (neg_le_neg hpq)
      rw [rnd_neg, rnd_neg] at h
      linarith

/-- A result of rounding has at most 53 significant bits, so it is rounded to itself. -/
theorem rnd_idem_of_nonneg {q : ℚ} (hq : 0 ≤ q) : rnd (rnd q) = rnd q := by
  rcases eq_or_ne (rnd q) 0 with hz | hz
  · rw [hz, rnd_zero]
  have habs : q < 2 ^ (ulpExp q + 53) := by
    simpa [abs_of_nonneg hq] using abs_lt_two_zpow_ulpExp q
  have hle : rnd q ≤ (1 : ℤ) * 2 ^ (ulpExp q + 53) :=
    rnd_le_grid (by simpa using habs.le) (by omega)
  have hmin := min_le_ulpExp q
  rcases hle.lt_or_eq with hlt | heq
  · refine rnd_grid (k := roundHalfEven (q / 2 ^ ulpExp q)) (e := ulpExp q) rfl ?_
    exact ulpExp_le_of_abs_lt hz (by simpa [abs_of_nonneg (rnd_nonneg hq)] using hlt) hmin
  · refine rnd_grid heq (ulpExp_le_of_abs_lt hz ?_ (by omega))
    rw [abs_of_nonneg (rnd_nonneg hq), heq, Int.cast_one, one_mul]
    exact zpow_lt_zpow_right₀ (by norm_num) (by omega)

theorem rnd_idem (q : ℚ) : rnd (rnd q) = rnd q := by
  rcases le_total 0 q with hq | hq
  · exact rnd_idem_of_nonneg hq
  · have h := rnd_idem_of_nonneg (neg_nonneg.mpr hq)
    rwa [rnd_neg, rnd_neg, neg_inj] at h

theorem rnd_int (n : ℤ) (hn : |n| ≤ 2 ^ 53) : rnd n = n := by
  rcases eq_or_ne n 0 with rfl | hz
  · simpa using rnd_zero
  have hz' : (n : ℚ) ≠ 0 := by exact_mod_cast hz
  rcases hn.lt_or_eq with hlt | heq
  · refine rnd_grid (k := n) (e := 0) (by simp) (ulpExp_le_of_abs_lt hz' ?_ (by norm_num))
    have h : ((|n| : ℤ) : ℚ) < ((2 ^ 53 : ℤ) : ℚ) := by exact_mod_cast hlt
    rw [Int.cast_abs] at h
    norm_num at h ⊢
    exact h
  · refine rnd_grid (k := n / 2) (e := 1) ?_ (ulpExp_le_of_abs_lt hz' ?_ (by norm_num))
    · have h2 : n = n / 2 * 2 := by
        rcases (abs_eq (by norm_num)).mp heq with h | h <;> omega
      have h2' : (n : ℚ) = ((n / 2 * 2 : ℤ) : ℚ) := by rw [← h2]
      rw [h2']
      push_cast
      simp
    · have h : ((|n| : ℤ) : ℚ) = ((2 ^ 53 : ℤ) : ℚ) := by rw [heq]
      rw [Int.cast_abs] at h
      rw [h]
      norm_num

theorem rnd_mul_two_pow {q : ℚ} (hq : rnd q = q) (i : ℕ) : rnd (q * 2 ^ i) = q * 2 ^ i := by
  by_cases hz : q = 0
  · rw [hz, zero_mul, rnd_zero]
  have hpos : (0 : ℚ) < 2 ^ i := pow_pos (by norm_num) i
  have hmin := min_le_ulpExp q
  refine rnd_grid (k := roundHalfEven (q / 2 ^ ulpExp q)) (e := ulpExp q + i) ?_
    (ulpExp_le_of_abs_lt (mul_ne_zero hz hpos.ne') ?_ (by omega))
  · rw [zpow_add₀ (by norm_num), zpow_natCast, ← mul_assoc]
    exact congrArg (· * (2 : ℚ) ^ i) hq.symm
  · have hexp : ulpExp q + i + 53 = ulpExp q + 53 + i := by omega
    rw [abs_mul, abs_of_pos hpos, hexp, zpow_add₀ (by norm_num) (ulpExp q + 53), zpow_natCast]
    exact mul_lt_mul_of_pos_right (abs_lt_two_zpow_ulpExp q) hpos

theorem exists_grid (q : ℚ) : ∃ k : ℤ, rnd q = k * 2 ^ (-1074 : ℤ) :=
  ⟨_, grid_refine (roundHalfEven (q / 2 ^ ulpExp q)) (min_le_ulpExp q)⟩

theorem rnd_sub_pos (p q : ℚ) (hpq : rnd p < rnd q) : 0 < rnd (rnd q - rnd p) := by
  obtain ⟨j, hj⟩ := exists_grid p
  obtain ⟨k, hk⟩ := exists_grid q
  have hpos := two_zpow_pos (-1074)
  have hjk : j < k := by
    rw [hj, hk] at hpq
    exact_mod_cast lt_of_mul_lt_mul_right hpq hpos.le
  have hone : (1 : ℚ) ≤ ((k - j : ℤ) : ℚ) := by exact_mod_cast (by omega : 1 ≤ k - j)
  have hdiff : (2 : ℚ) ^ (-1074 : ℤ) ≤ rnd q - rnd p := by
    rw [hj, hk, ← sub_mul, ← Int.cast_sub]
    exact le_mul_of_one_le_left hpos.le hone
  have hmin : rnd (2 ^ (-1074 : ℤ)) = 2 ^ (-1074 : ℤ) := by
    refine rnd_grid (k := 1) (e := -1074) (by simp) (ulpExp_le_of_abs_lt hpos.ne' ?_ le_rfl)
    rw [abs_of_pos hpos]
    exact zpow_lt_zpow_right₀ (by norm_num) (by norm_num)
  have hround := rnd_mono hdiff
  rw [hmin] at hround
  exact hpos.trans_le hround

theorem overflows_eq_false (q : ℚ) (hq : |q| ≤ 2 ^ 53) : overflows q = false := by
  have hint : rnd (2 ^ 53) = 2 ^ 53 := by
    have h := rnd_int (2 ^ 53) (by norm_num)
    push_cast at h
    exact h
  have hhi := rnd_mono (abs_le.mp hq).2
  have hlo := rnd_mono (abs_le.mp hq).1
  rw [hint] at hhi
  rw [rnd_neg, hint] at hlo
  have habs : |rnd q| ≤ 2 ^ 53 := abs_le.mpr ⟨hlo, hhi⟩
  have hlt : |rnd q| < 2 ^ 1024 := habs.trans_lt (pow_lt_pow_right₀ (by norm_num) (by norm_num))
  simpa [overflows] using hlt

theorem overflows_congr {p q : ℚ} (h : rnd p = rnd q) : overflows p = overflows q := by
  rw [overflows, overflows, h]

theorem rnd_between {p q : ℚ} (h : (rnd q ≤ p ∧ p ≤ q) ∨ (q ≤ p ∧ p ≤ rnd q)) : rnd p = rnd q := by
  rcases h with ⟨hlow, hhigh⟩ | ⟨hlow, hhigh⟩
  · exact le_antisymm (rnd_mono hhigh) (by simpa only [rnd_idem] using rnd_mono hlow)
  · exact le_antisymm (by simpa only [rnd_idem] using rnd_mono hhigh) (rnd_mono hlow)

theorem abs_rnd_sub_le (q : ℚ) : |rnd q - q| ≤ 1 / 2 * 2 ^ ulpExp q := by
  have hpos := two_zpow_pos (ulpExp q)
  have hfactor : rnd q - q = ((roundHalfEven (q / 2 ^ ulpExp q) : ℚ) - q / 2 ^ ulpExp q) * 2 ^ ulpExp q := by
    rw [sub_mul, div_mul_cancel₀ q hpos.ne']
    rfl
  rw [hfactor, abs_mul, abs_of_pos hpos]
  exact mul_le_mul_of_nonneg_right (abs_roundHalfEven_sub_le _) hpos.le

theorem rnd_neg_iff {q : ℚ} (h : rnd q ≠ 0) : rnd q < 0 ↔ q < 0 := by
  constructor
  · intro hneg
    by_contra hq
    exact absurd (rnd_nonneg (not_lt.mp hq)) (not_le.mpr hneg)
  · intro hq
    have hmono := rnd_mono hq.le
    rw [rnd_zero] at hmono
    exact lt_of_le_of_ne hmono h

theorem rnd_intCast_eq_zero {n : ℤ} (h : rnd n = 0) : n = 0 := by
  have hone : rnd 1 = 1 := by exact_mod_cast rnd_int 1 (by norm_num)
  by_contra hne
  rcases lt_or_gt_of_ne hne with hneg | hpos
  · have hmono := rnd_mono (show (n : ℚ) ≤ -1 by exact_mod_cast Int.le_sub_one_of_lt hneg)
    rw [h, rnd_neg, hone] at hmono
    linarith
  · have hmono := rnd_mono (show (1 : ℚ) ≤ n by exact_mod_cast hpos)
    rw [h, hone] at hmono
    linarith

end Binary64

/-- The arithmetic of Python's `float`. -/
def binary64 : FloatFormat where
  rnd := Binary64.rnd
  overflows := Binary64.overflows
  rnd_mono := Binary64.rnd_mono
  rnd_idem := Binary64.rnd_idem
  rnd_neg := Binary64.rnd_neg
  rnd_int := Binary64.rnd_int
  rnd_sub_pos := Binary64.rnd_sub_pos
  overflows_eq_false := Binary64.overflows_eq_false

theorem PyFloat.read_ofSigned (s : Bool) (q : ℚ) :
    (PyFloat.ofSigned binary64 s q).read binary64 = PyFloat.ofSigned binary64 s q := by
  have hrnd : binary64.rnd (binary64.rnd q) = binary64.rnd q := Binary64.rnd_idem q
  have hover : binary64.overflows (binary64.rnd q) = binary64.overflows q :=
    Binary64.overflows_congr (Binary64.rnd_idem q)
  unfold PyFloat.ofSigned
  split_ifs with hoverflows hzero hs
  · rfl
  · rfl
  · simp [PyFloat.read, PyFloat.ofRat, PyFloat.ofSigned, ← hzero, hover, hoverflows, hrnd]
  · simp [PyFloat.read, PyFloat.ofRat, PyFloat.ofSigned, hover, hoverflows, hrnd, hzero]

end AtlasConnectors
