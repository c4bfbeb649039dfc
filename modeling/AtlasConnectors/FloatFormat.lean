import Mathlib

/-! Floating-point values over exact rationals, for any rounding of finite results.
A format is a rounding function with the laws the arithmetic below needs; exact
rational arithmetic and IEEE binary64 are two instances. -/
namespace AtlasConnectors

/-- Nearest integer, a tie going to the even neighbour. -/
def roundHalfEven (q : ℚ) : ℤ :=
  let k := ⌊q⌋
  if 2 * (q - k) < 1 then k
  else if 1 < 2 * (q - k) then k + 1
  else if k % 2 = 0 then k else k + 1

@[simp] theorem roundHalfEven_intCast (n : ℤ) : roundHalfEven n = n := by
  simp [roundHalfEven]

theorem floor_le_roundHalfEven (q : ℚ) : ⌊q⌋ ≤ roundHalfEven q := by
  unfold roundHalfEven
  dsimp only
  split_ifs <;> omega

theorem roundHalfEven_le_floor_add_one (q : ℚ) : roundHalfEven q ≤ ⌊q⌋ + 1 := by
  unfold roundHalfEven
  dsimp only
  split_ifs <;> omega

theorem roundHalfEven_mono : Monotone roundHalfEven := by
  intro p q hpq
  rcases (Int.floor_mono hpq).lt_or_eq with hlt | heq
  · have hp := roundHalfEven_le_floor_add_one p
    have hq := floor_le_roundHalfEven q
    omega
  · have hfrac : p - ⌊q⌋ ≤ q - ⌊q⌋ := by linarith
    unfold roundHalfEven
    rw [heq]
    dsimp only
    split_ifs <;> first | omega | (exfalso; linarith)

theorem roundHalfEven_nonneg {q : ℚ} (hq : 0 ≤ q) : 0 ≤ roundHalfEven q := by
  have h := roundHalfEven_mono (show ((0 : ℤ) : ℚ) ≤ q by exact_mod_cast hq)
  rwa [roundHalfEven_intCast] at h

theorem floor_neg_of_fract_pos {q : ℚ} (hq : (⌊q⌋ : ℚ) < q) : ⌊-q⌋ = -⌊q⌋ - 1 := by
  apply Int.floor_eq_iff.mpr
  have hlt := Int.lt_floor_add_one q
  push_cast
  constructor <;> linarith

theorem roundHalfEven_neg (q : ℚ) : roundHalfEven (-q) = -roundHalfEven q := by
  rcases (Int.floor_le q).lt_or_eq with hlt | heq
  · have hfloor := floor_neg_of_fract_pos hlt
    unfold roundHalfEven
    rw [hfloor]
    dsimp only
    push_cast
    split_ifs <;> first | omega | (exfalso; linarith)
  · rw [← heq]
    simp only [← Int.cast_neg, roundHalfEven_intCast]

theorem abs_roundHalfEven_sub_le (q : ℚ) : |(roundHalfEven q : ℚ) - q| ≤ 1 / 2 := by
  have hfloor := Int.floor_le q
  have hlt := Int.lt_floor_add_one q
  unfold roundHalfEven
  dsimp only
  rw [abs_le]
  split_ifs <;> constructor <;> push_cast <;> linarith

/-- Values of a floating-point type. A finite value is the rational it denotes;
negative zero keeps the sign that its text shows. -/
inductive PyFloat
  | nan
  | inf (neg : Bool)
  | negZero
  | num (q : ℚ)
  deriving DecidableEq, Repr

/-- The laws of a rounding to nearest with gradual underflow, as far as they are used. -/
structure FloatFormat where
  rnd : ℚ → ℚ
  overflows : ℚ → Bool
  rnd_mono : Monotone rnd
  rnd_idem : ∀ q, rnd (rnd q) = rnd q
  rnd_neg : ∀ q, rnd (-q) = -rnd q
  rnd_int : ∀ n : ℤ, |n| ≤ 2 ^ 53 → rnd n = n
  rnd_sub_pos : ∀ p q, rnd p < rnd q → 0 < rnd (rnd q - rnd p)
  overflows_eq_false : ∀ q : ℚ, |q| ≤ 2 ^ 53 → overflows q = false

namespace PyFloat

/-- The rational a finite value denotes. -/
def val? : PyFloat → Option ℚ
  | num q => some q
  | negZero => some 0
  | _ => none

@[simp] theorem val?_num (q : ℚ) : (num q).val? = some q := rfl
@[simp] theorem val?_negZero : negZero.val? = some 0 := rfl
@[simp] theorem val?_nan : nan.val? = none := rfl
@[simp] theorem val?_inf (b : Bool) : (inf b).val? = none := rfl

def signBit : PyFloat → Bool
  | nan => false
  | inf neg => neg
  | negZero => true
  | num q => decide (q < 0)

/-- The position of a value in the order of Python's comparisons; a NaN has none. -/
def ext? : PyFloat → Option (WithBot (WithTop ℚ))
  | nan => none
  | inf true => some ⊥
  | inf false => some ((⊤ : WithTop ℚ) : WithBot (WithTop ℚ))
  | negZero => some ((0 : WithTop ℚ) : WithBot (WithTop ℚ))
  | num q => some ((q : WithTop ℚ) : WithBot (WithTop ℚ))

theorem ext?_eq_of_val? {x : PyFloat} {q : ℚ} (h : x.val? = some q) :
    x.ext? = some ((q : WithTop ℚ) : WithBot (WithTop ℚ)) := by
  cases x <;> simp_all [val?, ext?]

theorem ext?_eq_none_iff {x : PyFloat} : x.ext? = none ↔ x = nan := by
  cases x with
  | inf neg => cases neg <;> simp [ext?]
  | nan => simp [ext?]
  | negZero => simp [ext?]
  | num q => simp [ext?]

/-- Round an exact result; a result that rounds to zero takes the sign `s`. -/
def ofSigned (fmt : FloatFormat) (s : Bool) (q : ℚ) : PyFloat :=
  if fmt.overflows q then inf (decide (q < 0))
  else if fmt.rnd q = 0 then (if s then negZero else num 0)
  else num (fmt.rnd q)

def ofRat (fmt : FloatFormat) (q : ℚ) : PyFloat := ofSigned fmt (decide (q < 0)) q

/-- A decoded literal in the format; the values of the format are its fixed points. -/
def read (fmt : FloatFormat) : PyFloat → PyFloat
  | num q => ofRat fmt q
  | x => x

def neg : PyFloat → PyFloat
  | nan => nan
  | inf b => inf !b
  | negZero => num 0
  | num q => if q = 0 then negZero else num (-q)

def mul (fmt : FloatFormat) (x y : PyFloat) : PyFloat :=
  match x.val?, y.val? with
  | some p, some q => ofSigned fmt (x.signBit != y.signBit) (p * q)
  | some p, none => if y = nan ∨ p = 0 then nan else inf (x.signBit != y.signBit)
  | none, some q => if x = nan ∨ q = 0 then nan else inf (x.signBit != y.signBit)
  | none, none => if x = nan ∨ y = nan then nan else inf (x.signBit != y.signBit)

def add (fmt : FloatFormat) (x y : PyFloat) : PyFloat :=
  match x.val?, y.val? with
  | some p, some q => ofSigned fmt (if p + q = 0 then x.signBit && y.signBit else decide (p + q < 0)) (p + q)
  | some _, none => y
  | none, some _ => x
  | none, none => if x = y then x else nan

def sub (fmt : FloatFormat) (x y : PyFloat) : PyFloat := add fmt x (neg y)

/-- Division by a positive integer literal. -/
def divBy (fmt : FloatFormat) (x : PyFloat) (n : ℕ) : PyFloat :=
  match x.val? with
  | some p => ofSigned fmt x.signBit (p / n)
  | none => x

/-- `x < y` on floats: false whenever one side is a NaN. -/
def lt (x y : PyFloat) : Bool :=
  match x.ext?, y.ext? with
  | some a, some b => decide (a < b)
  | _, _ => false

def le (x y : PyFloat) : Bool :=
  match x.ext?, y.ext? with
  | some a, some b => decide (a ≤ b)
  | _, _ => false

def Within (b : ℚ) (x : PyFloat) : Prop := ∃ q, x.val? = some q ∧ |q| ≤ b

/-- A finite value of the format, hence a fixed point of its rounding. -/
def Representable (fmt : FloatFormat) (x : PyFloat) : Prop := ∀ q, x.val? = some q → fmt.rnd q = q

end PyFloat

namespace FloatFormat

variable (fmt : FloatFormat)

@[simp] theorem rnd_zero : fmt.rnd 0 = 0 := by
  simpa using fmt.rnd_int 0 (by norm_num)

@[simp] theorem rnd_one : fmt.rnd 1 = 1 := by
  simpa using fmt.rnd_int 1 (by norm_num)

theorem rnd_natCast {n : ℕ} (hn : n ≤ 2 ^ 53) : fmt.rnd n = n := by
  have h := fmt.rnd_int n (by rw [Nat.abs_cast]; exact_mod_cast hn)
  exact_mod_cast h

theorem rnd_nonneg {q : ℚ} (hq : 0 ≤ q) : 0 ≤ fmt.rnd q := by
  simpa using fmt.rnd_mono hq

theorem abs_rnd_le {q : ℚ} {n : ℕ} (hq : |q| ≤ n) (hn : n ≤ 2 ^ 53) : |fmt.rnd q| ≤ n := by
  have hhi := fmt.rnd_mono (abs_le.mp hq).2
  have hlo := fmt.rnd_mono (abs_le.mp hq).1
  rw [fmt.rnd_natCast hn] at hhi
  rw [fmt.rnd_neg, fmt.rnd_natCast hn] at hlo
  exact abs_le.mpr ⟨hlo, hhi⟩

theorem overflows_eq_false_of_le {q : ℚ} {n : ℕ} (hq : |q| ≤ n) (hn : n ≤ 2 ^ 53) :
    fmt.overflows q = false :=
  fmt.overflows_eq_false q (hq.trans (by exact_mod_cast hn))

theorem rnd_two_mul_pos {q : ℚ} (hq : 0 < q) (hr : fmt.rnd q = q) : 0 < fmt.rnd (2 * q) := by
  have h := fmt.rnd_mono (show q ≤ 2 * q by linarith)
  rw [hr] at h
  linarith

/-- Exact rational arithmetic: nothing is rounded and nothing overflows. -/
def exact : FloatFormat where
  rnd := id
  overflows := fun _ => false
  rnd_mono := monotone_id
  rnd_idem := fun _ => rfl
  rnd_neg := fun _ => rfl
  rnd_int := fun _ _ => rfl
  rnd_sub_pos := fun _ _ h => sub_pos.mpr h
  overflows_eq_false := fun _ _ => rfl

end FloatFormat

namespace PyFloat

variable {fmt : FloatFormat}

theorem val?_ofSigned {s : Bool} {q : ℚ} (h : fmt.overflows q = false) :
    (ofSigned fmt s q).val? = some (fmt.rnd q) := by
  unfold ofSigned
  rw [h]
  by_cases hz : fmt.rnd q = 0
  · cases s <;> simp [hz]
  · simp [hz]

theorem ofSigned_ne_nan (s : Bool) (q : ℚ) : ofSigned fmt s q ≠ nan := by
  unfold ofSigned
  split_ifs <;> simp

theorem ofSigned_representable (s : Bool) (q : ℚ) : Representable fmt (ofSigned fmt s q) := by
  intro r hr
  by_cases ho : fmt.overflows q = false
  · rw [val?_ofSigned ho] at hr
    cases hr
    exact fmt.rnd_idem q
  · simp [ofSigned, ho] at hr

theorem read_representable (x : PyFloat) : Representable fmt (read fmt x) := by
  cases x with
  | num q => exact ofSigned_representable _ q
  | nan => simp [Representable, read]
  | inf neg => simp [Representable, read]
  | negZero =>
    intro q hq
    cases hq
    exact fmt.rnd_zero

@[simp] theorem read_eq_nan_iff {x : PyFloat} : read fmt x = nan ↔ x = nan := by
  cases x <;> simp [read, ofRat, ofSigned_ne_nan]

theorem Within.ofSigned {s : Bool} {q : ℚ} {n : ℕ} (hq : |q| ≤ n) (hn : n ≤ 2 ^ 53) :
    Within n (ofSigned fmt s q) :=
  ⟨_, val?_ofSigned (fmt.overflows_eq_false_of_le hq hn), fmt.abs_rnd_le hq hn⟩

theorem Within.num {b q : ℚ} (hq : |q| ≤ b) : Within b (num q) := ⟨q, rfl, hq⟩

theorem Within.mono {a b : ℚ} {x : PyFloat} (hx : Within a x) (hab : a ≤ b) : Within b x := by
  obtain ⟨q, hq, hqa⟩ := hx
  exact ⟨q, hq, hqa.trans hab⟩

theorem Within.of_mem {lo hi : ℤ} {q : ℚ} {x : PyFloat} {n : ℕ} (hx : x.val? = some q)
    (hlo : (lo : ℚ) ≤ q) (hhi : q ≤ hi) (hn : lo.natAbs ≤ n ∧ hi.natAbs ≤ n) : Within n x := by
  refine ⟨q, hx, abs_le.mpr ⟨?_, ?_⟩⟩
  · have h : (-(n : ℤ) : ℤ) ≤ lo := by omega
    have h' : (-(n : ℚ)) ≤ (lo : ℚ) := by exact_mod_cast h
    linarith
  · have h : hi ≤ (n : ℤ) := by omega
    have h' : (hi : ℚ) ≤ (n : ℚ) := by exact_mod_cast h
    linarith

theorem val?_neg {x : PyFloat} {q : ℚ} (h : x.val? = some q) : x.neg.val? = some (-q) := by
  cases x with
  | nan => cases h
  | inf b => cases h
  | negZero =>
    cases h
    rfl
  | num r =>
    cases h
    by_cases hz : q = 0
    · simp [neg, hz]
    · simp [neg, hz]

theorem Within.neg {b : ℚ} {x : PyFloat} (hx : Within b x) : Within b x.neg := by
  obtain ⟨q, hq, hqb⟩ := hx
  cases x with
  | nan => simp at hq
  | inf s => simp at hq
  | negZero =>
    cases hq
    exact ⟨0, rfl, hqb⟩
  | num p =>
    cases hq
    by_cases hz : q = 0
    · exact ⟨0, by simp [PyFloat.neg, hz], by simpa [hz] using hqb⟩
    · exact ⟨-q, by simp [PyFloat.neg, hz], by rwa [abs_neg]⟩

theorem Within.mul {a b n : ℕ} {x y : PyFloat} (hx : Within a x) (hy : Within b y)
    (hab : a * b ≤ n) (hn : n ≤ 2 ^ 53) : Within n (mul fmt x y) := by
  obtain ⟨p, hp, hpa⟩ := hx
  obtain ⟨q, hq, hqb⟩ := hy
  have hpq : |p * q| ≤ (n : ℚ) := by
    rw [abs_mul]
    have h := mul_le_mul hpa hqb (abs_nonneg q) (Nat.cast_nonneg a)
    have hab' : ((a : ℚ) * b) ≤ n := by exact_mod_cast hab
    exact h.trans hab'
  simp only [PyFloat.mul, hp, hq]
  exact Within.ofSigned hpq hn

theorem Within.add {a b n : ℕ} {x y : PyFloat} (hx : Within a x) (hy : Within b y)
    (hab : a + b ≤ n) (hn : n ≤ 2 ^ 53) : Within n (add fmt x y) := by
  obtain ⟨p, hp, hpa⟩ := hx
  obtain ⟨q, hq, hqb⟩ := hy
  have hpq : |p + q| ≤ (n : ℚ) := by
    have hab' : ((a : ℚ) + b) ≤ n := by exact_mod_cast hab
    exact (abs_add_le p q).trans ((add_le_add hpa hqb).trans hab')
  simp only [PyFloat.add, hp, hq]
  exact Within.ofSigned hpq hn

theorem Within.sub {a b n : ℕ} {x y : PyFloat} (hx : Within a x) (hy : Within b y)
    (hab : a + b ≤ n) (hn : n ≤ 2 ^ 53) : Within n (sub fmt x y) :=
  hx.add hy.neg hab hn

theorem Within.divBy {a : ℕ} {x : PyFloat} {n : ℕ} (hx : Within a x) (hn : 1 ≤ n)
    (ha : a ≤ 2 ^ 53) : Within a (divBy fmt x n) := by
  obtain ⟨p, hp, hpa⟩ := hx
  have hn' : (1 : ℚ) ≤ n := by exact_mod_cast hn
  have hpn : |p / n| ≤ (a : ℚ) := by
    rw [abs_div, Nat.abs_cast]
    exact (div_le_self (abs_nonneg p) hn').trans hpa
  simp only [PyFloat.divBy, hp]
  exact Within.ofSigned hpn ha

@[simp] theorem neg_nan : neg nan = nan := rfl

@[simp] theorem mul_nan_left (y : PyFloat) : mul fmt nan y = nan := by
  cases h : y.val? <;> simp [mul, h]

@[simp] theorem mul_nan_right (x : PyFloat) : mul fmt x nan = nan := by
  cases h : x.val? <;> simp [mul, h]

@[simp] theorem add_nan_left (y : PyFloat) : add fmt nan y = nan := by
  cases h : y.val? <;> simp [add, h]

@[simp] theorem add_nan_right (x : PyFloat) : add fmt x nan = nan := by
  cases h : x.val? <;> simp [add, h]

@[simp] theorem lt_nan_left (y : PyFloat) : lt nan y = false := by
  simp [lt, ext?]

@[simp] theorem lt_nan_right (x : PyFloat) : lt x nan = false := by
  cases x.ext? <;> simp [lt, ext?]

theorem val?_eq_of_ofSigned {s : Bool} {q r : ℚ} (h : (ofSigned fmt s q).val? = some r) : r = fmt.rnd q := by
  cases ho : fmt.overflows q with
  | false =>
    rw [val?_ofSigned ho] at h
    exact (Option.some.inj h).symm
  | true => simp [ofSigned, ho] at h

def NonNeg (x : PyFloat) : Prop := ∃ q, x.val? = some q ∧ 0 ≤ q

theorem NonNeg.num {q : ℚ} (hq : 0 ≤ q) : NonNeg (num q) := ⟨q, rfl, hq⟩

theorem NonNeg.mul {x y : PyFloat} (hx : NonNeg x) (hy : NonNeg y) {b : ℚ}
    (hfin : (PyFloat.mul fmt x y).Within b) : NonNeg (PyFloat.mul fmt x y) := by
  obtain ⟨p, hp, hp0⟩ := hx
  obtain ⟨q, hq, hq0⟩ := hy
  obtain ⟨r, hr, _⟩ := hfin
  refine ⟨r, hr, ?_⟩
  simp only [PyFloat.mul, hp, hq] at hr
  rw [val?_eq_of_ofSigned hr]
  exact fmt.rnd_nonneg (mul_nonneg hp0 hq0)

theorem NonNeg.add {x y : PyFloat} {p q : ℚ} (hp : x.val? = some p) (hq : y.val? = some q)
    (hpq : 0 ≤ p + q) {b : ℚ} (hfin : (PyFloat.add fmt x y).Within b) : NonNeg (PyFloat.add fmt x y) := by
  obtain ⟨r, hr, _⟩ := hfin
  refine ⟨r, hr, ?_⟩
  simp only [PyFloat.add, hp, hq] at hr
  rw [val?_eq_of_ofSigned hr]
  exact fmt.rnd_nonneg hpq

theorem lt_of_val? {x y : PyFloat} {p q : ℚ} (hx : x.val? = some p) (hy : y.val? = some q) :
    lt x y = decide (p < q) := by
  simp [lt, ext?_eq_of_val? hx, ext?_eq_of_val? hy]

theorem le_eq_of_val? {x y : PyFloat} {p q : ℚ} (hx : x.val? = some p) (hy : y.val? = some q) :
    le x y = decide (p ≤ q) := by
  simp [le, ext?_eq_of_val? hx, ext?_eq_of_val? hy]

end PyFloat

end AtlasConnectors
