import AtlasConnectors.Binary64
import AtlasConnectors.Runtime

/-! Retrying with exponential backoff: the calls and sleeps of every run, and when a delay can be
computed and slept. -/
namespace AtlasConnectors
namespace Backoff

/-- What escapes a run: an exception of the function that is called, or one of the code around it. -/
inductive Escaped (ε : Type)
  | fn (e : ε)
  | around (e : PyExc)

inductive Event
  | call
  | sleep (seconds : PyFloat)

/-- What a run does, and its outcome. -/
abbrev Run (ε α : Type) := List Event × Except (Escaped ε) α

abbrev Draw := {u : ℚ // 0 ≤ u ∧ u < 1}

/-- `random.uniform(a, b)`, which is `a + (b - a) * random()`. -/
def uniform (a b : PyFloat) (u : Draw) : PyFloat :=
  .add binary64 a (.mul binary64 (.sub binary64 b a) (.num u.1))

/-- `time.sleep(seconds)`: what it refuses. The nanoseconds have to fit 64 bits. -/
def pySleep (seconds : PyFloat) : Except PyExc Unit :=
  let nanoseconds := PyFloat.mul binary64 seconds (.num (10 ^ 9))
  if seconds = .nan then .error (.valueError "Invalid value NaN (not a number)")
  else if PyFloat.le (.num (-2 ^ 63)) nanoseconds && PyFloat.lt nanoseconds (.num (2 ^ 63)) then
    if PyFloat.lt seconds (.num 0) then .error (.valueError "sleep length must be non-negative") else .ok ()
  else .error .overflowError

/-- `min(max_delay_s, base_delay_s * (2**attempt))`. -/
def delay (base_delay_s max_delay_s : PyFloat) (attempt : ℕ) : Except PyExc PyFloat := do
  let factor ← pyFloat binary64 (.int (2 ^ attempt))
  let grown := PyFloat.mul binary64 base_delay_s factor
  .ok (if PyFloat.lt grown max_delay_s then grown else max_delay_s)

def pause (base_delay_s max_delay_s : PyFloat) (attempt : ℕ) (u : Draw) : Except PyExc PyFloat := do
  let delay ← delay base_delay_s max_delay_s attempt
  let seconds := uniform (.num 0) delay u
  pySleep seconds
  pure seconds

variable {ε α : Type}

section Source

variable (fn : ℕ → Except ε α) (retryable : ε → Bool) (attempts : ℤ)

/-- The rounds that are left of the loop, from `attempt` on; `fn` is known by the outcome of each call,
and `pauseAt` sleeps after an attempt. -/
def rounds (pauseAt : ℕ → Except PyExc PyFloat) : ℕ → ℕ → Option ε → Run ε α
  | 0, _, some last => ([], .error (.fn last))
  | 0, _, none => ([], .error (.around (.other "AssertionError")))
  | left + 1, attempt, _ =>
    match fn attempt with
    | .ok a => ([.call], .ok a)
    | .error e =>
      if retryable e then
        if (attempt : ℤ) = attempts - 1 then ([.call], .error (.fn e))
        else
          match pauseAt attempt with
          | .error exc => ([.call], .error (.around exc))
          | .ok seconds =>
            let rest := rounds pauseAt left (attempt + 1) (some e)
            (.call :: .sleep seconds :: rest.1, rest.2)
      else ([.call], .error (.fn e))

def with_backoff (base_delay_s max_delay_s : PyFloat) (draws : ℕ → Draw) : Run ε α :=
  rounds fn retryable attempts (fun attempt => pause base_delay_s max_delay_s attempt (draws attempt))
    attempts.toNat 0 none

end Source

abbrev Seconds := {x : PyFloat // x.read binary64 = x ∧ PyFloat.lt (.num 0) x = true}

def Retried (fn : ℕ → Except ε α) (retryable : ε → Bool) (attempt : ℕ) : Prop :=
  ∃ e, fn attempt = .error e ∧ retryable e = true

def Bounded (base_delay_s max_delay_s : PyFloat) (attempt : ℕ) (seconds : PyFloat) : Prop :=
  ∃ q, seconds.val? = some q ∧ 0 ≤ q ∧ (∀ m, max_delay_s.val? = some m → q ≤ m) ∧
    ∀ c, base_delay_s.val? = some c → q ≤ c * 2 ^ attempt

/-- A run from the attempt `first` on with these sleeps: a call after each of them, and one call before. -/
structure Specified (fn : ℕ → Except ε α) (retryable : ε → Bool) (attempts : ℤ)
    (base_delay_s max_delay_s : PyFloat) (first : ℕ) (sleeps : List PyFloat) (run : Run ε α) : Prop where
  events : run.1 = sleeps.flatMap (fun seconds => [.call, .sleep seconds]) ++ [.call]
  result : run.2 = (fn (first + sleeps.length)).mapError .fn
  count : (first : ℤ) + sleeps.length + 1 ≤ attempts
  retried : ∀ i < sleeps.length, Retried fn retryable (first + i)
  last : ¬Retried fn retryable (first + sleeps.length) ∨ (first : ℤ) + sleeps.length + 1 = attempts
  bounded : ∀ (i : ℕ) seconds, sleeps[i]? = some seconds → Bounded base_delay_s max_delay_s (first + i) seconds

/-- The lesser of `max_delay_s` and `base_delay_s * 2^attempt`, unless it is infinite. -/
def finiteDelay (base_delay_s max_delay_s : PyFloat) (attempt : ℕ) : Option ℚ :=
  match max_delay_s.val?, base_delay_s.val? with
  | some m, some c => some (min m (c * 2 ^ attempt))
  | some m, none => some m
  | none, some c => if c * 2 ^ attempt < 2 ^ 1024 then some (c * 2 ^ attempt) else none
  | none, none => none

/-- The power of two has a float, and the part of the delay that is drawn is finite and less than
2^63 nanoseconds. -/
def CanSleep (base_delay_s max_delay_s : PyFloat) (attempt : ℕ) (u : Draw) : Prop :=
  attempt < 1024 ∧ ∃ q, finiteDelay base_delay_s max_delay_s attempt = some q ∧
    Binary64.rnd (q * u.1) * 10 ^ 9 < 2 ^ 63

structure Double (q : ℚ) : Prop where
  pos : 0 < q
  rnd_eq : Binary64.rnd q = q
  lt : q < 2 ^ 1024

theorem seconds_cases (x : Seconds) : x.1 = .inf false ∨ ∃ q, x.1 = .num q ∧ Double q := by
  obtain ⟨x, hread, hpos⟩ := x
  cases x with
  | nan => cases hpos
  | negZero => cases hpos
  | inf neg =>
    cases neg with
    | true => cases hpos
    | false => exact Or.inl rfl
  | num q =>
    rw [PyFloat.lt_of_val? (PyFloat.val?_num 0) (PyFloat.val?_num q), decide_eq_true_iff] at hpos
    have hval : (PyFloat.read binary64 (.num q)).val? = some q := by rw [hread]; rfl
    have hrnd : Binary64.rnd q = q := (PyFloat.val?_eq_of_ofSigned hval).symm
    have hoverflows : binary64.overflows q = false := by
      cases ho : binary64.overflows q with
      | false => rfl
      | true =>
        rw [PyFloat.read, PyFloat.ofRat, PyFloat.ofSigned, if_pos ho] at hval
        cases hval
    refine Or.inr ⟨q, rfl, hpos, hrnd, ?_⟩
    have hlt : ¬2 ^ 1024 ≤ |Binary64.rnd q| := of_decide_eq_false hoverflows
    rw [hrnd, abs_of_pos hpos] at hlt
    exact not_le.mp hlt

theorem ofSigned_double {s : Bool} {q : ℚ} (h : Double q) : PyFloat.ofSigned binary64 s q = .num q := by
  have hoverflows : binary64.overflows q = false := by
    apply decide_eq_false
    rw [h.rnd_eq, abs_of_pos h.pos]
    exact not_le.mpr h.lt
  have hrnd : binary64.rnd q = q := h.rnd_eq
  rw [PyFloat.ofSigned, hoverflows, hrnd, if_neg (by simp), if_neg h.pos.ne']

theorem ofSigned_overflow {s : Bool} {q : ℚ} (hpos : 0 < q) (hrnd : Binary64.rnd q = q) (h : 2 ^ 1024 ≤ q) :
    PyFloat.ofSigned binary64 s q = .inf false := by
  have hoverflows : binary64.overflows q = true := by
    apply decide_eq_true
    rwa [hrnd, abs_of_pos hpos]
  rw [PyFloat.ofSigned, if_pos hoverflows, decide_eq_false (not_lt.mpr hpos.le)]

theorem rnd_two_pow (i : ℕ) : Binary64.rnd (2 ^ i) = 2 ^ i := by
  have hone : Binary64.rnd 1 = 1 := binary64.rnd_one
  simpa using Binary64.rnd_mul_two_pow hone i

theorem double_two_pow {i : ℕ} (hi : i < 1024) : Double (2 ^ i) :=
  ⟨by positivity, rnd_two_pow i, pow_lt_pow_right₀ (by norm_num) hi⟩

theorem pyFloat_two_pow {i : ℕ} (hi : i < 1024) : pyFloat binary64 (.int (2 ^ i)) = .ok (.num (2 ^ i)) := by
  have hdouble := double_two_pow hi
  have hoverflows : binary64.overflows ((2 ^ i : ℤ) : ℚ) = false := by
    push_cast
    apply decide_eq_false
    rw [hdouble.rnd_eq, abs_of_pos hdouble.pos]
    exact not_le.mpr hdouble.lt
  rw [pyFloat, hoverflows, if_neg (by simp), PyFloat.ofRat]
  push_cast
  rw [ofSigned_double hdouble]

theorem pyFloat_two_pow_overflow {i : ℕ} (hi : 1024 ≤ i) :
    pyFloat binary64 (.int (2 ^ i)) = .error .overflowError := by
  have hoverflows : binary64.overflows ((2 ^ i : ℤ) : ℚ) = true := by
    push_cast
    apply decide_eq_true
    rw [rnd_two_pow, abs_of_pos (by positivity)]
    exact pow_le_pow_right₀ (by norm_num) hi
  rw [pyFloat, if_pos hoverflows]

theorem grown_cases (base : Seconds) (i : ℕ) :
    (∃ c, base.1 = .num c ∧ Double (c * 2 ^ i) ∧ PyFloat.mul binary64 base.1 (.num (2 ^ i)) = .num (c * 2 ^ i)) ∨
      (∀ c, base.1.val? = some c → 2 ^ 1024 ≤ c * 2 ^ i) ∧
        PyFloat.mul binary64 base.1 (.num (2 ^ i)) = .inf false := by
  have hpow : (0 : ℚ) < 2 ^ i := by positivity
  rcases seconds_cases base with hbase | ⟨c, hbase, hc⟩
  · rw [hbase]
    refine Or.inr ⟨by simp, ?_⟩
    simp [PyFloat.mul, PyFloat.signBit, hpow.ne', hpow.le]
  · have hrnd := Binary64.rnd_mul_two_pow hc.rnd_eq i
    have hpos : 0 < c * 2 ^ i := mul_pos hc.pos hpow
    have hmul : PyFloat.mul binary64 (.num c) (.num (2 ^ i)) = PyFloat.ofSigned binary64
        ((PyFloat.num c).signBit != (PyFloat.num (2 ^ i)).signBit) (c * 2 ^ i) := rfl
    rw [hbase, hmul]
    by_cases hlt : c * 2 ^ i < 2 ^ 1024
    · exact Or.inl ⟨c, rfl, ⟨hpos, hrnd, hlt⟩, ofSigned_double ⟨hpos, hrnd, hlt⟩⟩
    · refine Or.inr ⟨?_, ofSigned_overflow hpos hrnd (not_lt.mp hlt)⟩
      rintro d hd
      cases hd
      exact not_lt.mp hlt

theorem num_lt_inf (q : ℚ) : PyFloat.lt (.num q) (.inf false) = true :=
  decide_eq_true (WithBot.coe_lt_coe.mpr (WithTop.coe_lt_top q))

theorem inf_lt (x : PyFloat) : PyFloat.lt (.inf false) x = false := by
  cases x with
  | inf neg => cases neg <;> simp [PyFloat.lt, PyFloat.ext?]
  | nan => rfl
  | negZero => simp [PyFloat.lt, PyFloat.ext?]
  | num q => simp [PyFloat.lt, PyFloat.ext?]

theorem delay_cases (base max : Seconds) (i : ℕ) :
    (i < 1024 ∧ ∃ q, finiteDelay base.1 max.1 i = some q ∧ delay base.1 max.1 i = .ok (.num q) ∧ Double q ∧
      (∀ m, max.1.val? = some m → q ≤ m) ∧ ∀ c, base.1.val? = some c → q ≤ c * 2 ^ i) ∨
    ¬(i < 1024 ∧ ∃ q, finiteDelay base.1 max.1 i = some q) ∧ (delay base.1 max.1 i = .error .overflowError ∨
      delay base.1 max.1 i = .ok (.inf false)) := by
  by_cases hi : i < 1024
  · have hdelay : delay base.1 max.1 i = .ok (if PyFloat.lt (.mul binary64 base.1 (.num (2 ^ i))) max.1
        then .mul binary64 base.1 (.num (2 ^ i)) else max.1) := by
      rw [delay, pyFloat_two_pow hi]
      rfl
    rw [hdelay]
    rcases grown_cases base i with ⟨c, hbase, hdouble, hgrown⟩ | ⟨hlarge, hgrown⟩
    · rcases seconds_cases max with hmax | ⟨m, hmax, hm⟩
      · rw [hgrown, hmax, hbase]
        refine Or.inl ⟨hi, c * 2 ^ i, if_pos hdouble.lt, ?_, hdouble, by simp, by simp⟩
        rw [if_pos (num_lt_inf _)]
      · rw [hgrown, hmax, hbase, PyFloat.lt_of_val? (PyFloat.val?_num _) (PyFloat.val?_num m)]
        have hfinite : finiteDelay (.num c) (.num m) i = some (min m (c * 2 ^ i)) := rfl
        by_cases hlt : c * 2 ^ i < m
        · rw [min_eq_right hlt.le] at hfinite
          exact Or.inl ⟨hi, c * 2 ^ i, hfinite, by rw [if_pos (decide_eq_true hlt)], hdouble, by simpa using hlt.le,
            by simp⟩
        · rw [min_eq_left (not_lt.mp hlt)] at hfinite
          exact Or.inl ⟨hi, m, hfinite, by rw [if_neg (by simpa using hlt)], hm, by simp, by simpa using hlt⟩
    · rw [hgrown, inf_lt, if_neg (by simp)]
      rcases seconds_cases max with hmax | ⟨m, hmax, hm⟩
      · refine Or.inr ⟨?_, Or.inr (by rw [hmax])⟩
        rintro ⟨_, q, hq⟩
        rw [finiteDelay, hmax, PyFloat.val?_inf] at hq
        cases hc : base.1.val? with
        | none => simp [hc] at hq
        | some c => simp [hc, not_lt.mpr (hlarge c hc)] at hq
      · have hfinite : finiteDelay base.1 max.1 i = some m := by
          rw [finiteDelay, hmax, PyFloat.val?_num]
          cases hc : base.1.val? with
          | none => rfl
          | some c => exact congrArg some (min_eq_left (hm.lt.le.trans (hlarge c hc)))
        refine Or.inl ⟨hi, m, hfinite, by rw [hmax], hm, by simp [hmax], ?_⟩
        intro c hc
        exact hm.lt.le.trans (hlarge c hc)
  · refine Or.inr ⟨fun h => hi h.1, Or.inl ?_⟩
    rw [delay, pyFloat_two_pow_overflow (not_lt.mp hi)]
    rfl

theorem uniform_double {q : ℚ} (h : Double q) (u : Draw) :
    (uniform (.num 0) (.num q) u).val? = some (Binary64.rnd (q * u.1)) ∧ 0 ≤ Binary64.rnd (q * u.1) ∧
      Binary64.rnd (q * u.1) ≤ q := by
  obtain ⟨u, hu0, hu1⟩ := u
  dsimp only
  have hlow : 0 ≤ Binary64.rnd (q * u) := Binary64.rnd_nonneg (mul_nonneg h.pos.le hu0)
  have hhigh : Binary64.rnd (q * u) ≤ q := by
    have hmono := Binary64.rnd_mono (show q * u ≤ q by nlinarith [h.pos])
    rwa [h.rnd_eq] at hmono
  have hfits : ∀ r, Binary64.rnd r = Binary64.rnd (q * u) → binary64.overflows r = false := by
    intro r hr
    apply decide_eq_false
    rw [hr, abs_of_nonneg hlow]
    exact not_le.mpr (hhigh.trans_lt h.lt)
  have hsub : PyFloat.sub binary64 (.num q) (.num 0) = .num q := by
    have hadd : PyFloat.sub binary64 (.num q) (.num 0) =
        PyFloat.ofSigned binary64 (if q + 0 = 0 then (PyFloat.num q).signBit && true else decide (q + 0 < 0))
          (q + 0) := by
      simp [PyFloat.sub, PyFloat.neg, PyFloat.add, PyFloat.signBit]
    rw [hadd, add_zero, ofSigned_double h]
  have hmul : (PyFloat.mul binary64 (.num q) (.num u)).val? = some (Binary64.rnd (q * u)) :=
    PyFloat.val?_ofSigned (hfits (q * u) rfl)
  refine ⟨?_, hlow, hhigh⟩
  rw [uniform, hsub]
  simp only [PyFloat.add, PyFloat.val?_num, hmul, zero_add]
  rw [PyFloat.val?_ofSigned (hfits _ (Binary64.rnd_idem _))]
  exact congrArg some (Binary64.rnd_idem _)

theorem pySleep_uniform_inf (u : Draw) : ∃ e, pySleep (uniform (.num 0) (.inf false) u) = .error e := by
  obtain ⟨u, hu0, hu1⟩ := u
  by_cases hzero : u = 0
  · refine ⟨_, show pySleep _ = .error (.valueError "Invalid value NaN (not a number)") from ?_⟩
    simp [uniform, PyFloat.sub, PyFloat.neg, PyFloat.add, PyFloat.mul, hzero, pySleep]
  · refine ⟨.overflowError, ?_⟩
    have hseconds : uniform (.num 0) (.inf false) ⟨u, hu0, hu1⟩ = .inf false := by
      simp [uniform, PyFloat.sub, PyFloat.neg, PyFloat.add, PyFloat.mul, PyFloat.signBit, hzero, not_lt.mpr hu0]
    have hnanoseconds : PyFloat.mul binary64 (.inf false) (.num (10 ^ 9)) = .inf false := by
      simp [PyFloat.mul, PyFloat.signBit]
    rw [hseconds, pySleep, hnanoseconds, inf_lt, Bool.and_false]
    rfl

/-- No float lies in the last 1024 nanoseconds below 2^63. -/
theorem rnd_nanoseconds_lt {r : ℚ} (hr : 0 ≤ r) (hrnd : Binary64.rnd r = r) (h : r * 10 ^ 9 < 2 ^ 63) :
    Binary64.rnd (r * 10 ^ 9) < 2 ^ 63 := by
  rcases hr.eq_or_lt with rfl | hpos
  · rw [zero_mul, Binary64.rnd_zero]
    norm_num
  have hlow : r * 10 ^ 9 ≤ ((2 ^ 53 - 1 : ℤ) : ℚ) * 2 ^ (10 : ℤ) := by
    rcases le_or_gt r (2 ^ 33) with hsmall | hlarge
    · norm_num
      linarith
    · -- from 2^33 seconds on the last place is 2^-19
      have hlog : Int.log 2 |r| = 33 := by
        rw [abs_of_pos hpos]
        have hupper : Int.log 2 r < 34 := (Int.lt_zpow_iff_log_lt (by norm_num) hpos).mp (by norm_num; linarith)
        have hlower : 33 ≤ Int.log 2 r := (Int.zpow_le_iff_le_log (by norm_num) hpos).mp (by norm_num; linarith)
        omega
      have hulp : Binary64.ulpExp r = -19 := by rw [Binary64.ulpExp, hlog]; rfl
      obtain ⟨k, hk⟩ : ∃ k : ℤ, r = k / 2 ^ 19 := by
        refine ⟨roundHalfEven (r / 2 ^ Binary64.ulpExp r), ?_⟩
        have hgrid : r = roundHalfEven (r / 2 ^ Binary64.ulpExp r) * 2 ^ Binary64.ulpExp r := hrnd.symm
        rw [hulp] at hgrid ⊢
        rw [div_eq_mul_inv, ← zpow_natCast, ← zpow_neg]
        exact hgrid
      have hcount : k * 10 ^ 9 < 2 ^ 82 := by
        have hscaled : (k : ℚ) * 10 ^ 9 < 2 ^ 82 := by
          rw [hk] at h
          linarith
        exact_mod_cast hscaled
      have hbound : k * 10 ^ 9 ≤ (2 ^ 53 - 1) * 2 ^ 29 := by omega
      have hcast : (k : ℚ) * 10 ^ 9 ≤ (2 ^ 53 - 1) * 2 ^ 29 := by exact_mod_cast hbound
      rw [hk]
      norm_num at hcast ⊢
      linarith
  have hulp : Binary64.ulpExp (r * 10 ^ 9) ≤ 10 := by
    apply Binary64.ulpExp_le_of_abs_lt (by positivity) _ (by norm_num)
    rw [abs_of_nonneg (by positivity)]
    exact h
  refine (Binary64.rnd_le_grid hlow hulp).trans_lt ?_
  norm_num

/-- A float that is not negative is slept unless it is 2^63 nanoseconds or more. -/
theorem pySleep_eq {x : PyFloat} {r : ℚ} (hx : x.val? = some r) (hr : 0 ≤ r) (hrnd : Binary64.rnd r = r) :
    pySleep x = if r * 10 ^ 9 < 2 ^ 63 then .ok () else .error .overflowError := by
  have hnan : x ≠ .nan := by
    rintro rfl
    cases hx
  have hnegative : PyFloat.lt x (.num 0) = false := by
    rw [PyFloat.lt_of_val? hx (PyFloat.val?_num 0)]
    exact decide_eq_false (not_lt.mpr hr)
  have hscaled : 0 ≤ r * 10 ^ 9 := by positivity
  obtain ⟨s, hmul⟩ : ∃ s, PyFloat.mul binary64 x (.num (10 ^ 9)) = PyFloat.ofSigned binary64 s (r * 10 ^ 9) := by
    refine ⟨x.signBit != (PyFloat.num (10 ^ 9)).signBit, ?_⟩
    rw [PyFloat.mul, hx]
    rfl
  rw [pySleep, if_neg hnan, hmul, hnegative]
  by_cases hlt : r * 10 ^ 9 < 2 ^ 63
  · have hround := rnd_nanoseconds_lt hr hrnd hlt
    have hlow := Binary64.rnd_nonneg hscaled
    have hfits : binary64.overflows (r * 10 ^ 9) = false := by
      apply decide_eq_false
      rw [abs_of_nonneg hlow]
      exact not_le.mpr (hround.trans (pow_lt_pow_right₀ (by norm_num) (by norm_num)))
    have hval : (PyFloat.ofSigned binary64 s (r * 10 ^ 9)).val? = some (Binary64.rnd (r * 10 ^ 9)) :=
      PyFloat.val?_ofSigned hfits
    have hrange : PyFloat.le (.num (-2 ^ 63)) (PyFloat.ofSigned binary64 s (r * 10 ^ 9)) = true := by
      rw [PyFloat.le_eq_of_val? (PyFloat.val?_num _) hval]
      exact decide_eq_true (by linarith)
    rw [hrange, PyFloat.lt_of_val? hval (PyFloat.val?_num _), decide_eq_true hround, if_pos hlt]
    rfl
  · have hrange : PyFloat.lt (PyFloat.ofSigned binary64 s (r * 10 ^ 9)) (.num (2 ^ 63)) = false := by
      cases hfits : binary64.overflows (r * 10 ^ 9) with
      | true => rw [PyFloat.ofSigned, hfits, if_pos rfl, decide_eq_false (not_lt.mpr hscaled), inf_lt]
      | false =>
        rw [PyFloat.lt_of_val? (PyFloat.val?_ofSigned hfits) (PyFloat.val?_num _)]
        have hround := Binary64.rnd_mono (not_lt.mp hlt)
        rw [rnd_two_pow] at hround
        exact decide_eq_false (not_lt.mpr hround)
    rw [hrange, Bool.and_false, if_neg hlt]
    rfl

theorem pause_cases (base max : Seconds) (i : ℕ) (u : Draw) :
    (CanSleep base.1 max.1 i u ∧ ∃ s, pause base.1 max.1 i u = .ok s ∧ Bounded base.1 max.1 i s) ∨
      ¬CanSleep base.1 max.1 i u ∧ ∃ e, pause base.1 max.1 i u = .error e := by
  rcases delay_cases base max i with ⟨hi, q, hfinite, hdelay, hdouble, hmax, hbase⟩ | ⟨hcannot, hdelay | hdelay⟩
  · obtain ⟨hr, hr0, hrq⟩ := uniform_double hdouble u
    have hsleep := pySleep_eq hr hr0 (Binary64.rnd_idem _)
    have hpause : pause base.1 max.1 i u = (pySleep (uniform (.num 0) (.num q) u)).bind
        fun _ => .ok (uniform (.num 0) (.num q) u) := by
      rw [pause, hdelay]
      rfl
    rw [hpause, hsleep]
    by_cases hlt : Binary64.rnd (q * u.1) * 10 ^ 9 < 2 ^ 63
    · rw [if_pos hlt]
      exact Or.inl ⟨⟨hi, q, hfinite, hlt⟩, uniform (.num 0) (.num q) u, rfl, _, hr, hr0,
        fun m hm => hrq.trans (hmax m hm), fun c hc => hrq.trans (hbase c hc)⟩
    · rw [if_neg hlt]
      refine Or.inr ⟨?_, .overflowError, rfl⟩
      rintro ⟨_, q', hq', hlt'⟩
      rw [Option.some.inj (hfinite.symm.trans hq')] at hlt
      exact hlt hlt'
  · refine Or.inr ⟨fun h => hcannot ⟨h.1, h.2.imp fun _ hq => hq.1⟩, .overflowError, ?_⟩
    rw [pause, hdelay]
    rfl
  · obtain ⟨e, he⟩ := pySleep_uniform_inf u
    refine Or.inr ⟨fun h => hcannot ⟨h.1, h.2.imp fun _ hq => hq.1⟩, e, ?_⟩
    rw [pause, hdelay]
    change (pySleep (uniform (.num 0) (.inf false) u)).bind _ = _
    rw [he]
    rfl

/-- Up to 2^63 nanoseconds of `max_delay_s` only the power of two can fail. -/
theorem canSleep_of_max {base max : Seconds} {m : ℚ} (hmax : max.1.val? = some m) (hm : m * 10 ^ 9 < 2 ^ 63) {i : ℕ}
    (hi : i < 1024) (u : Draw) : CanSleep base.1 max.1 i u := by
  rcases delay_cases base max i with ⟨_, q, hfinite, _, hdouble, hle, _⟩ | ⟨hcannot, _⟩
  · obtain ⟨_, _, hpart⟩ := uniform_double hdouble u
    have hpart' := hpart.trans (hle m hmax)
    exact ⟨hi, q, hfinite, by linarith⟩
  · refine absurd ⟨hi, ?_⟩ hcannot
    rw [finiteDelay, hmax]
    cases base.1.val? <;> exact ⟨_, rfl⟩

section Loop

variable {fn : ℕ → Except ε α} {retryable : ε → Bool} {attempts : ℤ} {base max : Seconds} {draws : ℕ → Draw}
  {pauseAt : ℕ → Except PyExc PyFloat} {left first : ℕ} {last : Option ε}

theorem rounds_stop (h : ¬Retried fn retryable first ∨ (first : ℤ) + 1 = attempts) :
    rounds fn retryable attempts pauseAt (left + 1) first last =
      ([.call], (fn first).mapError .fn) := by
  rw [rounds]
  cases hfn : fn first with
  | ok a => rfl
  | error e =>
    by_cases hretryable : retryable e = true
    · have hlast : (first : ℤ) = attempts - 1 := by
        rcases h with hnot | hlast
        · exact absurd ⟨e, hfn, hretryable⟩ hnot
        · omega
      simp only [hretryable, if_true, if_pos hlast]
      rfl
    · simp only [hretryable]
      rfl

variable (pauseAt left last) in
theorem rounds_retry (h : Retried fn retryable first) (hlast : (first : ℤ) + 1 ≠ attempts) : ∃ e,
    rounds fn retryable attempts pauseAt (left + 1) first last =
      match pauseAt first with
      | .error exc => ([.call], .error (.around exc))
      | .ok seconds =>
        (.call :: .sleep seconds :: (rounds fn retryable attempts pauseAt left (first + 1) (some e)).1,
          (rounds fn retryable attempts pauseAt left (first + 1) (some e)).2) := by
  obtain ⟨e, hfn, hretryable⟩ := h
  have hne : ¬(first : ℤ) = attempts - 1 := by omega
  refine ⟨e, ?_⟩
  rw [rounds, hfn]
  simp only [hretryable, if_true, if_neg hne]

def Pauses (base max : Seconds) (draws : ℕ → Draw) (pauseAt : ℕ → Except PyExc PyFloat) : Prop :=
  ∀ i, (CanSleep base.1 max.1 i (draws i) ∧ ∃ s, pauseAt i = .ok s ∧ Bounded base.1 max.1 i s) ∨
    ¬CanSleep base.1 max.1 i (draws i) ∧ ∃ e, pauseAt i = .error e

theorem specified_cons_iff {base max seconds : PyFloat} {sleeps : List PyFloat} {run : Run ε α} :
    Specified fn retryable attempts base max first (seconds :: sleeps) (.call :: .sleep seconds :: run.1, run.2) ↔
      Retried fn retryable first ∧ Bounded base max first seconds ∧
        Specified fn retryable attempts base max (first + 1) sleeps run := by
  have hindex : ∀ k : ℕ, first + (k + 1) = first + 1 + k := by omega
  constructor
  · intro h
    have hevents := h.events
    have hresult := h.result
    have hcount := h.count
    have hlast := h.last
    simp only [List.flatMap_cons, List.cons_append, List.nil_append, List.cons.injEq, true_and] at hevents
    rw [List.length_cons, hindex sleeps.length] at hresult hlast
    rw [List.length_cons] at hcount
    push_cast at hcount hlast
    refine ⟨h.retried 0 (by simp), h.bounded 0 seconds rfl, hevents, hresult, ?_, ?_, ?_, ?_⟩
    · push_cast
      omega
    · intro i hi
      rw [← hindex i]
      exact h.retried (i + 1) (by simpa using hi)
    · push_cast
      rwa [add_right_comm (first : ℤ) 1, add_assoc (first : ℤ)]
    · intro i later hi
      rw [← hindex i]
      exact h.bounded (i + 1) later hi
  · rintro ⟨hretried, hbounded, h⟩
    have hcount := h.count
    have hlast := h.last
    push_cast at hcount hlast
    refine ⟨?_, ?_, ?_, ?_, ?_, ?_⟩
    · simp [h.events]
    · rw [List.length_cons, hindex sleeps.length]
      exact h.result
    · rw [List.length_cons]
      push_cast
      omega
    · intro i hi
      cases i with
      | zero => exact hretried
      | succ i =>
        rw [hindex i]
        exact h.retried i (by simpa using hi)
    · rw [List.length_cons, hindex sleeps.length]
      push_cast
      rwa [← add_assoc, add_right_comm (first : ℤ) _ 1]
    · intro i later hi
      cases i with
      | zero =>
        cases hi
        exact hbounded
      | succ i =>
        rw [hindex i]
        exact h.bounded i later hi

/-- A loop that can sleep wherever it has to is as specified. -/
theorem rounds_specified (hpauses : Pauses base max draws pauseAt) (hleft : (first : ℤ) + left = attempts) (hpos : 0 < left)
    (hcan : ∀ i, first ≤ i → (i : ℤ) < attempts - 1 → (∀ j, first ≤ j → j ≤ i → Retried fn retryable j) →
      CanSleep base.1 max.1 i (draws i)) :
    ∃ sleeps, Specified fn retryable attempts base.1 max.1 first sleeps
      (rounds fn retryable attempts pauseAt left first last) := by
  induction left generalizing first last with
  | zero => omega
  | succ left ih =>
    by_cases hstop : ¬Retried fn retryable first ∨ (first : ℤ) + 1 = attempts
    · rw [rounds_stop hstop]
      exact ⟨[], rfl, rfl, by simp; omega, by simp, by simpa using hstop, by simp⟩
    · rw [not_or, not_not] at hstop
      obtain ⟨hretried, hlast⟩ := hstop
      obtain ⟨e, hrounds⟩ := rounds_retry pauseAt left last hretried hlast
      have hsleep : CanSleep base.1 max.1 first (draws first) := by
        apply hcan first le_rfl (by omega)
        intro j hlow hhigh
        rwa [le_antisymm hhigh hlow]
      have hlater : ∀ i, first + 1 ≤ i → (i : ℤ) < attempts - 1 →
          (∀ j, first + 1 ≤ j → j ≤ i → Retried fn retryable j) → CanSleep base.1 max.1 i (draws i) := by
        intro i hlow hhigh hall
        apply hcan i (by omega) hhigh
        intro j hj hji
        by_cases heq : j = first
        · rwa [heq]
        · exact hall j (by omega) hji
      rcases hpauses first with ⟨_, s, hpause, hbounded⟩ | ⟨hcannot, _⟩
      · obtain ⟨sleeps, hrest⟩ := @ih (first + 1) (some e) (by push_cast; omega) (by omega) hlater
        rw [hrounds, hpause]
        exact ⟨s :: sleeps, specified_cons_iff.mpr ⟨hretried, hbounded, hrest⟩⟩
      · exact absurd hsleep hcannot

/-- A loop that is as specified could sleep wherever it had to. -/
theorem canSleep_of_specified (hpauses : Pauses base max draws pauseAt) {sleeps : List PyFloat}
    (hleft : (first : ℤ) + left = attempts)
    (h : Specified fn retryable attempts base.1 max.1 first sleeps
      (rounds fn retryable attempts pauseAt left first last)) :
    ∀ i, first ≤ i → (i : ℤ) < attempts - 1 → (∀ j, first ≤ j → j ≤ i → Retried fn retryable j) →
      CanSleep base.1 max.1 i (draws i) := by
  induction left generalizing first last sleeps with
  | zero =>
    intro i hlow hhigh
    omega
  | succ left ih =>
    intro i hlow hhigh hall
    have hretried : Retried fn retryable first := hall first le_rfl hlow
    have hlast : (first : ℤ) + 1 ≠ attempts := by omega
    obtain ⟨e, hrounds⟩ := rounds_retry pauseAt left last hretried hlast
    rw [hrounds] at h
    rcases hpauses first with ⟨hcan, s, hpause, _⟩ | ⟨_, exc, hpause⟩
    · rw [hpause] at h
      by_cases hfirst : i = first
      · rwa [hfirst]
      · cases sleeps with
        | nil => simpa using h.events
        | cons s' sleeps =>
          have hsame : s = s' := by
            have hevents := h.events
            simp only [List.flatMap_cons, List.cons_append, List.nil_append, List.cons.injEq, Event.sleep.injEq,
              true_and] at hevents
            exact hevents.1
          subst hsame
          obtain ⟨_, _, hrest⟩ := specified_cons_iff.mp h
          exact ih (by push_cast; omega) hrest i (by omega) hhigh fun j hj hji => hall j (Nat.le_of_succ_le hj) hji
    · rw [hpause] at h
      have hresult := h.result
      cases hfn : fn (first + sleeps.length) with
      | ok a =>
        rw [hfn] at hresult
        cases hresult
      | error e' =>
        rw [hfn] at hresult
        cases hresult

end Loop

def oneSecond : Seconds := ⟨.num 1, by decide +kernel⟩

def thirtySeconds : Seconds := ⟨.num 30, by decide +kernel⟩

def halfDraw : Draw := ⟨1 / 2, by norm_num⟩

def alwaysFails (_ : ℕ) : Except PyExc Unit := .error .typeError

end Backoff
end AtlasConnectors
