import AtlasConnectors.Raising
import AtlasConnectors.Calendar
import AtlasConnectors.Json

/-! What the program takes from the Python runtime: its exceptions, the conversions `int`,
`float` and `round`, and a random generator known only through the ranges of its draws. -/
namespace AtlasConnectors

/-- One entry of a pydantic `ValidationError`: the field, the error type, its text and the value
refused. -/
structure FieldError where
  loc : String
  type : String
  msg : String
  input : Json PyFloat

inductive PyExc
  | valueError (msg : String)
  | typeError
  | overflowError
  | indexError
  | keyError (key : String)
  | zeroDivisionError
  | recursionError
  | parseError (msg : String)
  | validationError (errors : List FieldError)
  | httpPushError (msg : String)
  | poisonRecordError (msg : String)
  | transportError (name : String)
  | httpException (status : ℕ) (detail : Json PyFloat)
  | other (name : String)

def truncate (q : ℚ) : ℤ := q.num.tdiv q.den

/-- `int(value)`. -/
def pyInt : Json PyFloat → Except PyExc ℤ
  | .bool b => .ok (if b then 1 else 0)
  | .int n => .ok n
  | .float .nan => .error (.valueError "cannot convert float NaN to integer")
  | .float (.inf _) => .error .overflowError
  | .float .negZero => .ok 0
  | .float (.num q) => .ok (truncate q)
  | .str s =>
    match NumberText.readInt s with
    | some n => .ok n
    | none => .error (.valueError "invalid literal for int() with base 10")
  | _ => .error .typeError

/-- `float(value)`. -/
def pyFloat (fmt : FloatFormat) : Json PyFloat → Except PyExc PyFloat
  | .bool b => .ok (.num (if b then 1 else 0))
  | .int n => if fmt.overflows n then .error .overflowError else .ok (.ofRat fmt n)
  | .float x => .ok (x.read fmt)
  | .str s =>
    match NumberText.readFloat fmt s with
    | some x => .ok x
    | none => .error (.valueError "could not convert string to float")
  | _ => .error .typeError

/-- `round(x)`. -/
def pyRound : PyFloat → Except PyExc ℤ
  | .nan => .error (.valueError "cannot convert float NaN to integer")
  | .inf _ => .error .overflowError
  | .negZero => .ok 0
  | .num q => .ok (roundHalfEven q)

theorem pyRound_eq {x : PyFloat} {q : ℚ} {n : ℤ} (hx : x.val? = some q) (h : pyRound x = .ok n) :
    n = roundHalfEven q := by
  cases x with
  | nan => cases hx
  | inf neg => cases hx
  | negZero =>
    cases hx
    cases h
    exact_mod_cast (roundHalfEven_intCast 0).symm
  | num r =>
    cases hx
    cases h
    rfl

theorem pyRound_nonneg {x : PyFloat} {q : ℚ} {n : ℤ} (hx : x.val? = some q) (hq : 0 ≤ q)
    (h : pyRound x = .ok n) : 0 ≤ n := by
  rw [pyRound_eq hx h]
  exact roundHalfEven_nonneg hq

/-- `round(x, places)`: the nearest decimal of so many places, read back. -/
def roundPlaces (fmt : FloatFormat) (places : ℕ) : PyFloat → PyFloat
  | .num q => .ofSigned fmt (decide (q < 0)) (roundHalfEven (q * 10 ^ places) / 10 ^ places)
  | x => x

/-- A `try` whose handler is `except (TypeError, ValueError)`. -/
def catching {α : Type} : Except PyExc α → Except PyExc (Option α)
  | .ok a => .ok (some a)
  | .error (.valueError _) => .ok none
  | .error .typeError => .ok none
  | .error e => .error e

/-- A Python process: its float format, `math.sin`, and a random generator as any oracle
whose draws lie in the ranges asked for. -/
structure PyRuntime where
  fmt : FloatFormat
  sin : PyFloat → PyFloat
  State : Type
  seed : ℤ → State
  drawRandom : State → PyFloat × State
  drawUniform : PyFloat → PyFloat → State → PyFloat × State
  drawInt : ℤ → ℤ → State → ℤ × State
  drawIndex : ℕ → State → ℕ × State
  sin_range : ∀ x q, x.val? = some q → (sin x).Within 1
  random_range : ∀ s, ∃ q, (drawRandom s).1.val? = some q ∧ 0 ≤ q ∧ q < 1
  uniform_range : ∀ a b p q s, a.val? = some p → b.val? = some q → p ≤ q →
    ∃ r, (drawUniform a b s).1.val? = some r ∧ p ≤ r ∧ r ≤ q
  uniform_nan : ∀ s, (drawUniform .nan .nan s).1 = .nan
  randint_range : ∀ lo hi s, lo ≤ hi → lo ≤ (drawInt lo hi s).1 ∧ (drawInt lo hi s).1 ≤ hi
  choice_range : ∀ n s, 0 < n → (drawIndex n s).1 < n

/-- A generator's computation: it draws from the random generator and may raise. -/
abbrev Gen (rt : PyRuntime) (α : Type) := EStateM PyExc rt.State α

namespace PyRuntime

variable {rt : PyRuntime}

open Raising

def lit (rt : PyRuntime) (q : ℚ) : PyFloat := .ofRat rt.fmt q

def draw {α : Type} (f : rt.State → α × rt.State) : Gen rt α := fun s => .ok (f s).1 (f s).2

/-- `rng.random()`. -/
def random : Gen rt PyFloat := draw rt.drawRandom

def uniform (a b : PyFloat) : Gen rt PyFloat := draw (rt.drawUniform a b)

def randint (lo hi : ℤ) : Gen rt ℤ := draw (rt.drawInt lo hi)

/-- `rng.choice(xs)`. -/
def choice {α : Type} (xs : List α) : Gen rt α := do
  let i ← draw (rt.drawIndex xs.length)
  match xs[i]? with
  | some x => pure x
  | none => throw .indexError

/-- A date moved by some days, or an OverflowError. -/
def shiftDate (d : Date) (k : ℤ) : Gen rt Date :=
  match d.shift k with
  | some e => pure e
  | none => throw .overflowError

/-- `datetime(d.year, d.month, d.day, hour, minute)`. -/
def datetime (d : Date) (hour minute : ℤ) : Gen rt DateTime :=
  match DateTime.at? d hour minute with
  | some t => pure t
  | none => throw (.valueError "hour must be in 0..23")

def addSeconds (t : DateTime) (n : ℕ) : Gen rt DateTime :=
  match t.addSeconds n with
  | some u => pure u
  | none => throw .overflowError

variable {α : Type} {P : α → Prop}

theorem ensures_draw {f : rt.State → α × rt.State} (h : ∀ s, P (f s).1) : Ensures (draw f) P := by
  intro s a s' hrun
  cases hrun
  exact h s

theorem ensures_uniform {a b : PyFloat} {p q : ℚ} (ha : a.val? = some p) (hb : b.val? = some q)
    (hpq : p ≤ q) : Ensures (uniform a b : Gen rt PyFloat) fun x =>
      ∃ r, x.val? = some r ∧ p ≤ r ∧ r ≤ q :=
  ensures_draw fun s => rt.uniform_range a b p q s ha hb hpq

theorem ensures_uniform_nan : Ensures (uniform .nan .nan : Gen rt PyFloat) fun x => x = .nan :=
  ensures_draw rt.uniform_nan

theorem ensures_randint {lo hi : ℤ} (h : lo ≤ hi) : Ensures (randint lo hi : Gen rt ℤ) fun n =>
    lo ≤ n ∧ n ≤ hi :=
  ensures_draw fun s => rt.randint_range lo hi s h

theorem ensures_choice (xs : List α) : Ensures (choice xs : Gen rt α) fun x => x ∈ xs := by
  refine Ensures.bind' fun i => ?_
  cases h : xs[i]? with
  | some x => exact Ensures.pure (List.mem_of_getElem? h)
  | none => exact Ensures.throw _

theorem ensures_shiftDate (d : Date) (k : ℤ) :
    Ensures (shiftDate d k : Gen rt Date) fun e => d.shift k = some e := by
  unfold shiftDate
  cases h : d.shift k with
  | some e => exact Ensures.pure rfl
  | none => exact Ensures.throw _

theorem ensures_datetime (d : Date) (hour minute : ℤ) :
    Ensures (datetime d hour minute : Gen rt DateTime) fun t => DateTime.at? d hour minute = some t := by
  unfold datetime
  cases h : DateTime.at? d hour minute with
  | some t => exact Ensures.pure rfl
  | none => exact Ensures.throw _

theorem ensures_addSeconds (t : DateTime) (n : ℕ) :
    Ensures (addSeconds t n : Gen rt DateTime) fun u => t.addSeconds n = some u := by
  unfold addSeconds
  cases h : t.addSeconds n with
  | some u => exact Ensures.pure rfl
  | none => exact Ensures.throw _

end PyRuntime
end AtlasConnectors
