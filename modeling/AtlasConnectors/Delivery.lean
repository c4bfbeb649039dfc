import Mathlib

/-! Delivery of a stream of items: each is attempted once, in order. A tolerated error skips
its item; any other error ends the stream. -/
namespace AtlasConnectors
namespace Delivery

variable {α ε σ : Type}

/-- What became of a stream: the items attempted, how many were accepted and how many
skipped, and the error that ended the stream. -/
structure Report (α ε : Type) where
  attempted : List α
  accepted : ℕ
  rejected : ℕ
  failure : Option ε

namespace Report

def accept (x : α) (r : Report α ε) : Report α ε :=
  { r with attempted := x :: r.attempted, accepted := r.accepted + 1 }

def reject (x : α) (r : Report α ε) : Report α ε :=
  { r with attempted := x :: r.attempted, rejected := r.rejected + 1 }

end Report

def deliver (publish : α → EStateM ε σ Unit) (tolerated : ε → Bool) :
    List α → σ → Report α ε × σ
  | [], s => (⟨[], 0, 0, none⟩, s)
  | x :: xs, s =>
    match publish x s with
    | .ok _ t => ((deliver publish tolerated xs t).1.accept x, (deliver publish tolerated xs t).2)
    | .error e t =>
      if tolerated e then
        ((deliver publish tolerated xs t).1.reject x, (deliver publish tolerated xs t).2)
      else (⟨[x], 0, 0, some e⟩, t)

section Steps

variable {publish : α → EStateM ε σ Unit} {tolerated : ε → Bool} {x : α} {xs : List α} {s t : σ} {e : ε}

@[simp] theorem deliver_nil : deliver publish tolerated [] s = (⟨[], 0, 0, none⟩, s) := rfl

theorem deliver_accept (h : publish x s = .ok () t) : deliver publish tolerated (x :: xs) s =
    ((deliver publish tolerated xs t).1.accept x, (deliver publish tolerated xs t).2) := by
  simp only [deliver, h]

theorem deliver_reject (h : publish x s = .error e t) (he : tolerated e = true) :
    deliver publish tolerated (x :: xs) s =
      ((deliver publish tolerated xs t).1.reject x, (deliver publish tolerated xs t).2) := by
  simp only [deliver, h, he, if_true]

theorem deliver_fail (h : publish x s = .error e t) (he : tolerated e = false) :
    deliver publish tolerated (x :: xs) s = (⟨[x], 0, 0, some e⟩, t) := by
  simp [deliver, h, he]

end Steps

variable (publish : α → EStateM ε σ Unit) (tolerated : ε → Bool)

theorem attempted_isPrefix (xs : List α) (s : σ) :
    (deliver publish tolerated xs s).1.attempted <+: xs := by
  induction xs generalizing s with
  | nil => exact List.prefix_rfl
  | cons x xs ih =>
    cases h : publish x s with
    | ok u t =>
      rw [deliver_accept h]
      exact List.cons_prefix_cons.mpr ⟨rfl, ih t⟩
    | error e t =>
      cases he : tolerated e with
      | true =>
        rw [deliver_reject h he]
        exact List.cons_prefix_cons.mpr ⟨rfl, ih t⟩
      | false =>
        rw [deliver_fail h he]
        exact List.cons_prefix_cons.mpr ⟨rfl, List.nil_prefix⟩

theorem complete_of_failure_eq_none {xs : List α} {s : σ}
    (h : (deliver publish tolerated xs s).1.failure = none) :
    (deliver publish tolerated xs s).1.attempted = xs ∧
      (deliver publish tolerated xs s).1.accepted + (deliver publish tolerated xs s).1.rejected =
        xs.length := by
  induction xs generalizing s with
  | nil => exact ⟨rfl, rfl⟩
  | cons x xs ih =>
    cases hp : publish x s with
    | ok u t =>
      rw [deliver_accept hp] at h ⊢
      obtain ⟨hatt, hcount⟩ := ih h
      refine ⟨congrArg (x :: ·) hatt, ?_⟩
      simp only [Report.accept, List.length_cons]
      omega
    | error e t =>
      cases he : tolerated e with
      | true =>
        rw [deliver_reject hp he] at h ⊢
        obtain ⟨hatt, hcount⟩ := ih h
        refine ⟨congrArg (x :: ·) hatt, ?_⟩
        simp only [Report.reject, List.length_cons]
        omega
      | false =>
        rw [deliver_fail hp he] at h
        cases h

theorem rejected_of_intolerant (xs : List α) (s : σ) :
    (deliver publish (fun _ => false) xs s).1.rejected = 0 := by
  induction xs generalizing s with
  | nil => rfl
  | cons x xs ih =>
    cases hp : publish x s with
    | ok u t =>
      rw [deliver_accept hp]
      exact ih t
    | error e t => rw [deliver_fail hp rfl]

theorem failure_eq_none_of_tolerated
    (h : ∀ x s e t, publish x s = .error e t → tolerated e = true) (xs : List α) (s : σ) :
    (deliver publish tolerated xs s).1.failure = none := by
  induction xs generalizing s with
  | nil => rfl
  | cons x xs ih =>
    cases hp : publish x s with
    | ok u t =>
      rw [deliver_accept hp]
      exact ih t
    | error e t =>
      rw [deliver_reject hp (h x s e t hp)]
      exact ih t

theorem exists_raised {xs : List α} {s : σ} {e : ε} (h : (deliver publish tolerated xs s).1.failure = some e) :
    ∃ x t u, publish x t = .error e u := by
  induction xs generalizing s with
  | nil => cases h
  | cons x xs ih =>
    cases hp : publish x s with
    | ok u t =>
      rw [deliver_accept hp] at h
      exact ih h
    | error e' t =>
      cases he : tolerated e' with
      | true =>
        rw [deliver_reject hp he] at h
        exact ih h
      | false =>
        rw [deliver_fail hp he] at h
        cases h
        exact ⟨x, s, t, hp⟩

/-- Every item of a list is published, each in the state that the one before left. -/
inductive Returned : List α → σ → σ → Prop
  | nil (s : σ) : Returned [] s s
  | cons {x : α} {xs : List α} {s t u : σ} (hfirst : publish x s = .ok () t) (hrest : Returned xs t u) :
      Returned (x :: xs) s u

theorem returned_of_failure_eq_none {xs : List α} {s : σ}
    (h : (deliver publish (fun _ => false) xs s).1.failure = none) :
    Returned publish xs s (deliver publish (fun _ => false) xs s).2 := by
  induction xs generalizing s with
  | nil => exact .nil s
  | cons x xs ih =>
    cases hp : publish x s with
    | ok u t =>
      rw [deliver_accept hp] at h ⊢
      exact .cons hp (ih h)
    | error e t =>
      rw [deliver_fail hp rfl] at h
      cases h

/-- Where no error is tolerated, what ends a stream was raised on the last item attempted, in the state that
the items before it left. -/
theorem exists_stopped {xs : List α} {s : σ} {e : ε}
    (h : (deliver publish (fun _ => false) xs s).1.failure = some e) : ∃ before x t,
      (deliver publish (fun _ => false) xs s).1.attempted = before ++ [x] ∧ Returned publish before s t ∧
        publish x t = .error e (deliver publish (fun _ => false) xs s).2 := by
  induction xs generalizing s with
  | nil => cases h
  | cons x xs ih =>
    cases hp : publish x s with
    | ok u t =>
      rw [deliver_accept hp] at h ⊢
      obtain ⟨before, y, v, hattempted, hreturned, hraised⟩ := ih h
      exact ⟨x :: before, y, v, congrArg (x :: ·) hattempted, .cons hp hreturned, hraised⟩
    | error e' t =>
      rw [deliver_fail hp rfl] at h ⊢
      cases h
      exact ⟨[], x, s, rfl, .nil s, hp⟩

theorem failure_eq_none_of_ok (h : ∀ x s, ∃ t, publish x s = .ok () t) (xs : List α) (s : σ) :
    (deliver publish tolerated xs s).1.failure = none := by
  apply failure_eq_none_of_tolerated
  intro x s e t hp
  obtain ⟨u, hu⟩ := h x s
  rw [hu] at hp
  cases hp

/-- The result of a program whose loop delivers a stream and counts what was accepted. -/
def counted (start : ℕ) (d : Report α ε × σ) : EStateM.Result ε σ ℕ :=
  match d.1.failure with
  | none => .ok (start + d.1.accepted) d.2
  | some e => .error e d.2

theorem counted_accept (start : ℕ) (x : α) (d : Report α ε × σ) :
    counted start (d.1.accept x, d.2) = counted (start + 1) d := by
  simp only [counted, Report.accept]
  cases d.1.failure with
  | some e => rfl
  | none => simp only [Nat.add_assoc, Nat.add_comm 1]

/-- A loop that publishes and counts is a delivery that tolerates nothing. -/
theorem foldlM_count_eq (xs : List α) (start : ℕ) (s : σ) :
    (xs.foldlM (fun count x => do publish x; pure (count + 1)) start : EStateM ε σ ℕ) s =
      counted start (deliver publish (fun _ => false) xs s) := by
  induction xs generalizing start s with
  | nil => rfl
  | cons x xs ih =>
    rw [List.foldlM_cons]
    change EStateM.bind (EStateM.bind (publish x) _) _ s = _
    cases h : publish x s with
    | error e t =>
      rw [deliver_fail h rfl]
      simp only [EStateM.bind, h]
      rfl
    | ok u t =>
      rw [deliver_accept h, counted_accept]
      simp only [EStateM.bind, h]
      exact ih (start + 1) t

theorem counted_deliver_congr {β : Type} {publish' : β → EStateM ε σ Unit} {xs : List α} {ys : List β}
    (h : List.Forall₂ (fun x y => ∀ s, publish x s = publish' y s) xs ys) (start : ℕ) (s : σ) :
    counted start (deliver publish tolerated xs s) = counted start (deliver publish' tolerated ys s) := by
  induction h generalizing start s with
  | nil => rfl
  | @cons x y xs ys hxy hrest ih =>
    cases hp : publish' y s with
    | ok u t =>
      rw [deliver_accept hp, deliver_accept ((hxy s).trans hp), counted_accept, counted_accept]
      exact ih (start + 1) t
    | error e t =>
      cases he : tolerated e with
      | true =>
        rw [deliver_reject hp he, deliver_reject ((hxy s).trans hp) he]
        exact ih start t
      | false =>
        rw [deliver_fail hp he, deliver_fail ((hxy s).trans hp) he]
        rfl

/-- The same attempts, each noted in a log before its outcome is known. -/
def recorded : α → EStateM ε (σ × List α) Unit := fun x s =>
  match publish x s.1 with
  | .ok u t => .ok u (t, s.2 ++ [x])
  | .error e t => .error e (t, s.2 ++ [x])

theorem deliver_recorded (xs : List α) (s : σ) (log : List α) :
    deliver (recorded publish) tolerated xs (s, log) =
      ((deliver publish tolerated xs s).1, (deliver publish tolerated xs s).2,
        log ++ (deliver publish tolerated xs s).1.attempted) := by
  induction xs generalizing s log with
  | nil => simp
  | cons x xs ih =>
    cases h : publish x s with
    | ok u t =>
      have hrec : recorded publish x (s, log) = .ok () (t, log ++ [x]) := by simp only [recorded, h]
      rw [deliver_accept h, deliver_accept hrec, ih]
      simp [Report.accept]
    | error e t =>
      have hrec : recorded publish x (s, log) = .error e (t, log ++ [x]) := by
        simp only [recorded, h]
      cases he : tolerated e with
      | true =>
        rw [deliver_reject h he, deliver_reject hrec he, ih]
        simp [Report.reject]
      | false =>
        rw [deliver_fail h he, deliver_fail hrec he]

theorem foldl_log {β : Type} (f : α → β) (log : List β) (xs : List α) :
    xs.foldl (fun log x => log ++ [f x]) log = log ++ xs.map f := by
  induction xs generalizing log with
  | nil => simp
  | cons x xs ih => simp [ih]

/-- The response to an attempt with a given outcome, in the state after it. -/
def respond (outcome : Option ε) (t : σ) : EStateM.Result ε σ Unit :=
  match outcome with
  | none => .ok () t
  | some e => .error e t

/-- Publishing an item sends one message after those that were sent before, whatever comes of it. -/
def Sends {μ : Type} (publish : α → EStateM ε (List μ) Unit) (x : α) (m : μ) : Prop :=
  ∀ sent, ∃ outcome, publish x sent = respond outcome (sent ++ [m])

theorem forM_eq (xs : List α) (s : σ) : (xs.forM publish : EStateM ε σ PUnit) s =
    respond (deliver publish (fun _ => false) xs s).1.failure (deliver publish (fun _ => false) xs s).2 := by
  induction xs generalizing s with
  | nil => rfl
  | cons x xs ih =>
    change EStateM.bind (publish x) (fun _ => xs.forM publish) s = _
    cases h : publish x s with
    | error e t =>
      rw [deliver_fail h rfl]
      simp only [EStateM.bind, h]
      rfl
    | ok u t =>
      rw [deliver_accept h]
      simp only [EStateM.bind, h]
      exact ih t

section Script

variable {publish tolerated} {push : σ → α → σ} {count : σ → ℕ} {outcome : ℕ → Option ε}
variable (hpush : ∀ s x, count (push s x) = count s + 1)
variable (hpublish : ∀ x s, publish x s = respond (outcome (count s)) (push s x))

include hpublish in
theorem deliver_state (xs : List α) (s : σ) : (deliver publish tolerated xs s).2 =
    (deliver publish tolerated xs s).1.attempted.foldl push s := by
  induction xs generalizing s with
  | nil => rfl
  | cons x xs ih =>
    cases ho : outcome (count s) with
    | none =>
      have h : publish x s = .ok () (push s x) := by rw [hpublish, ho]; rfl
      rw [deliver_accept h]
      exact ih (push s x)
    | some e =>
      have h : publish x s = .error e (push s x) := by rw [hpublish, ho]; rfl
      cases he : tolerated e with
      | true =>
        rw [deliver_reject h he]
        exact ih (push s x)
      | false =>
        rw [deliver_fail h he]
        rfl

include hpush hpublish

/-- Without an intolerable outcome every item is attempted, and the accepted ones are those
whose outcome is no error. -/
theorem deliver_complete {xs : List α} {s : σ}
    (h : ∀ i < xs.length, ∀ e, outcome (count s + i) = some e → tolerated e = true) :
    (deliver publish tolerated xs s).1.failure = none ∧
      (deliver publish tolerated xs s).1.accepted =
        (List.range xs.length).countP fun i => (outcome (count s + i)).isNone := by
  induction xs generalizing s with
  | nil => exact ⟨rfl, rfl⟩
  | cons x xs ih =>
    have htail : ∀ i < xs.length, ∀ e, outcome (count (push s x) + i) = some e →
        tolerated e = true := by
      intro i hi e he
      rw [hpush, Nat.add_right_comm, Nat.add_assoc] at he
      exact h (i + 1) (by simpa using hi) e he
    obtain ⟨hfail, hacc⟩ := ih htail
    have hshift : ((List.range xs.length).countP fun i => (outcome (count (push s x) + i)).isNone) =
        (List.range xs.length).countP fun i => (outcome (count s + (i + 1))).isNone := by
      apply List.countP_congr
      intro i _
      rw [hpush, Nat.add_right_comm, Nat.add_assoc]
    rw [hshift] at hacc
    rw [List.length_cons, List.range_succ_eq_map, List.countP_cons, List.countP_map]
    cases ho : outcome (count s) with
    | none =>
      have hp : publish x s = .ok () (push s x) := by rw [hpublish, ho]; rfl
      rw [deliver_accept hp]
      refine ⟨hfail, ?_⟩
      simp only [Report.accept, hacc, Option.isNone_none, if_true]
      rfl
    | some e =>
      have hp : publish x s = .error e (push s x) := by rw [hpublish, ho]; rfl
      have he : tolerated e = true := h 0 (by simp) e (by simpa using ho)
      rw [deliver_reject hp he]
      refine ⟨hfail, ?_⟩
      simp only [Report.reject, hacc, Nat.add_zero, Option.isNone_some, Bool.false_eq_true,
        if_false]
      rfl

/-- The stream ends at its first intolerable outcome, which is still attempted. -/
theorem deliver_stops {xs : List α} {s : σ} {k : ℕ} {e : ε} (hk : k < xs.length)
    (hout : outcome (count s + k) = some e) (he : tolerated e = false)
    (h : ∀ i < k, ∀ e', outcome (count s + i) = some e' → tolerated e' = true) :
    (deliver publish tolerated xs s).1.failure = some e ∧
      (deliver publish tolerated xs s).1.attempted = xs.take (k + 1) := by
  induction xs generalizing s k with
  | nil => cases hk
  | cons x xs ih =>
    cases k with
    | zero =>
      have hp : publish x s = .error e (push s x) := by
        rw [hpublish, show outcome (count s) = some e from hout]; rfl
      rw [deliver_fail hp he]
      exact ⟨rfl, by simp⟩
    | succ k =>
      have hrest := ih (s := push s x) (k := k) (by simpa using hk)
        (by rw [hpush, Nat.add_right_comm, Nat.add_assoc]; exact hout)
        (by
          intro i hi e' he'
          rw [hpush, Nat.add_right_comm, Nat.add_assoc] at he'
          exact h (i + 1) (by omega) e' he')
      cases ho : outcome (count s) with
      | none =>
        have hp : publish x s = .ok () (push s x) := by rw [hpublish, ho]; rfl
        rw [deliver_accept hp]
        exact ⟨hrest.1, congrArg (x :: ·) hrest.2⟩
      | some e' =>
        have hp : publish x s = .error e' (push s x) := by rw [hpublish, ho]; rfl
        have he' : tolerated e' = true := h 0 (by omega) e' ho
        rw [deliver_reject hp he']
        exact ⟨hrest.1, congrArg (x :: ·) hrest.2⟩

theorem failure_eq_none_iff {xs : List α} {s : σ} :
    (deliver publish tolerated xs s).1.failure = none ↔
      ∀ i < xs.length, ∀ e, outcome (count s + i) = some e → tolerated e = true := by
  constructor
  · intro hfail i
    -- no index is the first intolerable one
    induction i using Nat.strong_induction_on with
    | h i ih =>
      intro hi e he
      cases htol : tolerated e with
      | true => rfl
      | false =>
        have hstop := deliver_stops hpush hpublish hi he htol
          fun j hj e' he' => ih j hj (hj.trans hi) e' he'
        rw [hstop.1] at hfail
        cases hfail
  · intro h
    exact (deliver_complete hpush hpublish h).1

end Script
end Delivery
end AtlasConnectors
