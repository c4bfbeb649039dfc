import Mathlib

/-! Computations on a state that may raise, as `EStateM`: rules for what they ensure of
the values that they return. -/
namespace AtlasConnectors
namespace Raising

variable {ε σ α β γ : Type}

/-- Every value that `m` returns satisfies `P`. -/
def Ensures (m : EStateM ε σ α) (P : α → Prop) : Prop := ∀ s a s', m s = .ok a s' → P a

/-- A pure computation that may raise, run in any state. -/
def fromExcept : Except ε α → EStateM ε σ α
  | .ok a => pure a
  | .error e => throw e

/-- The outcome without the final state. -/
def outcome (m : EStateM ε σ α) (s : σ) : Except ε α :=
  match m s with
  | .ok a _ => .ok a
  | .error e _ => .error e

theorem fromExcept_ok_bind (a : α) (f : α → EStateM ε σ β) :
    (fromExcept (.ok a) >>= f) = f a := rfl

theorem fromExcept_error_bind (e : ε) (f : α → EStateM ε σ β) (s : σ) :
    (fromExcept (.error e) >>= f) s = .error e s := rfl

theorem eq_ok_of_toOption {x : Except ε α} {a : α} (h : x.toOption = some a) : x = .ok a := by
  cases x with
  | ok b =>
    cases h
    rfl
  | error e => cases h

theorem eq_ok_getD {x : Except ε α} (h : x.toOption.isSome = true) (d : α) :
    x = .ok (x.toOption.getD d) := by
  obtain ⟨a, ha⟩ := Option.isSome_iff_exists.mp h
  rw [ha]
  exact eq_ok_of_toOption ha

theorem bind_eq_ok {x : Except ε α} {f : α → Except ε β} {b : β} :
    x >>= f = .ok b ↔ ∃ a, x = .ok a ∧ f a = .ok b := by
  cases x with
  | error e => exact ⟨fun h => (by cases h), fun ⟨_, h, _⟩ => (by cases h)⟩
  | ok a =>
    constructor
    · exact fun h => ⟨a, rfl, h⟩
    · rintro ⟨a', ha, h⟩
      cases ha
      exact h

theorem exists_of_mem_right {R : α → β → Prop} {xs : List α} {ys : List β}
    (h : List.Forall₂ R xs ys) {y : β} (hy : y ∈ ys) : ∃ x ∈ xs, R x y := by
  induction h with
  | nil => cases hy
  | cons hxy _ ih =>
    rcases List.mem_cons.mp hy with rfl | hy
    · exact ⟨_, List.mem_cons_self, hxy⟩
    · obtain ⟨x, hx, hR⟩ := ih hy
      exact ⟨x, List.mem_cons_of_mem _ hx, hR⟩

theorem exists_of_mem_left {R : α → β → Prop} {xs : List α} {ys : List β}
    (h : List.Forall₂ R xs ys) {x : α} (hx : x ∈ xs) : ∃ y ∈ ys, R x y :=
  exists_of_mem_right (List.Forall₂.flip (R := Function.swap R) h) hx

theorem nodup_map_of_forall₂ {R : α → β → Prop} {key : β → γ}
    (huniq : ∀ x x' y y', R x y → R x' y' → key y = key y' → x = x') {xs : List α} {ys : List β}
    (h : List.Forall₂ R xs ys) (hnodup : xs.Nodup) : (ys.map key).Nodup := by
  induction h with
  | nil => exact List.nodup_nil
  | cons hxy htail ih =>
    rw [List.nodup_cons] at hnodup
    rw [List.map_cons, List.nodup_cons]
    refine ⟨?_, ih hnodup.2⟩
    intro hmem
    obtain ⟨y', hy', hkey⟩ := List.mem_map.mp hmem
    obtain ⟨x', hx', hR⟩ := exists_of_mem_right htail hy'
    have heq := huniq _ _ _ _ hR hxy hkey
    exact hnodup.1 (heq ▸ hx')

theorem mapM_cons_ok {f : β → Except ε γ} {x : β} {xs : List β} {y : γ} (h : f x = .ok y) :
    (x :: xs).mapM f = (xs.mapM f).map (List.cons y) := by
  rw [List.mapM_cons, h]
  cases hxs : xs.mapM f <;> rfl

theorem forall₂_of_mapM {f : β → Except ε γ} {xs : List β} {ys : List γ} (h : xs.mapM f = .ok ys) :
    List.Forall₂ (fun x y => f x = .ok y) xs ys := by
  induction xs generalizing ys with
  | nil =>
    cases h
    exact List.Forall₂.nil
  | cons x xs ih =>
    cases hx : f x with
    | error e =>
      rw [List.mapM_cons, hx] at h
      cases h
    | ok y =>
      rw [mapM_cons_ok hx] at h
      cases hxs : xs.mapM f with
      | error e =>
        rw [hxs] at h
        cases h
      | ok zs =>
        rw [hxs] at h
        cases h
        exact List.Forall₂.cons hx (ih hxs)

theorem exists_mapM {f : β → Except ε γ} {xs : List β} (h : ∀ x ∈ xs, ∃ y, f x = .ok y) :
    ∃ ys, xs.mapM f = .ok ys := by
  induction xs with
  | nil => exact ⟨[], rfl⟩
  | cons x xs ih =>
    obtain ⟨y, hy⟩ := h x List.mem_cons_self
    obtain ⟨ys, hys⟩ := ih fun x' hx' => h x' (List.mem_cons_of_mem x hx')
    exact ⟨y :: ys, by rw [mapM_cons_ok hy, hys]; rfl⟩

/-- Related values, or the same exception. -/
inductive Rel (R : α → β → Prop) : Except ε α → Except ε β → Prop
  | ok {a : α} {b : β} (h : R a b) : Rel R (.ok a) (.ok b)
  | error (e : ε) : Rel R (.error e) (.error e)

theorem Rel.mono {R S : α → β → Prop} {x : Except ε α} {y : Except ε β} (h : Rel R x y)
    (hRS : ∀ a b, R a b → S a b) : Rel S x y := by
  cases h with
  | ok h => exact .ok (hRS _ _ h)
  | error e => exact .error e

theorem rel_self {R : α → α → Prop} {x : Except ε α} (h : ∀ a, x = .ok a → R a a) : Rel R x x := by
  cases x with
  | ok a => exact .ok (h a rfl)
  | error e => exact .error e

theorem rel_mapM {R : β → γ → Prop} {f : α → Except ε β} {g : α → Except ε γ} {xs : List α}
    (h : ∀ x ∈ xs, Rel R (f x) (g x)) : Rel (List.Forall₂ R) (xs.mapM f) (xs.mapM g) := by
  induction xs with
  | nil => exact .ok .nil
  | cons x xs ih =>
    have hrest := ih fun x' hx' => h x' (List.mem_cons_of_mem x hx')
    have hx := h x List.mem_cons_self
    cases hf : f x with
    | error e =>
      rw [hf] at hx
      cases hg : g x with
      | ok c =>
        rw [hg] at hx
        cases hx
      | error e' =>
        rw [hg] at hx
        cases hx
        rw [List.mapM_cons, List.mapM_cons, hf, hg]
        exact .error e
    | ok b =>
      rw [hf] at hx
      cases hg : g x with
      | error e =>
        rw [hg] at hx
        cases hx
      | ok c =>
        rw [hg] at hx
        cases hx with
        | ok hbc =>
          rw [mapM_cons_ok hf, mapM_cons_ok hg]
          generalize xs.mapM f = ys, xs.mapM g = zs at hrest
          cases hrest with
          | ok htail => exact .ok (.cons hbc htail)
          | error e => exact .error e

namespace Ensures

variable {m : EStateM ε σ α} {P Q : α → Prop}

theorem mono (hm : Ensures m Q) (h : ∀ a, Q a → P a) : Ensures m P := by
  intro s a s' hrun
  exact h a (hm s a s' hrun)

theorem trivial : Ensures m fun _ => True := by
  intro s a s' _
  exact True.intro

theorem and (hP : Ensures m P) (hQ : Ensures m Q) : Ensures m fun a => P a ∧ Q a := by
  intro s a s' hrun
  exact ⟨hP s a s' hrun, hQ s a s' hrun⟩

theorem pure {a : α} (h : P a) : Ensures (pure a : EStateM ε σ α) P := by
  intro s b s' hrun
  cases hrun
  exact h

theorem throw (e : ε) : Ensures (throw e : EStateM ε σ α) P := by
  intro s a s' hrun
  cases hrun

theorem bind {f : α → EStateM ε σ β} {R : β → Prop} (hm : Ensures m Q)
    (hf : ∀ a, Q a → Ensures (f a) R) : Ensures (m >>= f) R := by
  intro s b s' hrun
  change EStateM.bind m f s = .ok b s' at hrun
  cases hs : m s with
  | ok a t =>
    rw [EStateM.bind, hs] at hrun
    exact hf a (hm s a t hs) t b s' hrun
  | error e t =>
    rw [EStateM.bind, hs] at hrun
    cases hrun

theorem bind' {f : α → EStateM ε σ β} {R : β → Prop} (hf : ∀ a, Ensures (f a) R) :
    Ensures (m >>= f) R :=
  bind trivial fun a _ => hf a

theorem map {f : α → β} {R : β → Prop} (hm : Ensures m fun a => R (f a)) :
    Ensures (f <$> m) R := by
  rw [map_eq_pure_bind]
  exact hm.bind fun a ha => pure ha

theorem fromExcept {x : Except ε α} (h : ∀ a, x = .ok a → P a) :
    Ensures (Raising.fromExcept x : EStateM ε σ α) P := by
  cases x with
  | ok a => exact pure (h a rfl)
  | error e => exact throw e

theorem mapM {f : β → EStateM ε σ γ} {R : β → γ → Prop} :
    ∀ {xs : List β}, (∀ x ∈ xs, Ensures (f x) (R x)) → Ensures (xs.mapM f) (List.Forall₂ R xs)
  | [], _ => by
    rw [List.mapM_nil]
    exact pure List.Forall₂.nil
  | x :: xs, h => by
    rw [List.mapM_cons]
    refine (h x (by simp)).bind fun y hy => ?_
    refine (mapM fun x' hx' => h x' (by simp [hx'])).bind fun ys hys => ?_
    exact pure (List.Forall₂.cons hy hys)

/-- A loop with an accumulator: the invariant speaks of the items taken so far. -/
theorem foldlM_aux {f : γ → β → EStateM ε σ γ} {I : List β → γ → Prop} {all : List β}
    (hstep : ∀ pre x c, pre ++ [x] <+: all → I pre c → Ensures (f c x) (I (pre ++ [x]))) :
    ∀ (xs pre : List β) (c : γ), pre ++ xs = all → I pre c → Ensures (xs.foldlM f c) (I all)
  | [], pre, c, hall, hc => by
    rw [List.foldlM_nil]
    rw [List.append_nil] at hall
    exact pure (hall ▸ hc)
  | x :: xs, pre, c, hall, hc => by
    rw [List.foldlM_cons]
    refine (hstep pre x c ⟨xs, by simpa using hall⟩ hc).bind fun c' hc' => ?_
    exact foldlM_aux hstep xs (pre ++ [x]) c' (by simpa using hall) hc'

theorem foldlM {f : γ → β → EStateM ε σ γ} {I : List β → γ → Prop} {xs : List β} {c : γ}
    (hc : I [] c)
    (hstep : ∀ pre x c, pre ++ [x] <+: xs → I pre c → Ensures (f c x) (I (pre ++ [x]))) :
    Ensures (xs.foldlM f c) (I xs) :=
  foldlM_aux hstep xs [] c (List.nil_append xs) hc

theorem outcome {s : σ} {a : α} (hm : Ensures m P) (h : Raising.outcome m s = .ok a) : P a := by
  unfold Raising.outcome at h
  cases hs : m s with
  | ok b t =>
    rw [hs] at h
    cases h
    exact hm s a t hs
  | error e t =>
    rw [hs] at h
    cases h

end Ensures
end Raising
end AtlasConnectors
