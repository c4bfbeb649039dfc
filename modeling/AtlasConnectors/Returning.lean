import AtlasConnectors.Raising

/-! Computations on a state that raise nothing: rules for when they return. -/
namespace AtlasConnectors
namespace Raising

variable {ε σ α β γ : Type}

/-- From every state, `m` returns. -/
def Returns (m : EStateM ε σ α) : Prop := ∀ s, ∃ a s', m s = .ok a s'

namespace Returns

variable {m : EStateM ε σ α} {Q : α → Prop}

theorem pure (a : α) : Returns (pure a : EStateM ε σ α) := by
  intro s
  exact ⟨a, s, rfl⟩

theorem fromExcept {x : Except ε α} (h : ∃ a, x = .ok a) :
    Returns (Raising.fromExcept x : EStateM ε σ α) := by
  obtain ⟨a, rfl⟩ := h
  exact pure a

theorem bind {f : α → EStateM ε σ β} (hm : Returns m) (hq : Ensures m Q)
    (hf : ∀ a, Q a → Returns (f a)) : Returns (m >>= f) := by
  intro s
  obtain ⟨a, t, ha⟩ := hm s
  obtain ⟨b, u, hb⟩ := hf a (hq s a t ha) t
  refine ⟨b, u, ?_⟩
  change EStateM.bind m f s = _
  rw [EStateM.bind, ha]
  exact hb

theorem bind' {f : α → EStateM ε σ β} (hm : Returns m) (hf : ∀ a, Returns (f a)) :
    Returns (m >>= f) :=
  bind hm Ensures.trivial fun a _ => hf a

theorem bindExcept {x : Except ε α} {f : α → EStateM ε σ β} (h : ∃ a, x = .ok a)
    (hf : ∀ a, x = .ok a → Returns (f a)) : Returns (Raising.fromExcept x >>= f) := by
  obtain ⟨a, rfl⟩ := h
  exact hf a rfl

theorem map {f : α → β} (hm : Returns m) : Returns (f <$> m) := by
  rw [map_eq_pure_bind]
  exact hm.bind' fun a => pure (f a)

theorem mapM {f : β → EStateM ε σ γ} :
    ∀ {xs : List β}, (∀ x ∈ xs, Returns (f x)) → Returns (xs.mapM f)
  | [], _ => by
    rw [List.mapM_nil]
    exact pure []
  | x :: xs, h => by
    rw [List.mapM_cons]
    refine (h x List.mem_cons_self).bind' fun y => ?_
    refine (mapM fun x' hx' => h x' (List.mem_cons_of_mem x hx')).bind' fun ys => ?_
    exact pure (y :: ys)

theorem foldlM {f : γ → β → EStateM ε σ γ} {I : γ → Prop} :
    ∀ {xs : List β} {c : γ}, I c → (∀ c, ∀ x ∈ xs, I c → Returns (f c x)) →
      (∀ c, ∀ x ∈ xs, I c → Ensures (f c x) I) → Returns (xs.foldlM f c)
  | [], c, _, _, _ => by
    rw [List.foldlM_nil]
    exact pure c
  | x :: xs, c, hc, hstep, hkeep => by
    rw [List.foldlM_cons]
    refine (hstep c x List.mem_cons_self hc).bind (hkeep c x List.mem_cons_self hc) fun c' hc' => ?_
    exact foldlM hc' (fun d y hy => hstep d y (List.mem_cons_of_mem x hy))
      fun d y hy => hkeep d y (List.mem_cons_of_mem x hy)

theorem outcome (hm : Returns m) (s : σ) : ∃ a, Raising.outcome m s = .ok a := by
  obtain ⟨a, t, ha⟩ := hm s
  exact ⟨a, by rw [Raising.outcome, ha]⟩

end Returns

/-- From every state, `m` raises `e`. -/
def Raises (m : EStateM ε σ α) (e : ε) : Prop := ∀ s, ∃ s', m s = .error e s'

namespace Raises

variable {e : ε} {f : α → EStateM ε σ β} {x : Except ε α}

theorem of_error (h : x = .error e) : Raises (Raising.fromExcept x >>= f) e := by
  subst h
  exact fun s => ⟨s, rfl⟩

theorem bindExcept (h : ∃ a, x = .ok a) (hf : ∀ a, x = .ok a → Raises (f a) e) :
    Raises (Raising.fromExcept x >>= f) e := by
  obtain ⟨a, rfl⟩ := h
  exact hf a rfl

theorem outcome {m : EStateM ε σ α} (hm : Raises m e) (s : σ) : Raising.outcome m s = .error e := by
  obtain ⟨t, ht⟩ := hm s
  rw [Raising.outcome, ht]

end Raises

theorem mapM_eq_error {f : β → Except ε γ} {e : ε} {xs : List β}
    (hall : ∀ x ∈ xs, (∃ y, f x = .ok y) ∨ f x = .error e) (h : ∃ x ∈ xs, f x = .error e) :
    xs.mapM f = .error e := by
  induction xs with
  | nil =>
    obtain ⟨x, hx, _⟩ := h
    cases hx
  | cons x xs ih =>
    rcases hall x List.mem_cons_self with ⟨y, hy⟩ | hx
    · have hrest : ∃ x' ∈ xs, f x' = .error e := by
        obtain ⟨x', hx', he⟩ := h
        rcases List.mem_cons.mp hx' with rfl | hx'
        · rw [hy] at he
          cases he
        · exact ⟨x', hx', he⟩
      rw [mapM_cons_ok hy, ih (fun x' hx' => hall x' (List.mem_cons_of_mem x hx')) hrest]
      rfl
    · rw [List.mapM_cons, hx]
      rfl

end Raising
end AtlasConnectors
