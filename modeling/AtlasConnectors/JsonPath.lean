import AtlasConnectors.JsonTree

/-! Paths into JSON values. -/
namespace AtlasConnectors

inductive Step
  | key (k : String)
  | item (i : ℕ)

namespace Json

variable {φ : Type}

/-- The value at the end of a path, if the path stays inside. -/
def at? : Json φ → List Step → Option (Json φ)
  | j, [] => some j
  | .obj members, .key k :: path => (List.lookup k members).bind fun v => v.at? path
  | .arr items, .item i :: path => items[i]?.bind fun v => v.at? path
  | _, _ :: _ => none

@[simp] theorem at?_nil (j : Json φ) : j.at? [] = some j := by
  cases j <;> rfl

theorem at?_key (members : List (String × Json φ)) (k : String) (path : List Step) :
    (obj members).at? (.key k :: path) = (List.lookup k members).bind fun v => v.at? path := rfl

theorem at?_item (items : List (Json φ)) (i : ℕ) (path : List Step) :
    (arr items).at? (.item i :: path) = items[i]?.bind fun v => v.at? path := rfl

theorem at?_cons_some {j v : Json φ} {step : Step} {path : List Step} (h : j.at? (step :: path) = some v) :
    (∃ members k u, j = .obj members ∧ step = .key k ∧ List.lookup k members = some u ∧ u.at? path = some v) ∨
      ∃ items i u, j = .arr items ∧ step = .item i ∧ items[i]? = some u ∧ u.at? path = some v := by
  cases j with
  | obj members =>
    cases step with
    | key k =>
      obtain ⟨u, hu, hv⟩ := Option.bind_eq_some_iff.mp ((at?_key members k path).symm.trans h)
      exact Or.inl ⟨members, k, u, rfl, rfl, hu, hv⟩
    | item i => cases h
  | arr items =>
    cases step with
    | key k => cases h
    | item i =>
      obtain ⟨u, hu, hv⟩ := Option.bind_eq_some_iff.mp ((at?_item items i path).symm.trans h)
      exact Or.inr ⟨items, i, u, rfl, rfl, hu, hv⟩
  | null => cases step <;> cases h
  | bool b => cases step <;> cases h
  | int n => cases step <;> cases h
  | float x => cases step <;> cases h
  | str s => cases step <;> cases h

theorem everyObject_at? {P : List (String × Json φ) → Prop} {j v : Json φ} {path : List Step}
    (h : EveryObject P j) (hv : j.at? path = some v) : EveryObject P v := by
  induction path generalizing j with
  | nil =>
    rw [at?_nil] at hv
    cases hv
    exact h
  | cons step path ih =>
    rcases at?_cons_some hv with ⟨members, k, u, rfl, rfl, hu, hv⟩ | ⟨items, i, u, rfl, rfl, hu, hv⟩
    · exact ih (everyMember_iff.mp h.2 (k, u) (Dict.mem_of_lookup hu)) hv
    · exact ih (everyItem_iff.mp h u (List.mem_of_getElem? hu)) hv

end Json
end AtlasConnectors
