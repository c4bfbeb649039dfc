import AtlasConnectors.JsonTree

/-! JSON values up to the order of their keys: the text of sorted keys identifies them. -/
namespace AtlasConnectors
namespace Json

variable {φ : Type}

section Induction

variable {P : Json φ → Prop} (scalar : ∀ j, IsScalar j → P j) (arr : ∀ items, (∀ item ∈ items, P item) → P (.arr items))
  (obj : ∀ members, (∀ p ∈ members, P p.2) → P (.obj members))

include scalar arr obj

/-- A property that passes from the parts of a value to the value holds of every value. -/
theorem forall_of_parts : ∀ j, P j
  | .null => scalar .null trivial
  | .bool b => scalar (.bool b) trivial
  | .int n => scalar (.int n) trivial
  | .float x => scalar (.float x) trivial
  | .str s => scalar (.str s) trivial
  | .arr items => arr items fun item hitem =>
    have := List.sizeOf_lt_of_mem hitem
    forall_of_parts item
  | .obj members => obj members fun p hp =>
    have := List.sizeOf_lt_of_mem hp
    have : sizeOf p = 1 + sizeOf p.1 + sizeOf p.2 := by cases p; rfl
    forall_of_parts p.2
termination_by j => sizeOf j

end Induction

/-- Every object has distinct keys. -/
def UniqueKeys (j : Json φ) : Prop := EveryObject (fun members => (Dict.keys members).Nodup) j

/-- The values are equal: lists item by item, objects key by key. A boolean is no integer. -/
inductive SameValue : Json φ → Json φ → Prop
  | null : SameValue .null .null
  | bool (b : Bool) : SameValue (.bool b) (.bool b)
  | int (n : ℤ) : SameValue (.int n) (.int n)
  | float (x : φ) : SameValue (.float x) (.float x)
  | str (s : String) : SameValue (.str s) (.str s)
  | arr (xs ys : List (Json φ)) (hlength : xs.length = ys.length)
      (hitems : ∀ (i : ℕ) x y, xs[i]? = some x → ys[i]? = some y → SameValue x y) : SameValue (.arr xs) (.arr ys)
  | obj (ps qs : List (String × Json φ)) (hkeys : ∀ k, k ∈ Dict.keys ps ↔ k ∈ Dict.keys qs)
      (hmembers : ∀ k v w, List.lookup k ps = some v → List.lookup k qs = some w → SameValue v w) :
      SameValue (.obj ps) (.obj qs)

theorem uniqueKeys_arr {items : List (Json φ)} : UniqueKeys (.arr items) ↔ ∀ item ∈ items, UniqueKeys item :=
  everyItem_iff

theorem uniqueKeys_obj {members : List (String × Json φ)} : UniqueKeys (.obj members) ↔
    (Dict.keys members).Nodup ∧ ∀ p ∈ members, UniqueKeys p.2 := by
  rw [UniqueKeys, EveryObject, everyMember_iff]
  rfl

theorem sortKeysItems_eq_map (items : List (Json φ)) : sortKeysItems items = items.map sortKeys := by
  induction items with
  | nil => rw [sortKeysItems, List.map_nil]
  | cons item items ih => rw [sortKeysItems, ih, List.map_cons]

theorem sortKeysMembers_eq_map (members : List (String × Json φ)) :
    sortKeysMembers members = members.map fun p => (p.1, sortKeys p.2) := by
  induction members with
  | nil => rw [sortKeysMembers, List.map_nil]
  | cons p members ih => rw [sortKeysMembers, ih, List.map_cons]

theorem sortKeys_arr_eq_iff {xs ys : List (Json φ)} :
    sortKeys (.arr xs) = sortKeys (.arr ys) ↔ xs.map sortKeys = ys.map sortKeys := by
  rw [sortKeys, sortKeys, Json.arr.injEq, sortKeysItems_eq_map, sortKeysItems_eq_map]

theorem keys_map_sortKeys (members : List (String × Json φ)) :
    Dict.keys (members.map fun p => (p.1, sortKeys p.2)) = Dict.keys members := by
  rw [Dict.keys, Dict.keys, List.map_map]
  rfl

theorem sortKeys_obj_eq_iff {ps qs : List (String × Json φ)} (hp : (Dict.keys ps).Nodup)
    (hq : (Dict.keys qs).Nodup) : sortKeys (.obj ps) = sortKeys (.obj qs) ↔
      ∀ k, (List.lookup k ps).map sortKeys = (List.lookup k qs).map sortKeys := by
  rw [sortKeys, sortKeys, Json.obj.injEq, sortKeysMembers_eq_map, sortKeysMembers_eq_map,
    sortPairs_eq_iff_perm (by rwa [keys_map_sortKeys]),
    Dict.perm_iff_lookup (by rwa [keys_map_sortKeys]) (by rwa [keys_map_sortKeys])]
  apply forall_congr'
  intro k
  rw [Dict.lookup_map, Dict.lookup_map]

theorem SameValue.sortKeys_eq {a b : Json φ} (h : SameValue a b) (ha : UniqueKeys a) (hb : UniqueKeys b) :
    sortKeys a = sortKeys b := by
  induction h with
  | null => rfl
  | bool b => rfl
  | int n => rfl
  | float x => rfl
  | str s => rfl
  | arr xs ys hlength _ ih =>
    rw [uniqueKeys_arr] at ha hb
    rw [sortKeys_arr_eq_iff]
    apply List.ext_getElem
    · rw [List.length_map, List.length_map, hlength]
    · intro i hi hi'
      rw [List.length_map] at hi hi'
      rw [List.getElem_map, List.getElem_map]
      exact ih i _ _ (List.getElem?_eq_getElem hi) (List.getElem?_eq_getElem hi') (ha _ (List.getElem_mem hi))
        (hb _ (List.getElem_mem hi'))
  | obj ps qs hkeys _ ih =>
    rw [uniqueKeys_obj] at ha hb
    rw [sortKeys_obj_eq_iff ha.1 hb.1]
    intro k
    cases hv : List.lookup k ps with
    | none =>
      rw [Dict.lookup_eq_none_iff.mpr fun hk => Dict.lookup_eq_none_iff.mp hv ((hkeys k).mpr hk)]
    | some v =>
      obtain ⟨w, hw⟩ := Option.isSome_iff_exists.mp
        (Dict.isSome_lookup.mpr ((hkeys k).mp (Dict.mem_keys_of_lookup hv)))
      rw [hw, Option.map_some, Option.map_some,
        ih k v w hv hw (ha.2 _ (Dict.mem_of_lookup hv)) (hb.2 _ (Dict.mem_of_lookup hw))]

theorem sameValue_of_sortKeys (a : Json φ) : ∀ b, UniqueKeys a → UniqueKeys b → sortKeys a = sortKeys b →
    SameValue a b := by
  induction a using forall_of_parts with
  | scalar a hscalar =>
    intro b _ _ h
    rw [sortKeys_of_isScalar hscalar] at h
    cases b with
    | arr ys => rw [h, sortKeys] at hscalar; cases hscalar
    | obj qs => rw [h, sortKeys] at hscalar; cases hscalar
    | null => rw [h]; exact .null
    | bool b => rw [h]; exact .bool b
    | int n => rw [h]; exact .int n
    | float x => rw [h]; exact .float x
    | str s => rw [h]; exact .str s
  | arr xs ih =>
    intro b ha hb h
    cases b with
    | arr ys =>
      rw [sortKeys_arr_eq_iff] at h
      rw [uniqueKeys_arr] at ha hb
      refine .arr xs ys (by simpa using congrArg List.length h) ?_
      intro i x y hx hy
      have hsame := congrArg (fun items : List (Json φ) => items[i]?) h
      simp only [List.getElem?_map, hx, hy, Option.map_some, Option.some_inj] at hsame
      exact ih x (List.mem_of_getElem? hx) y (ha x (List.mem_of_getElem? hx)) (hb y (List.mem_of_getElem? hy)) hsame
    | _ => simp [sortKeys] at h
  | obj ps ih =>
    intro b ha hb h
    cases b with
    | obj qs =>
      rw [uniqueKeys_obj] at ha hb
      rw [sortKeys_obj_eq_iff ha.1 hb.1] at h
      refine .obj ps qs ?_ ?_
      · intro k
        have hsome := congrArg Option.isSome (h k)
        rw [Option.isSome_map, Option.isSome_map] at hsome
        rw [← Dict.isSome_lookup, ← Dict.isSome_lookup, hsome]
      · intro k v w hv hw
        have hsame := h k
        rw [hv, hw, Option.map_some, Option.map_some, Option.some_inj] at hsame
        exact ih _ (Dict.mem_of_lookup hv) w (ha.2 _ (Dict.mem_of_lookup hv)) (hb.2 _ (Dict.mem_of_lookup hw)) hsame
    | _ => simp [sortKeys] at h

theorem dumps_eq_iff_sameValue {a b : Json Empty} (ha : UniqueKeys a) (hb : UniqueKeys b) :
    dumps a = dumps b ↔ SameValue a b := by
  rw [dumps_eq_iff]
  exact ⟨sameValue_of_sortKeys a b ha hb, fun h => h.sortKeys_eq ha hb⟩

end Json
end AtlasConnectors
