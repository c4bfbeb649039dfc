import AtlasConnectors.GroundTruth
import AtlasConnectors.JsonPath
import AtlasConnectors.JsonValue

/-! Enrichment of any tree: at every path what was there, with the hashes that its indices name. -/
namespace AtlasConnectors

/-- An integer of Python and its value; a boolean is one. -/
inductive IntegerValue : Json PyFloat → ℤ → Prop
  | int (n : ℤ) : IntegerValue (.int n) n
  | bool (b : Bool) : IntegerValue (.bool b) (if b then 1 else 0)

/-- The value is an integer in range, and `h` is the hash at it. -/
def HashOf (hashes : List String) (v : Json PyFloat) (h : String) : Prop :=
  ∃ k : ℕ, IntegerValue v k ∧ hashes[k]? = some h

/-- The hashes at the integers in range, in order. -/
inductive HashesOf (hashes : List String) : List (Json PyFloat) → List String → Prop
  | nil : HashesOf hashes [] []
  | hit {v : Json PyFloat} {vs : List (Json PyFloat)} {h : String} {hs : List String} (hv : HashOf hashes v h)
      (hvs : HashesOf hashes vs hs) : HashesOf hashes (v :: vs) (h :: hs)
  | miss {v : Json PyFloat} {vs : List (Json PyFloat)} {hs : List String} (hv : ¬∃ h, HashOf hashes v h)
      (hvs : HashesOf hashes vs hs) : HashesOf hashes (v :: vs) hs

/-- An object with the hashes of its indices: no other key is added, and none is lost. -/
structure EnrichedObject (hashes : List String) (members out : Payload PyFloat) : Prop where
  keys : ∃ added : List String, added.Sublist ["source_hash", "source_hashes"] ∧ out.keys = members.keys ++ added
  source_hash : ∀ v, out.lookup "source_hash" = some v ↔
    ∃ index h, members.lookup "record_index" = some index ∧ HashOf hashes index h ∧ v = .str h
  source_hashes : ∀ v, out.lookup "source_hashes" = some v ↔
    ∃ indices hs, members.lookup "record_indices" = some (.arr indices) ∧ HashesOf hashes indices hs ∧
      v = .arr (hs.map .str)

/-- Every path leads to what it led to, and the paths that are new start at an added key. -/
structure Conservative (hashes : List String) (g out : Json PyFloat) : Prop where
  scalars : ∀ path v, g.at? path = some v → v.IsScalar → out.at? path = some v
  lists : ∀ path items, g.at? path = some (.arr items) →
    ∃ items', out.at? path = some (.arr items') ∧ items'.length = items.length
  objects : ∀ path members, g.at? path = some (.obj members) →
    ∃ members', out.at? path = some (.obj members') ∧ EnrichedObject hashes members members'
  paths : ∀ path v, out.at? path = some v → (∃ u, g.at? path = some u) ∨
    ∃ above k below members, path = above ++ .key k :: below ∧ (k = "source_hash" ∨ k = "source_hashes") ∧
      g.at? above = some (.obj members)

def Unhashed (members : Payload PyFloat) : Prop :=
  "source_hash" ∉ members.keys ∧ "source_hashes" ∉ members.keys

section OneObject

variable {hashes : List String}

theorem hashOf_iff {v : Json PyFloat} {h : String} : HashOf hashes v h ↔ hashAt hashes v = some h := by
  constructor
  · rintro ⟨k, hk, hhash⟩
    cases v with
    | int n =>
      cases hk
      rw [hashAt_int, hhash]
    | bool b =>
      generalize hn : (k : ℤ) = n at hk
      cases hk
      simp only [hashAt, asIndex, ← hn, Int.natCast_nonneg, if_true, Int.toNat_natCast, hhash]
    | null => cases hk
    | float x => cases hk
    | str s => cases hk
    | arr items => cases hk
    | obj members => cases hk
  · intro hhash
    have hvalue : ∀ n, asIndex v = some n → IntegerValue v n := by
      intro n hn
      cases v <;> cases hn
      · exact .bool _
      · exact .int _
    unfold hashAt at hhash
    cases hv : asIndex v with
    | none => simp [hv] at hhash
    | some n =>
      simp only [hv] at hhash
      split_ifs at hhash with hn
      refine ⟨n.toNat, ?_, hhash⟩
      rw [Int.toNat_of_nonneg hn]
      exact hvalue n hv

theorem hashesOf_iff {vs : List (Json PyFloat)} {hs : List String} :
    HashesOf hashes vs hs ↔ vs.filterMap (hashAt hashes) = hs := by
  induction vs generalizing hs with
  | nil =>
    constructor
    · rintro ⟨⟩
      rfl
    · rintro rfl
      exact .nil
  | cons v vs ih =>
    cases hv : hashAt hashes v with
    | some h =>
      rw [List.filterMap_cons_some hv]
      constructor
      · intro hall
        cases hall with
        | hit hv' hvs =>
          cases hv.symm.trans (hashOf_iff.mp hv')
          rw [ih.mp hvs]
        | miss hv' _ => exact absurd ⟨h, hashOf_iff.mpr hv⟩ hv'
      · rintro rfl
        exact .hit (hashOf_iff.mpr hv) (ih.mpr rfl)
    | none =>
      have hnone : ¬∃ h, HashOf hashes v h := by
        rintro ⟨h, hh⟩
        cases hv.symm.trans (hashOf_iff.mp hh)
      rw [List.filterMap_cons_none hv]
      constructor
      · intro hall
        cases hall with
        | hit hv' _ => exact absurd ⟨_, hv'⟩ hnone
        | miss _ hvs => exact ih.mp hvs
      · intro hall
        exact .miss hnone (ih.mpr hall)

/-- Walking a value does not make it an index or spoil one. -/
theorem hashAt_walk (v : Json PyFloat) : hashAt hashes (walk hashes v) = hashAt hashes v := by
  cases v <;> rfl

theorem walkItems_eq_map (items : List (Json PyFloat)) : walkItems hashes items = items.map (walk hashes) := by
  induction items with
  | nil => rfl
  | cons item items ih => rw [walkItems, ih, List.map_cons]

theorem walkMembers_eq_map (members : Payload PyFloat) :
    walkMembers hashes members = members.map fun p => (p.1, walk hashes p.2) := by
  induction members with
  | nil => rfl
  | cons p members ih => rw [walkMembers, ih, List.map_cons]

theorem keys_walkMembers (members : Payload PyFloat) : Dict.keys (walkMembers hashes members) = members.keys := by
  simp [walkMembers_eq_map, Dict.keys, Function.comp_def]

theorem lookup_hashes (members : Payload PyFloat) (hfresh : "source_hash" ∉ members.keys) :
    (annotate hashes members).lookup "source_hash" =
      ((members.lookup "record_index").bind (hashAt hashes)).map .str := by
  rw [annotate_eq, lookup_hashMany (by decide), hashOne]
  cases (members.lookup "record_index").bind (hashAt hashes) with
  | none => exact Dict.lookup_eq_none_iff.mpr hfresh
  | some h => simp [Dict.lookup_set]

theorem source_hashes_iff (members : Payload PyFloat) (hfresh : "source_hashes" ∉ members.keys) (v : Json PyFloat) :
    (annotate hashes members).lookup "source_hashes" = some v ↔ ∃ indices,
      members.lookup "record_indices" = some (.arr indices) ∧
        v = .arr ((indices.filterMap (hashAt hashes)).map .str) := by
  have hnone : (hashOne hashes members).lookup "source_hashes" = none := by
    rw [lookup_hashOne (by decide)]
    exact Dict.lookup_eq_none_iff.mpr hfresh
  have hkept : (hashOne hashes members).lookup "record_indices" = members.lookup "record_indices" :=
    lookup_hashOne (by decide)
  rw [annotate_eq, hashMany, hkept]
  split
  · rename_i indices hlook
    rw [hlook, Dict.lookup_set, if_pos rfl]
    simp [eq_comm]
  · rename_i hno
    rw [hnone]
    constructor
    · rintro ⟨⟩
    · rintro ⟨indices, hlook, _⟩
      exact absurd hlook (hno indices)

theorem keys_annotate {members : Payload PyFloat} (h : Unhashed members) : ∃ added : List String,
    added.Sublist ["source_hash", "source_hashes"] ∧ (annotate hashes members).keys = members.keys ++ added := by
  have hstore : ∀ {d : Payload PyFloat} {k : String} (v : Json PyFloat), k ∉ d.keys →
      (d.set k v).keys = d.keys ++ [k] := by
    intro d k v hk
    rw [Dict.set_of_not_mem hk]
    simp [Dict.keys]
  rw [annotate_eq]
  rcases hashOne_cases hashes members with hone | ⟨_, hash, hone⟩
  · rcases hashMany_cases hashes (hashOne hashes members) with hmany | ⟨_, hs, hmany⟩
    · exact ⟨[], by simp, by rw [hmany, hone, List.append_nil]⟩
    · exact ⟨["source_hashes"], by simp, by rw [hmany, hone, hstore _ h.2]⟩
  · rcases hashMany_cases hashes (hashOne hashes members) with hmany | ⟨_, hs, hmany⟩
    · exact ⟨["source_hash"], by simp, by rw [hmany, hone, hstore _ h.1]⟩
    · have hsecond : "source_hashes" ∉ (members.set "source_hash" (.str hash)).keys := by
        simpa [Dict.mem_keys_set] using h.2
      refine ⟨["source_hash", "source_hashes"], List.Sublist.refl _, ?_⟩
      rw [hmany, hone, hstore _ hsecond, hstore _ h.1, List.append_assoc, List.singleton_append]

theorem enrichedObject_annotate {members : Payload PyFloat} (h : Unhashed members) :
    EnrichedObject hashes members (annotate hashes (walkMembers hashes members)) := by
  have hwalked : Unhashed (walkMembers hashes members) := by
    rw [Unhashed, keys_walkMembers]
    exact h
  constructor
  · obtain ⟨added, hadded, hkeys⟩ := keys_annotate hwalked
    exact ⟨added, hadded, by rw [hkeys, keys_walkMembers]⟩
  · intro v
    rw [lookup_hashes _ hwalked.1, lookup_walkMembers]
    simp only [Option.map_eq_some_iff, Option.bind_eq_some_iff, hashOf_iff]
    constructor
    · rintro ⟨h, ⟨_, ⟨index, hindex, rfl⟩, hhash⟩, rfl⟩
      exact ⟨index, h, hindex, (hashAt_walk index).symm.trans hhash, rfl⟩
    · rintro ⟨index, h, hindex, hhash, rfl⟩
      exact ⟨h, ⟨_, ⟨index, hindex, rfl⟩, (hashAt_walk index).trans hhash⟩, rfl⟩
  · intro v
    have hfilter : ∀ items : List (Json PyFloat),
        (items.map (walk hashes)).filterMap (hashAt hashes) = items.filterMap (hashAt hashes) := by
      intro items
      rw [List.filterMap_map]
      exact congrArg (fun f => items.filterMap f) (funext hashAt_walk)
    rw [source_hashes_iff _ hwalked.2, lookup_walkMembers]
    simp only [Option.map_eq_some_iff, hashesOf_iff]
    constructor
    · rintro ⟨_, ⟨w, hw, hwalk⟩, rfl⟩
      cases w with
      | arr items =>
        rw [walk, Json.arr.injEq, walkItems_eq_map] at hwalk
        rw [← hwalk, hfilter]
        exact ⟨items, _, hw, rfl, rfl⟩
      | null => cases hwalk
      | bool b => cases hwalk
      | int n => cases hwalk
      | float x => cases hwalk
      | str s => cases hwalk
      | obj ms => cases hwalk
    · rintro ⟨items, _, hitems, rfl, rfl⟩
      refine ⟨items.map (walk hashes), ⟨_, hitems, ?_⟩, by rw [hfilter]⟩
      rw [walk, walkItems_eq_map]

theorem annotate_idem (members : Payload PyFloat) :
    annotate hashes (annotate hashes members) = annotate hashes members := by
  have hindex : (annotate hashes members).lookup "record_index" = members.lookup "record_index" := by
    rw [annotate_eq, lookup_hashMany (by decide), lookup_hashOne (by decide)]
  have hindices : (annotate hashes members).lookup "record_indices" = members.lookup "record_indices" := by
    rw [annotate_eq, lookup_hashMany (by decide), lookup_hashOne (by decide)]
  have hone : hashOne hashes (annotate hashes members) = annotate hashes members := by
    rw [hashOne, hindex]
    cases hhash : (members.lookup "record_index").bind (hashAt hashes) with
    | none => rfl
    | some h =>
      apply Dict.set_of_lookup
      rw [annotate_eq, lookup_hashMany (by decide), hashOne, hhash]
      simp [Dict.lookup_set]
  rw [annotate_eq, hone, hashMany, hindices]
  split
  · rename_i indices hlook
    apply Dict.set_of_lookup
    rw [annotate_eq, hashMany, lookup_hashOne (by decide), hlook]
    simp [Dict.lookup_set]
  · rfl

theorem walk_of_mem_annotate {members : Payload PyFloat} (h : ∀ p ∈ members, walk hashes p.2 = p.2)
    {p : String × Json PyFloat} (hp : p ∈ annotate hashes members) : walk hashes p.2 = p.2 := by
  have hstrs : ∀ hs : List String, walk hashes (.arr (hs.map .str)) = .arr (hs.map .str) := by
    intro hs
    rw [walk, walkItems_eq_map, List.map_map]
    rfl
  have hone : ∀ q ∈ hashOne hashes members, walk hashes q.2 = q.2 := by
    intro q hq
    rcases hashOne_cases hashes members with heq | ⟨_, hash, heq⟩
    · exact h q (heq ▸ hq)
    · rw [heq] at hq
      rcases Dict.mem_or_eq_of_mem_set hq with hmem | hval
      · exact h q hmem
      · rw [hval]
        rfl
  rw [annotate_eq] at hp
  rcases hashMany_cases hashes (hashOne hashes members) with heq | ⟨_, hs, heq⟩
  · exact hone p (heq ▸ hp)
  · rw [heq] at hp
    rcases Dict.mem_or_eq_of_mem_set hp with hmem | hval
    · exact hone p hmem
    · rw [hval, hstrs]

theorem walk_idem (hashes : List String) (j : Json PyFloat) : walk hashes (walk hashes j) = walk hashes j := by
  induction j using Json.forall_of_parts with
  | scalar j hscalar => cases j <;> first | rfl | cases hscalar
  | arr items ih =>
    rw [walk, walk, walkItems_eq_map, walkItems_eq_map, List.map_map]
    exact congrArg Json.arr (List.map_congr_left ih)
  | obj members ih =>
    have hvalues : ∀ p ∈ walkMembers hashes members, walk hashes p.2 = p.2 := by
      rw [walkMembers_eq_map]
      intro p hp
      obtain ⟨q, hq, rfl⟩ := List.mem_map.mp hp
      exact ih q hq
    have hself : walkMembers hashes (annotate hashes (walkMembers hashes members)) =
        annotate hashes (walkMembers hashes members) := by
      rw [walkMembers_eq_map (annotate hashes _)]
      refine (List.map_congr_left fun p hp => ?_).trans (List.map_id _)
      rw [walk_of_mem_annotate hvalues hp, id_eq]
    rw [walk, walk, hself, annotate_idem]

end OneObject

section Paths

variable {hashes : List String} {g v : Json PyFloat} {path : List Step}

theorem lookup_enriched {members : Payload PyFloat} {k : String} (hone : k ≠ "source_hash") (hmany : k ≠ "source_hashes") :
    (annotate hashes (walkMembers hashes members)).lookup k = (members.lookup k).map (walk hashes) := by
  rw [annotate_eq, lookup_hashMany hmany, lookup_hashOne hone, lookup_walkMembers]

/-- A path of the tree leads to what it led to, enriched. -/
theorem at?_walk (hfresh : g.EveryObject Unhashed) (h : g.at? path = some v) :
    (walk hashes g).at? path = some (walk hashes v) := by
  induction path generalizing g with
  | nil =>
    rw [Json.at?_nil] at h ⊢
    cases h
    rfl
  | cons step path ih =>
    rcases Json.at?_cons_some h with ⟨members, k, u, rfl, rfl, hu, hv⟩ | ⟨items, i, u, rfl, rfl, hu, hv⟩
    · have hkey := Dict.mem_keys_of_lookup hu
      have hone : k ≠ "source_hash" := fun heq => hfresh.1.1 (heq ▸ hkey)
      have hmany : k ≠ "source_hashes" := fun heq => hfresh.1.2 (heq ▸ hkey)
      have hrest := Json.everyMember_iff.mp hfresh.2 (k, u) (Dict.mem_of_lookup hu)
      rw [walk, Json.at?_key, lookup_enriched hone hmany, hu]
      exact ih hrest hv
    · have hrest := Json.everyItem_iff.mp hfresh u (List.mem_of_getElem? hu)
      rw [walk, Json.at?_item, walkItems_eq_map, List.getElem?_map, hu]
      exact ih hrest hv

/-- A path of the enriched tree is one of the tree, up to its first added key. -/
theorem exists_of_at?_walk (h : (walk hashes g).at? path = some v) : (∃ u, g.at? path = some u) ∨
    ∃ above k below members, path = above ++ .key k :: below ∧ (k = "source_hash" ∨ k = "source_hashes") ∧
      g.at? above = some (.obj members) := by
  induction path generalizing g with
  | nil => exact Or.inl ⟨g, Json.at?_nil g⟩
  | cons step path ih =>
    cases g with
    | obj members =>
      rw [walk] at h
      obtain ⟨_, k, u, ⟨⟩, rfl, hu, hv⟩ | ⟨_, _, _, ⟨⟩, _⟩ := Json.at?_cons_some h
      by_cases hkey : k = "source_hash" ∨ k = "source_hashes"
      · exact Or.inr ⟨[], k, path, members, rfl, hkey, Json.at?_nil _⟩
      · rw [not_or] at hkey
        rw [lookup_enriched hkey.1 hkey.2] at hu
        obtain ⟨w, hw, rfl⟩ := Option.map_eq_some_iff.mp hu
        rcases ih hv with ⟨u, hold⟩ | ⟨above, k', below, members', rfl, hk', habove⟩
        · exact Or.inl ⟨u, by rw [Json.at?_key, hw, Option.bind_some, hold]⟩
        · refine Or.inr ⟨.key k :: above, k', below, members', rfl, hk', ?_⟩
          rw [Json.at?_key, hw, Option.bind_some, habove]
    | arr items =>
      rw [walk] at h
      obtain ⟨_, _, _, ⟨⟩, _⟩ | ⟨_, i, u, ⟨⟩, rfl, hu, hv⟩ := Json.at?_cons_some h
      rw [walkItems_eq_map, List.getElem?_map] at hu
      obtain ⟨w, hw, rfl⟩ := Option.map_eq_some_iff.mp hu
      rcases ih hv with ⟨u, hold⟩ | ⟨above, k', below, members', rfl, hk', habove⟩
      · exact Or.inl ⟨u, by rw [Json.at?_item, hw, Option.bind_some, hold]⟩
      · refine Or.inr ⟨.item i :: above, k', below, members', rfl, hk', ?_⟩
        rw [Json.at?_item, hw, Option.bind_some, habove]
    | null => exact Or.inl ⟨v, h⟩
    | bool b => exact Or.inl ⟨v, h⟩
    | int n => exact Or.inl ⟨v, h⟩
    | float x => exact Or.inl ⟨v, h⟩
    | str s => exact Or.inl ⟨v, h⟩

theorem walk_of_isScalar (h : v.IsScalar) : walk hashes v = v := by
  cases v with
  | arr items => cases h
  | obj members => cases h
  | _ => rfl

end Paths

/-- Enrichment adds the hashes of the indices and nothing else, and nothing when it is repeated. -/
theorem enrich_conservative {g : Json PyFloat} (hfresh : g.EveryObject Unhashed) (hashes : List String) :
    Conservative hashes g (walk hashes g) ∧ walk hashes (walk hashes g) = walk hashes g ∧
      ∀ ground_truth, g = .obj ground_truth → walk hashes g = .obj (enrich_ground_truth ground_truth hashes) ∧
        enrich_ground_truth (enrich_ground_truth ground_truth hashes) hashes =
          enrich_ground_truth ground_truth hashes := by
  refine ⟨?_, walk_idem hashes g, ?_⟩
  · constructor
    · intro path v hv hscalar
      rw [at?_walk hfresh hv, walk_of_isScalar hscalar]
    · intro path items hitems
      refine ⟨items.map (walk hashes), ?_, List.length_map _⟩
      rw [at?_walk hfresh hitems, walk, walkItems_eq_map]
    · intro path members hmembers
      have hinner := Json.everyObject_at? hfresh hmembers
      refine ⟨annotate hashes (walkMembers hashes members), ?_, enrichedObject_annotate hinner.1⟩
      rw [at?_walk hfresh hmembers, walk]
    · intro path v hv
      exact exists_of_at?_walk hv
  · rintro ground_truth rfl
    have hagain := walk_idem hashes (.obj ground_truth)
    rw [walk, walk, Json.obj.injEq] at hagain
    exact ⟨by rw [walk, enrich_ground_truth], hagain⟩

def twoIndices : Json PyFloat :=
  .obj [("injected", .arr [.obj [("record_index", .bool true)],
    .obj [("record_indices", .arr [.int 0, .int 7, .str "1"])]]), ("count", .int 2)]

theorem twoIndices_conservative : Conservative ["aa", "bb"] twoIndices (walk ["aa", "bb"] twoIndices) ∧
    walk ["aa", "bb"] (walk ["aa", "bb"] twoIndices) = walk ["aa", "bb"] twoIndices ∧
    ∀ ground_truth, twoIndices = .obj ground_truth →
      walk ["aa", "bb"] twoIndices = .obj (enrich_ground_truth ground_truth ["aa", "bb"]) ∧
        enrich_ground_truth (enrich_ground_truth ground_truth ["aa", "bb"]) ["aa", "bb"] =
          enrich_ground_truth ground_truth ["aa", "bb"] := by
  apply enrich_conservative
  simp [twoIndices, Json.EveryObject, Json.EveryMember, Json.EveryItem, Unhashed, Dict.keys]

end AtlasConnectors
