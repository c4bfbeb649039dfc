import AtlasConnectors.Emitter
import AtlasConnectors.JsonTree

/-! The enriched manifest: its record indices carry the hashes of the records they name, and
without these hashes it is the manifest of the generator. -/
namespace AtlasConnectors

/-- The index of one of `n` records. -/
def IsIndex (n : ℕ) (v : Json PyFloat) : Prop := ∃ k < n, v = .int (k : ℕ)

/-- The members of a manifest's object: its indices are in range, and it has no hashes yet. -/
structure Pointing (n : ℕ) (members : Payload PyFloat) : Prop where
  record_index : ∀ v, members.lookup "record_index" = some v → IsIndex n v
  record_indices : ∀ v, members.lookup "record_indices" = some v →
    ∃ indices, v = .arr indices ∧ ∀ i ∈ indices, IsIndex n i
  source_hash : "source_hash" ∉ members.keys
  source_hashes : "source_hashes" ∉ members.keys

/-- Every object of a manifest points at some of `n` records. -/
abbrev PointsInto (n : ℕ) (ground_truth : Payload PyFloat) : Prop :=
  Json.EveryObject (Pointing n) (.obj ground_truth)

theorem Pointing.of_keys {n : ℕ} {members : Payload PyFloat} (hindex : "record_index" ∉ members.keys)
    (hindices : "record_indices" ∉ members.keys) (hhash : "source_hash" ∉ members.keys)
    (hhashes : "source_hashes" ∉ members.keys) : Pointing n members where
  record_index := by
    intro v hv
    exact absurd (Dict.mem_keys_of_lookup hv) hindex
  record_indices := by
    intro v hv
    exact absurd (Dict.mem_keys_of_lookup hv) hindices
  source_hash := hhash
  source_hashes := hhashes

/-- The members of an enriched object: each index carries the hash at it. -/
structure Resolved (hashes : List String) (members : Payload PyFloat) : Prop where
  record_index : ∀ v, members.lookup "record_index" = some v → ∃ (k : ℕ) (h : String),
    v = .int k ∧ hashes[k]? = some h ∧ members.lookup "source_hash" = some (.str h)
  record_indices : ∀ v, members.lookup "record_indices" = some v →
    ∃ (ks : List ℕ) (hs : List String), v = .arr (ks.map fun k : ℕ => .int k) ∧
      members.lookup "source_hashes" = some (.arr (hs.map .str)) ∧
      List.Forall₂ (fun k h => hashes[k]? = some h) ks hs

theorem hashAt_int {hashes : List String} (k : ℕ) : hashAt hashes (.int k) = hashes[k]? := by
  simp [hashAt, asIndex]

theorem walk_int (hashes : List String) (n : ℤ) : walk hashes (.int n) = .int n := rfl

theorem lookup_walkMembers (hashes : List String) (members : Payload PyFloat) (k : String) :
    (walkMembers hashes members).lookup k = (members.lookup k).map (walk hashes) := by
  induction members with
  | nil => rfl
  | cons p members ih =>
    obtain ⟨k', v⟩ := p
    rw [walkMembers, Dict.lookup_cons, Dict.lookup_cons, ih]
    split_ifs <;> rfl

theorem walkItems_indices {hashes : List String} {indices : List (Json PyFloat)}
    (h : ∀ i ∈ indices, IsIndex hashes.length i) : ∃ (ks : List ℕ) (hs : List String),
      indices = ks.map (fun k => .int k) ∧ walkItems hashes indices = indices ∧
      indices.filterMap (hashAt hashes) = hs ∧ List.Forall₂ (fun k h => hashes[k]? = some h) ks hs := by
  induction indices with
  | nil => exact ⟨[], [], rfl, rfl, rfl, .nil⟩
  | cons i indices ih =>
    obtain ⟨k, hk, rfl⟩ := h i List.mem_cons_self
    obtain ⟨ks, hs, rfl, hwalk, hfilter, hrel⟩ := ih fun j hj => h j (List.mem_cons_of_mem _ hj)
    have hhash : hashes[k]? = some hashes[k] := List.getElem?_eq_getElem hk
    refine ⟨k :: ks, hashes[k] :: hs, rfl, ?_, ?_, .cons hhash hrel⟩
    · rw [walkItems, walk_int, hwalk]
    · rw [List.filterMap_cons_some ((hashAt_int k).trans hhash), hfilter]

def hashOne (hashes : List String) (members : Payload PyFloat) : Payload PyFloat :=
  match (members.lookup "record_index").bind (hashAt hashes) with
  | some h => members.set "source_hash" (.str h)
  | none => members

def hashMany (hashes : List String) (members : Payload PyFloat) : Payload PyFloat :=
  match members.lookup "record_indices" with
  | some (.arr indices) =>
    members.set "source_hashes" (.arr ((indices.filterMap (hashAt hashes)).map .str))
  | _ => members

theorem annotate_eq (hashes : List String) (members : Payload PyFloat) :
    annotate hashes members = hashMany hashes (hashOne hashes members) := rfl

section Annotate

variable {hashes : List String} {members : Payload PyFloat}

theorem hashOne_cases (hashes : List String) (members : Payload PyFloat) :
    hashOne hashes members = members ∨ "record_index" ∈ members.keys ∧
      ∃ h, hashOne hashes members = members.set "source_hash" (.str h) := by
  unfold hashOne
  cases hlook : members.lookup "record_index" with
  | none => exact Or.inl rfl
  | some v =>
    rw [Option.bind_some]
    cases hashAt hashes v with
    | none => exact Or.inl rfl
    | some h => exact Or.inr ⟨Dict.mem_keys_of_lookup hlook, h, rfl⟩

theorem hashMany_cases (hashes : List String) (members : Payload PyFloat) :
    hashMany hashes members = members ∨ "record_indices" ∈ members.keys ∧
      ∃ hs : List String, hashMany hashes members = members.set "source_hashes" (.arr (hs.map .str)) := by
  unfold hashMany
  split
  · rename_i indices hlook
    exact Or.inr ⟨Dict.mem_keys_of_lookup hlook, _, rfl⟩
  · exact Or.inl rfl

theorem lookup_hashOne {k : String} (hk : k ≠ "source_hash") :
    (hashOne hashes members).lookup k = members.lookup k := by
  rcases hashOne_cases hashes members with h | ⟨_, _, h⟩
  · rw [h]
  · rw [h, Dict.lookup_set, if_neg hk]

theorem lookup_hashMany {k : String} (hk : k ≠ "source_hashes") :
    (hashMany hashes members).lookup k = members.lookup k := by
  rcases hashMany_cases hashes members with h | ⟨_, _, h⟩
  · rw [h]
  · rw [h, Dict.lookup_set, if_neg hk]

theorem everyMember_annotate {P : Payload PyFloat → Prop} (h : Json.EveryMember P members) :
    Json.EveryMember P (annotate hashes members) := by
  have hone : Json.EveryMember P (hashOne hashes members) := by
    rcases hashOne_cases hashes members with heq | ⟨_, _, heq⟩
    · rwa [heq]
    · rw [heq]
      exact Json.everyMember_set h trivial
  rw [annotate_eq]
  rcases hashMany_cases hashes (hashOne hashes members) with heq | ⟨_, _, heq⟩
  · rwa [heq]
  · rw [heq]
    exact Json.everyMember_set hone (Json.everyObject_strs _)

theorem resolved_annotate (h : Pointing hashes.length members) :
    Resolved hashes (annotate hashes (walkMembers hashes members)) := by
  have hone : ∀ v, (walkMembers hashes members).lookup "record_index" = some v → ∃ k : ℕ,
      v = .int k ∧ k < hashes.length := by
    intro v hv
    rw [lookup_walkMembers, Option.map_eq_some_iff] at hv
    obtain ⟨w, hw, rfl⟩ := hv
    obtain ⟨k, hk, rfl⟩ := h.record_index w hw
    exact ⟨k, rfl, hk⟩
  constructor
  · intro v hv
    rw [annotate_eq, lookup_hashMany (by decide), lookup_hashOne (by decide)] at hv
    obtain ⟨k, rfl, hk⟩ := hone v hv
    have hhash : hashes[k]? = some hashes[k] := List.getElem?_eq_getElem hk
    refine ⟨k, hashes[k], rfl, hhash, ?_⟩
    rw [annotate_eq, lookup_hashMany (by decide), hashOne, hv, Option.bind_some, hashAt_int, hhash]
    dsimp only
    rw [Dict.lookup_set, if_pos rfl]
  · intro v hv
    rw [annotate_eq, lookup_hashMany (by decide), lookup_hashOne (by decide)] at hv
    have hwalked := hv
    rw [lookup_walkMembers, Option.map_eq_some_iff] at hwalked
    obtain ⟨w, hw, rfl⟩ := hwalked
    obtain ⟨indices, rfl, hindices⟩ := h.record_indices w hw
    obtain ⟨ks, hs, hks, hwalk, hfilter, hrel⟩ := walkItems_indices hindices
    have hitems : walk hashes (.arr indices) = .arr indices := congrArg Json.arr hwalk
    rw [hitems] at hv ⊢
    refine ⟨ks, hs, by rw [hks], ?_, hrel⟩
    rw [annotate_eq, hashMany, lookup_hashOne (by decide), hv]
    dsimp only
    rw [Dict.lookup_set, if_pos rfl, hfilter]

end Annotate

mutual

theorem walk_resolved {hashes : List String} : ∀ j : Json PyFloat,
    Json.EveryObject (Pointing hashes.length) j → Json.EveryObject (Resolved hashes) (walk hashes j)
  | .obj members, h => ⟨resolved_annotate h.1, everyMember_annotate (walkMembers_resolved members h.2)⟩
  | .arr items, h => walkItems_resolved items h
  | .null, _ => trivial
  | .bool _, _ => trivial
  | .int _, _ => trivial
  | .float _, _ => trivial
  | .str _, _ => trivial

theorem walkItems_resolved {hashes : List String} : ∀ items : List (Json PyFloat),
    Json.EveryItem (Pointing hashes.length) items →
      Json.EveryItem (Resolved hashes) (walkItems hashes items)
  | [], _ => trivial
  | item :: items, h => ⟨walk_resolved item h.1, walkItems_resolved items h.2⟩

theorem walkMembers_resolved {hashes : List String} : ∀ members : Payload PyFloat,
    Json.EveryMember (Pointing hashes.length) members →
      Json.EveryMember (Resolved hashes) (walkMembers hashes members)
  | [], _ => trivial
  | (_, v) :: members, h => ⟨walk_resolved v h.1, walkMembers_resolved members h.2⟩

end

/-- Every index of an enriched manifest, at any depth, carries the hash at it. -/
theorem enrich_resolved {ground_truth : Payload PyFloat} {hashes : List String}
    (h : PointsInto hashes.length ground_truth) :
    Json.EveryObject (Resolved hashes) (.obj (enrich_ground_truth ground_truth hashes)) :=
  walk_resolved (.obj ground_truth) h

/-- Drop the hashes beside the indices of one object. -/
def unhash (members : Payload PyFloat) : Payload PyFloat :=
  let out := if "record_indices" ∈ members.keys then members.erase "source_hashes" else members
  if "record_index" ∈ out.keys then out.erase "source_hash" else out

mutual

def strip : Json PyFloat → Json PyFloat
  | .obj members => .obj (unhash (stripMembers members))
  | .arr items => .arr (stripItems items)
  | node => node

def stripItems : List (Json PyFloat) → List (Json PyFloat)
  | [] => []
  | item :: items => strip item :: stripItems items

def stripMembers : List (String × Json PyFloat) → List (String × Json PyFloat)
  | [] => []
  | (k, v) :: members => (k, strip v) :: stripMembers members

end

theorem keys_stripMembers (members : Payload PyFloat) :
    Dict.keys (stripMembers members) = Dict.keys members := by
  induction members with
  | nil => rfl
  | cons p members ih => exact congrArg (p.1 :: ·) ih

theorem stripMembers_set {k : String} {v : Json PyFloat} (hv : strip v = v) (members : Payload PyFloat) :
    stripMembers (Dict.set members k v) = Dict.set (stripMembers members) k v := by
  induction members with
  | nil => exact congrArg (fun w => [(k, w)]) hv
  | cons p members ih =>
    obtain ⟨k', w⟩ := p
    by_cases h : k' = k
    · simp only [Dict.set, stripMembers, h, if_true, hv]
    · simp only [Dict.set, stripMembers, h, if_false, ih]

theorem strip_strs (texts : List String) : strip (.arr (texts.map .str)) = .arr (texts.map .str) := by
  have hitems : stripItems (texts.map .str) = texts.map .str := by
    induction texts with
    | nil => rfl
    | cons text texts ih => exact congrArg (Json.str text :: ·) ih
  exact congrArg Json.arr hitems

/-- An object before and after its indices got their hashes. -/
def Hashed (members out : Payload PyFloat) : Prop :=
  ∃ mid, (mid = members ∨ "record_index" ∈ members.keys ∧
      ∃ h : String, mid = members.set "source_hash" (.str h)) ∧
    (out = mid ∨ "record_indices" ∈ mid.keys ∧
      ∃ hs : List String, out = mid.set "source_hashes" (.arr (hs.map .str)))

theorem annotate_hashed (hashes : List String) (members : Payload PyFloat) :
    Hashed members (annotate hashes members) :=
  ⟨hashOne hashes members, hashOne_cases hashes members, hashMany_cases hashes _⟩

theorem Hashed.stripMembers {members out : Payload PyFloat} (h : Hashed members out) :
    Hashed (stripMembers members) (stripMembers out) := by
  obtain ⟨mid, hone, hmany⟩ := h
  refine ⟨AtlasConnectors.stripMembers mid, ?_, ?_⟩
  · rcases hone with rfl | ⟨hkey, hash, rfl⟩
    · exact Or.inl rfl
    · refine Or.inr ⟨by rwa [keys_stripMembers], hash, stripMembers_set rfl members⟩
  · rcases hmany with rfl | ⟨hkey, hs, rfl⟩
    · exact Or.inl rfl
    · refine Or.inr ⟨by rwa [keys_stripMembers], hs, stripMembers_set (strip_strs hs) mid⟩

theorem Hashed.unhash {members out : Payload PyFloat} (h : Hashed members out)
    (hhash : "source_hash" ∉ members.keys) (hhashes : "source_hashes" ∉ members.keys) :
    unhash out = members := by
  obtain ⟨mid, hone, hmany⟩ := h
  have hmid : "source_hashes" ∉ mid.keys := by
    rcases hone with rfl | ⟨_, hash, rfl⟩
    · exact hhashes
    · simpa [Dict.mem_keys_set] using hhashes
  have hfirst : (if "record_indices" ∈ out.keys then out.erase "source_hashes" else out) = mid := by
    rcases hmany with rfl | ⟨hkey, hs, rfl⟩
    · split_ifs
      · exact Dict.erase_of_not_mem hmid
      · rfl
    · rw [if_pos (Dict.mem_keys_set.mpr (Or.inr hkey)), Dict.erase_set_of_not_mem hmid]
  rw [AtlasConnectors.unhash, hfirst]
  rcases hone with rfl | ⟨hkey, hash, rfl⟩
  · split_ifs
    · exact Dict.erase_of_not_mem hhash
    · rfl
  · rw [if_pos (Dict.mem_keys_set.mpr (Or.inr hkey)), Dict.erase_set_of_not_mem hhash]

mutual

theorem strip_walk {n : ℕ} (hashes : List String) : ∀ j : Json PyFloat,
    Json.EveryObject (Pointing n) j → strip (walk hashes j) = j
  | .obj members, h => by
    have hashed := (annotate_hashed hashes (walkMembers hashes members)).stripMembers
    rw [stripMembers_walk hashes members h.2] at hashed
    exact congrArg Json.obj (hashed.unhash h.1.source_hash h.1.source_hashes)
  | .arr items, h => congrArg Json.arr (stripItems_walk hashes items h)
  | .null, _ => rfl
  | .bool _, _ => rfl
  | .int _, _ => rfl
  | .float _, _ => rfl
  | .str _, _ => rfl

theorem stripItems_walk {n : ℕ} (hashes : List String) : ∀ items : List (Json PyFloat),
    Json.EveryItem (Pointing n) items → stripItems (walkItems hashes items) = items
  | [], _ => rfl
  | item :: items, h => by
    rw [walkItems, stripItems, strip_walk hashes item h.1, stripItems_walk hashes items h.2]

theorem stripMembers_walk {n : ℕ} (hashes : List String) : ∀ members : Payload PyFloat,
    Json.EveryMember (Pointing n) members → stripMembers (walkMembers hashes members) = members
  | [], _ => rfl
  | (k, v) :: members, h => by
    rw [walkMembers, stripMembers, strip_walk hashes v h.1, stripMembers_walk hashes members h.2]

end

theorem strip_enriched {n : ℕ} {ground_truth : Payload PyFloat} (h : PointsInto n ground_truth)
    (hashes : List String) : strip (.obj (enrich_ground_truth ground_truth hashes)) = .obj ground_truth :=
  strip_walk hashes (.obj ground_truth) h

end AtlasConnectors
