import AtlasConnectors.Json

/-! What holds of every object, and of every float, inside a JSON value, at any depth. -/
namespace AtlasConnectors
namespace Json

variable {φ : Type}

mutual

def EveryObject (P : List (String × Json φ) → Prop) : Json φ → Prop
  | .obj members => P members ∧ EveryMember P members
  | .arr items => EveryItem P items
  | _ => True

def EveryItem (P : List (String × Json φ) → Prop) : List (Json φ) → Prop
  | [] => True
  | item :: items => EveryObject P item ∧ EveryItem P items

def EveryMember (P : List (String × Json φ) → Prop) : List (String × Json φ) → Prop
  | [] => True
  | (_, v) :: members => EveryObject P v ∧ EveryMember P members

end

variable {P Q : List (String × Json φ) → Prop}

theorem everyItem_iff {items : List (Json φ)} :
    EveryItem P items ↔ ∀ item ∈ items, EveryObject P item := by
  induction items with
  | nil => simp [EveryItem]
  | cons item items ih => simp [EveryItem, ih]

theorem everyMember_iff {members : List (String × Json φ)} :
    EveryMember P members ↔ ∀ p ∈ members, EveryObject P p.2 := by
  induction members with
  | nil => simp [EveryMember]
  | cons p members ih => simp [EveryMember, ih]

theorem everyObject_of_isScalar {j : Json φ} (h : IsScalar j) : EveryObject P j := by
  cases j with
  | arr items => cases h
  | obj members => cases h
  | _ => trivial

theorem everyObject_strs (texts : List String) : EveryObject P (.arr (texts.map .str)) := by
  change EveryItem P _
  rw [everyItem_iff]
  intro item hitem
  obtain ⟨text, _, rfl⟩ := List.mem_map.mp hitem
  trivial

theorem everyMember_set {members : Dict String (Json φ)} {k : String} {v : Json φ}
    (h : EveryMember P members) (hv : EveryObject P v) : EveryMember P (members.set k v) := by
  induction members with
  | nil => exact ⟨hv, trivial⟩
  | cons p members ih =>
    unfold Dict.set
    split_ifs
    · exact ⟨hv, h.2⟩
    · exact ⟨h.1, ih h.2⟩

mutual

theorem EveryObject.mono (hPQ : ∀ members, P members → Q members) :
    ∀ j : Json φ, EveryObject P j → EveryObject Q j
  | .obj members, h => ⟨hPQ members h.1, EveryMember.mono hPQ members h.2⟩
  | .arr items, h => EveryItem.mono hPQ items h
  | .null, _ => trivial
  | .bool _, _ => trivial
  | .int _, _ => trivial
  | .float _, _ => trivial
  | .str _, _ => trivial

theorem EveryItem.mono (hPQ : ∀ members, P members → Q members) :
    ∀ items : List (Json φ), EveryItem P items → EveryItem Q items
  | [], _ => trivial
  | item :: items, h => ⟨EveryObject.mono hPQ item h.1, EveryItem.mono hPQ items h.2⟩

theorem EveryMember.mono (hPQ : ∀ members, P members → Q members) :
    ∀ members : List (String × Json φ), EveryMember P members → EveryMember Q members
  | [], _ => trivial
  | (_, v) :: members, h => ⟨EveryObject.mono hPQ v h.1, EveryMember.mono hPQ members h.2⟩

end

mutual

/-- Every float inside the value passes the test. -/
def allFloats (p : φ → Bool) : Json φ → Bool
  | .float x => p x
  | .arr items => allFloatsItems p items
  | .obj members => allFloatsMembers p members
  | _ => true

def allFloatsItems (p : φ → Bool) : List (Json φ) → Bool
  | [] => true
  | item :: items => allFloats p item && allFloatsItems p items

def allFloatsMembers (p : φ → Bool) : List (String × Json φ) → Bool
  | [] => true
  | (_, v) :: members => allFloats p v && allFloatsMembers p members

end

section AllFloats

variable {p : φ → Bool}

theorem allFloats_arr {items : List (Json φ)} :
    allFloats p (.arr items) = true ↔ ∀ item ∈ items, allFloats p item = true := by
  rw [allFloats]
  induction items with
  | nil => simp [allFloatsItems]
  | cons item items ih => simp [allFloatsItems, ih]

theorem allFloats_obj {members : List (String × Json φ)} :
    allFloats p (.obj members) = true ↔ ∀ m ∈ members, allFloats p m.2 = true := by
  rw [allFloats]
  induction members with
  | nil => simp [allFloatsMembers]
  | cons m members ih =>
    rw [allFloatsMembers, Bool.and_eq_true, ih, List.forall_mem_cons]

theorem allFloats_strs (texts : List String) : allFloats p (.arr (texts.map .str)) = true := by
  rw [allFloats_arr]
  intro item hitem
  obtain ⟨text, _, rfl⟩ := List.mem_map.mp hitem
  rfl

theorem allFloats_set {members : Dict String (Json φ)} {k : String} {v : Json φ}
    (h : allFloats p (.obj members) = true) (hv : allFloats p v = true) :
    allFloats p (.obj (members.set k v)) = true := by
  rw [allFloats_obj] at h ⊢
  intro m hm
  rcases Dict.mem_or_eq_of_mem_set hm with hm | rfl
  · exact h m hm
  · exact hv

end AllFloats

mutual

theorem allFloats_lift {p : φ → Bool} : ∀ j : Json Empty, allFloats p (lift j) = true
  | .null => rfl
  | .bool _ => rfl
  | .int _ => rfl
  | .float x => x.elim
  | .str _ => rfl
  | .arr items => allFloatsItems_lift items
  | .obj members => allFloatsMembers_lift members

theorem allFloatsItems_lift {p : φ → Bool} :
    ∀ items : List (Json Empty), allFloatsItems p (liftItems items) = true
  | [] => rfl
  | item :: items => by
    rw [liftItems, allFloatsItems, allFloats_lift item, allFloatsItems_lift items, Bool.and_self]

theorem allFloatsMembers_lift {p : φ → Bool} :
    ∀ members : List (String × Json Empty), allFloatsMembers p (liftMembers members) = true
  | [] => rfl
  | (_, v) :: members => by
    rw [liftMembers, allFloatsMembers, allFloats_lift v, allFloatsMembers_lift members, Bool.and_self]

end

end Json
end AtlasConnectors
