import Mathlib

/-! Insertion-ordered dictionaries as association lists, and the numbering of a list by
first occurrence that a `setdefault` loop computes. -/
namespace AtlasConnectors

/-- A dictionary in insertion order; its keys are meant to be distinct. -/
abbrev Dict (κ β : Type) := List (κ × β)

namespace Dict

variable {κ β : Type} [DecidableEq κ]

def keys (d : Dict κ β) : List κ := d.map Prod.fst

/-- `d[k] = v`: in place when the key is there, at the end otherwise. -/
def set : Dict κ β → κ → β → Dict κ β
  | [], k, v => [(k, v)]
  | (k', v') :: d, k, v => if k' = k then (k', v) :: d else (k', v') :: set d k v

/-- A dictionary from its items; an item with a key that came before takes its place. -/
def ofPairs (ps : List (κ × β)) : Dict κ β := ps.foldl (fun d p => d.set p.1 p.2) []

/-- `{**d, **e}`: what `d` holds with the values that `e` has instead, then the rest of `e`. -/
def update (d e : Dict κ β) : Dict κ β :=
  (d.map fun p => (p.1, (e.lookup p.1).getD p.2)) ++ e.filter fun p => p.1 ∉ d.keys

/-- `d.pop(k, None)` without its value. -/
def erase (d : Dict κ β) (k : κ) : Dict κ β := d.filter fun p => p.1 ≠ k

/-- `d.setdefault(k, v)`: the value found or stored, and the dictionary after it. -/
def setdefault (d : Dict κ β) (k : κ) (v : β) : β × Dict κ β :=
  match d.lookup k with
  | some w => (w, d)
  | none => (v, d ++ [(k, v)])

@[simp] theorem lookup_nil (k : κ) : List.lookup k ([] : Dict κ β) = none := rfl

theorem lookup_cons (k k' : κ) (v : β) (d : Dict κ β) :
    List.lookup k ((k', v) :: d) = if k = k' then some v else List.lookup k d := by
  by_cases h : k = k'
  · simp [List.lookup, h]
  · have hb : (k == k') = false := by simpa using h
    simp [List.lookup, h, hb]

theorem lookup_eq_none_iff {d : Dict κ β} {k : κ} : d.lookup k = none ↔ k ∉ d.keys := by
  induction d with
  | nil => simp [keys]
  | cons p d ih =>
    obtain ⟨k', v⟩ := p
    by_cases h : k = k' <;> simp_all [lookup_cons, keys]

theorem isSome_lookup {d : Dict κ β} {k : κ} : (d.lookup k).isSome = true ↔ k ∈ d.keys := by
  rw [← not_iff_not, Bool.not_eq_true, Option.isSome_eq_false_iff, Option.isNone_iff_eq_none, lookup_eq_none_iff]

theorem mem_keys_of_lookup {d : Dict κ β} {k : κ} {v : β} (h : d.lookup k = some v) :
    k ∈ d.keys := by
  by_contra hk
  simp [lookup_eq_none_iff.mpr hk] at h

theorem mem_of_lookup {d : Dict κ β} {k : κ} {v : β} (h : d.lookup k = some v) : (k, v) ∈ d := by
  induction d with
  | nil => simp at h
  | cons p d ih =>
    obtain ⟨k', w⟩ := p
    rw [lookup_cons] at h
    split_ifs at h with hk
    · cases h
      simp [hk]
    · exact List.mem_cons_of_mem _ (ih h)

theorem lookup_eq_some_iff {d : Dict κ β} (hd : d.keys.Nodup) {k : κ} {v : β} :
    d.lookup k = some v ↔ (k, v) ∈ d := by
  refine ⟨mem_of_lookup, fun h => ?_⟩
  induction d with
  | nil => simp at h
  | cons p d ih =>
    obtain ⟨k', w⟩ := p
    simp only [keys, List.map_cons, List.nodup_cons] at hd
    rw [lookup_cons]
    rcases List.mem_cons.mp h with heq | hmem
    · cases heq
      simp
    · have hne : k ≠ k' := by
        rintro rfl
        exact hd.1 (List.mem_map.mpr ⟨_, hmem, rfl⟩)
      rw [if_neg hne]
      exact ih hd.2 hmem

omit [DecidableEq κ] in
theorem nodup_of_nodup_keys {d : Dict κ β} (hd : d.keys.Nodup) : d.Nodup := hd.of_map _

/-- Two dictionaries are equal as maps exactly when one is a reordering of the other. -/
theorem perm_iff_lookup {d e : Dict κ β} (hd : d.keys.Nodup) (he : e.keys.Nodup) :
    d.Perm e ↔ ∀ k, d.lookup k = e.lookup k := by
  rw [List.perm_ext_iff_of_nodup (nodup_of_nodup_keys hd) (nodup_of_nodup_keys he)]
  constructor
  · intro h k
    apply Option.ext
    intro v
    rw [lookup_eq_some_iff hd, lookup_eq_some_iff he]
    exact h (k, v)
  · rintro h ⟨k, v⟩
    rw [← lookup_eq_some_iff hd, ← lookup_eq_some_iff he, h k]

theorem lookup_set (d : Dict κ β) (k k' : κ) (v : β) :
    (set d k v).lookup k' = if k' = k then some v else d.lookup k' := by
  induction d with
  | nil => simp [set, lookup_cons]
  | cons p d ih =>
    obtain ⟨k₀, v₀⟩ := p
    by_cases h₀ : k₀ = k
    · by_cases h : k' = k <;> simp_all [set, lookup_cons]
    · by_cases h : k' = k₀ <;> simp_all [set, lookup_cons]

theorem lookup_map {γ : Type} (f : β → γ) (d : Dict κ β) (k : κ) :
    (d.map fun p => (p.1, f p.2)).lookup k = (d.lookup k).map f := by
  induction d with
  | nil => rfl
  | cons p d ih =>
    rw [List.map_cons, lookup_cons, lookup_cons, ih]
    split_ifs <;> rfl

theorem keys_set_of_mem {d : Dict κ β} {k : κ} (hk : k ∈ d.keys) (v : β) :
    (set d k v).keys = d.keys := by
  induction d with
  | nil => simp [keys] at hk
  | cons p d ih =>
    obtain ⟨k₀, v₀⟩ := p
    by_cases h₀ : k₀ = k
    · simp [set, keys, h₀]
    · have hmem : k ∈ keys d := by
        simp only [keys, List.map_cons, List.mem_cons] at hk
        rcases hk with rfl | hk
        · exact absurd rfl h₀
        · exact hk
      have h := ih hmem
      simp only [keys] at h ⊢
      simp [set, h₀, h]

theorem set_of_not_mem {d : Dict κ β} {k : κ} (hk : k ∉ d.keys) (v : β) :
    set d k v = d ++ [(k, v)] := by
  induction d with
  | nil => rfl
  | cons p d ih =>
    simp only [keys, List.map_cons, List.mem_cons, not_or] at hk
    rw [set, if_neg (Ne.symm hk.1), ih hk.2, List.cons_append]

theorem ofPairs_eq_self {ps : List (κ × β)} (h : (keys ps).Nodup) : ofPairs ps = ps := by
  have haux : ∀ (rest d : List (κ × β)), (keys (d ++ rest)).Nodup →
      rest.foldl (fun d p => set d p.1 p.2) d = d ++ rest := by
    intro rest
    induction rest with
    | nil => simp
    | cons p rest ih =>
      intro d hnodup
      have hnew : p.1 ∉ keys d := by
        rw [keys, List.map_append] at hnodup
        intro hmem
        exact (List.disjoint_of_nodup_append hnodup) hmem (by simp)
      rw [List.foldl_cons, set_of_not_mem hnew, ih (d ++ [p]) (by simpa using hnodup)]
      simp
  exact haux ps [] h

theorem mem_keys_set {d : Dict κ β} {k k' : κ} {v : β} : k' ∈ (d.set k v).keys ↔ k' = k ∨ k' ∈ d.keys := by
  rw [← not_iff_not, not_or, ← lookup_eq_none_iff, ← lookup_eq_none_iff, lookup_set]
  split_ifs with h
  · simp [h]
  · simp [h]

theorem set_of_lookup {d : Dict κ β} {k : κ} {v : β} (h : d.lookup k = some v) : d.set k v = d := by
  induction d with
  | nil => simp at h
  | cons p d ih =>
    obtain ⟨k₀, v₀⟩ := p
    rw [lookup_cons] at h
    by_cases hk : k = k₀
    · rw [if_pos hk] at h
      cases h
      rw [set, if_pos hk.symm]
    · rw [if_neg hk] at h
      rw [set, if_neg (Ne.symm hk), ih h]

theorem mem_or_eq_of_mem_set {d : Dict κ β} {k : κ} {v : β} {p : κ × β} (h : p ∈ d.set k v) : p ∈ d ∨ p.2 = v := by
  induction d with
  | nil =>
    simp only [set, List.mem_singleton] at h
    exact Or.inr (by rw [h])
  | cons p₀ d ih =>
    rw [set] at h
    split_ifs at h
    · rcases List.mem_cons.mp h with rfl | h
      · exact Or.inr rfl
      · exact Or.inl (List.mem_cons_of_mem p₀ h)
    · rcases List.mem_cons.mp h with rfl | h
      · exact Or.inl List.mem_cons_self
      · exact (ih h).imp_left (List.mem_cons_of_mem p₀)

theorem erase_of_not_mem {d : Dict κ β} {k : κ} (hk : k ∉ d.keys) : d.erase k = d := by
  apply List.filter_eq_self.mpr
  rintro ⟨k', v⟩ hmem
  have hne : k' ≠ k := by
    rintro rfl
    exact hk (List.mem_map_of_mem (f := Prod.fst) hmem)
  simpa using hne

theorem erase_set_of_not_mem {d : Dict κ β} {k : κ} (hk : k ∉ d.keys) (v : β) :
    (d.set k v).erase k = d := by
  have hd : d.filter (fun p => p.1 ≠ k) = d := erase_of_not_mem hk
  rw [set_of_not_mem hk, erase, List.filter_append, hd]
  simp

theorem keys_erase (d : Dict κ β) (k : κ) : (erase d k).keys = d.keys.filter (· ≠ k) := by
  simp [erase, keys, List.filter_map, Function.comp_def]

theorem lookup_append (d e : Dict κ β) (k : κ) :
    List.lookup k (d ++ e) = (d.lookup k).or (e.lookup k) := by
  induction d with
  | nil => rfl
  | cons p d ih =>
    rw [List.cons_append, lookup_cons, lookup_cons, ih]
    split_ifs <;> rfl

theorem lookup_filter_keys (d : Dict κ β) (P : κ → Prop) [DecidablePred P] (k : κ) :
    List.lookup k (d.filter fun p => P p.1) = if P k then d.lookup k else none := by
  induction d with
  | nil => simp
  | cons p d ih =>
    obtain ⟨k', v⟩ := p
    by_cases hP : P k'
    · rw [List.filter_cons_of_pos (by simpa using hP), lookup_cons, lookup_cons, ih]
      by_cases hk : k = k'
      · subst hk
        simp [hP]
      · simp [hk]
    · rw [List.filter_cons_of_neg (by simpa using hP), ih, lookup_cons]
      by_cases hk : k = k'
      · subst hk
        simp [hP]
      · simp [hk]

theorem lookup_erase (d : Dict κ β) (k k' : κ) :
    (erase d k).lookup k' = if k' = k then none else d.lookup k' := by
  rw [erase, lookup_filter_keys d (fun k' => k' ≠ k), ite_not]

theorem lookup_update (d e : Dict κ β) (k : κ) : (d.update e).lookup k = (e.lookup k).or (d.lookup k) := by
  have hold : List.lookup k (d.map fun p => (p.1, (e.lookup p.1).getD p.2)) =
      (d.lookup k).map fun v => (e.lookup k).getD v := by
    induction d with
    | nil => rfl
    | cons p d ih =>
      rw [List.map_cons, lookup_cons, lookup_cons, ih]
      by_cases hk : k = p.1 <;> simp [hk]
  rw [update, lookup_append, hold, lookup_filter_keys e (fun k => k ∉ d.keys)]
  cases hd : d.lookup k with
  | none =>
    rw [if_pos (lookup_eq_none_iff.mp hd)]
    simp
  | some v =>
    rw [if_neg (not_not.mpr (mem_keys_of_lookup hd))]
    cases e.lookup k <;> simp

/-- Store each value under its key, unless the key has one. -/
def fill (d : Dict κ β) (ps : List (κ × β)) : Dict κ β := ps.foldl (fun d p => (d.setdefault p.1 p.2).2) d

theorem fill_append (d : Dict κ β) (ps qs : List (κ × β)) : d.fill (ps ++ qs) = (d.fill ps).fill qs :=
  List.foldl_append

theorem setdefault_of_mem {d : Dict κ β} {k : κ} (hk : k ∈ d.keys) (v : β) : (d.setdefault k v).2 = d := by
  cases h : d.lookup k with
  | none => exact absurd hk (lookup_eq_none_iff.mp h)
  | some w => simp only [setdefault, h]

theorem mem_keys_setdefault (d : Dict κ β) (k k' : κ) (v : β) :
    k' ∈ (d.setdefault k v).2.keys ↔ k' ∈ d.keys ∨ k' = k := by
  cases h : d.lookup k with
  | none =>
    simp only [setdefault, h]
    simp [keys]
  | some w =>
    simp only [setdefault, h, iff_self_or]
    rintro rfl
    exact mem_keys_of_lookup h

theorem fill_of_keys {d : Dict κ β} {ps : List (κ × β)} (h : ∀ p ∈ ps, p.1 ∈ d.keys) : d.fill ps = d := by
  induction ps with
  | nil => rfl
  | cons p ps ih =>
    have hfirst : (d.setdefault p.1 p.2).2 = d := setdefault_of_mem (h p List.mem_cons_self) p.2
    change fill (d.setdefault p.1 p.2).2 ps = d
    rw [hfirst]
    exact ih fun q hq => h q (List.mem_cons_of_mem p hq)

theorem fill_of_new {d : Dict κ β} {ps : List (κ × β)} (hps : (keys ps).Nodup) (h : ∀ p ∈ ps, p.1 ∉ d.keys) :
    d.fill ps = d ++ ps := by
  induction ps generalizing d with
  | nil => exact (List.append_nil d).symm
  | cons p ps ih =>
    have hnew : (d.setdefault p.1 p.2).2 = d ++ [p] := by
      simp only [setdefault, lookup_eq_none_iff.mpr (h p List.mem_cons_self)]
    have hrest : ∀ q ∈ ps, q.1 ∉ keys (d ++ [p]) := by
      intro q hq hmem
      rw [keys, List.map_append, List.mem_append, List.map_singleton, List.mem_singleton] at hmem
      rcases hmem with hmem | heq
      · exact h q (List.mem_cons_of_mem p hq) hmem
      · exact (List.nodup_cons.mp hps).1 (heq ▸ List.mem_map_of_mem hq)
    change fill (d.setdefault p.1 p.2).2 ps = _
    rw [hnew, ih (List.nodup_cons.mp hps).2 hrest, List.append_assoc, List.singleton_append]

theorem mem_keys_fill (d : Dict κ β) (ps : List (κ × β)) (k : κ) :
    k ∈ (d.fill ps).keys ↔ k ∈ d.keys ∨ ∃ p ∈ ps, p.1 = k := by
  induction ps generalizing d with
  | nil => simp [fill]
  | cons p ps ih =>
    change k ∈ (fill (d.setdefault p.1 p.2).2 ps).keys ↔ _
    rw [ih, mem_keys_setdefault, List.exists_mem_cons_iff, or_assoc, eq_comm]

theorem mem_of_mem_fill {d : Dict κ β} {ps : List (κ × β)} {p : κ × β} (h : p ∈ d.fill ps) : p ∈ d ∨ p ∈ ps := by
  induction ps generalizing d with
  | nil => exact Or.inl h
  | cons q ps ih =>
    rcases ih h with hp | hp
    · cases hq : d.lookup q.1 with
      | some w =>
        simp only [setdefault, hq] at hp
        exact Or.inl hp
      | none =>
        simp only [setdefault, hq] at hp
        rcases List.mem_append.mp hp with hp | hp
        · exact Or.inl hp
        · rw [List.mem_singleton.mp hp]
          exact Or.inr List.mem_cons_self
    · exact Or.inr (List.mem_cons_of_mem q hp)

theorem nodup_keys_fill {d : Dict κ β} (h : d.keys.Nodup) {ps : List (κ × β)} : (d.fill ps).keys.Nodup := by
  induction ps generalizing d with
  | nil => exact h
  | cons q ps ih =>
    apply ih
    cases hq : d.lookup q.1 with
    | some w => simpa only [setdefault, hq] using h
    | none =>
      simp only [setdefault, hq, keys, List.map_append]
      exact List.nodup_append.mpr ⟨h, by simp, by
        rintro k hk k' hk' rfl
        rw [List.map_singleton, List.mem_singleton] at hk'
        subst hk'
        exact lookup_eq_none_iff.mp hq hk⟩

theorem fill_fill_of_prefix {ps qs : List (κ × β)} (h : ps <+: qs) (d : Dict κ β) :
    (d.fill ps).fill qs = d.fill qs := by
  obtain ⟨rest, rfl⟩ := h
  have hagain : (d.fill ps).fill ps = d.fill ps :=
    fill_of_keys fun p hp => (mem_keys_fill d ps p.1).mpr (Or.inr ⟨p, hp, rfl⟩)
  rw [fill_append, fill_append, hagain]

/-- Storing a beginning again changes nothing. -/
theorem fill_fill_of_isPrefix {ps qs : List (κ × β)} (h : qs <+: ps) (d : Dict κ β) :
    (d.fill ps).fill qs = d.fill ps :=
  fill_of_keys fun q hq => (mem_keys_fill d ps q.1).mpr (Or.inr ⟨q, h.subset hq, rfl⟩)

/-- The part of a dictionary under some of the keys is filled on its own. -/
theorem filter_fill (d : Dict κ β) (ps : List (κ × β)) (P : κ → Prop) [DecidablePred P] :
    (d.fill ps).filter (fun p => P p.1) =
      Dict.fill (d.filter fun p => P p.1) (ps.filter fun p => P p.1) := by
  induction ps generalizing d with
  | nil => rfl
  | cons p ps ih =>
    have hlookup := lookup_filter_keys d P p.1
    change (fill (d.setdefault p.1 p.2).2 ps).filter _ = _
    rw [ih]
    by_cases hP : P p.1
    · rw [List.filter_cons_of_pos (by simpa using hP)]
      rw [if_pos hP] at hlookup
      change _ = fill (setdefault (d.filter fun p => P p.1) p.1 p.2).2 _
      cases h : d.lookup p.1 with
      | none => simp [setdefault, hlookup, h, hP]
      | some w => simp only [setdefault, hlookup, h]
    · rw [List.filter_cons_of_neg (by simpa using hP)]
      cases h : d.lookup p.1 with
      | none => simp [setdefault, h, hP]
      | some w => simp only [setdefault, h]

end Dict

section FirstSeen

variable {α κ β : Type} [DecidableEq κ]

/-- The identifiers given from index `i` on, with the dictionary of those given so far. -/
def firstSeenFrom (key : α → κ) (mk : ℕ → β) : ℕ → Dict κ β → List α → List β
  | _, _, [] => []
  | i, seen, x :: xs =>
    let found := seen.setdefault (key x) (mk i)
    found.1 :: firstSeenFrom key mk (i + 1) found.2 xs

/-- What the dictionary holds after the keys `ks`: each with the identifier of its first index. -/
def SeenPrefix (mk : ℕ → β) (ks : List κ) (seen : Dict κ β) : Prop :=
  ∀ k, seen.lookup k = if k ∈ ks then some (mk (ks.idxOf k)) else none

theorem seenPrefix_nil (mk : ℕ → β) : SeenPrefix mk ([] : List κ) [] := by
  intro k
  simp

theorem seenPrefix_step {mk : ℕ → β} {ks : List κ} {seen : Dict κ β} (h : SeenPrefix mk ks seen)
    (k : κ) : (seen.setdefault k (mk ks.length)).1 = mk ((ks ++ [k]).idxOf k) ∧
      SeenPrefix mk (ks ++ [k]) (seen.setdefault k (mk ks.length)).2 := by
  have hk := h k
  by_cases hmem : k ∈ ks
  · -- the key is there: nothing is stored, and no first index moves
    rw [if_pos hmem] at hk
    simp only [Dict.setdefault, hk]
    refine ⟨by simp [List.idxOf_append, hmem], fun k' => ?_⟩
    rw [h k']
    by_cases hk' : k' ∈ ks
    · simp [hk', List.idxOf_append]
    · have hne : k' ≠ k := by
        rintro rfl
        exact hk' hmem
      simp [hk', hne]
  · rw [if_neg hmem] at hk
    simp only [Dict.setdefault, hk]
    have hidx : (ks ++ [k]).idxOf k = ks.length := by simp [List.idxOf_append, hmem]
    refine ⟨by rw [hidx], fun k' => ?_⟩
    rw [Dict.lookup_append, Dict.lookup_cons, Dict.lookup_nil, h k']
    by_cases hk' : k' ∈ ks
    · simp [hk', List.idxOf_append]
    · by_cases hkk : k' = k
      · subst hkk
        simp [hk', hidx]
      · simp [hk', hkk]

theorem firstSeenFrom_eq (key : α → κ) {mk : ℕ → β} {ks : List κ} {seen : Dict κ β}
    (h : SeenPrefix mk ks seen) (xs : List α) :
    firstSeenFrom key mk ks.length seen xs =
      xs.map fun x => mk ((ks ++ xs.map key).idxOf (key x)) := by
  induction xs generalizing ks seen with
  | nil => rfl
  | cons x xs ih =>
    obtain ⟨hid, hnext⟩ := seenPrefix_step h (key x)
    have hrest := ih hnext
    rw [List.length_append, List.length_singleton] at hrest
    have hhead : (ks ++ key x :: xs.map key).idxOf (key x) = (ks ++ [key x]).idxOf (key x) := by
      by_cases hmem : key x ∈ ks <;> simp [List.idxOf_append, hmem]
    simp only [firstSeenFrom, hrest, hid, List.map_cons, List.append_assoc, List.singleton_append,
      hhead]

/-- The least index of the list whose element has the key of `x`. -/
def firstIndex (key : α → κ) (xs : List α) (x : α) : ℕ := (xs.map key).idxOf (key x)

/-- Every element gets the identifier of the least index that carries its key. -/
theorem firstSeen_eq (key : α → κ) (mk : ℕ → β) (xs : List α) :
    firstSeenFrom key mk 0 [] xs = xs.map fun x => mk (firstIndex key xs x) :=
  firstSeenFrom_eq key (seenPrefix_nil mk) xs

section FirstIndex

variable {key : α → κ} {xs : List α} {x y : α}

theorem firstIndex_lt (hx : x ∈ xs) : firstIndex key xs x < xs.length := by
  have h := List.idxOf_lt_length_of_mem (List.mem_map_of_mem (f := key) hx)
  rwa [List.length_map] at h

theorem key_firstIndex (hx : x ∈ xs) (hy : xs[firstIndex key xs x]? = some y) : key y = key x := by
  obtain ⟨hlt, heq⟩ := List.getElem?_eq_some_iff.mp hy
  have h := List.getElem_idxOf (List.idxOf_lt_length_of_mem (List.mem_map_of_mem (f := key) hx))
  rw [List.getElem_map] at h
  rw [← heq]
  exact h

theorem firstIndex_eq_iff (hx : x ∈ xs) : firstIndex key xs x = firstIndex key xs y ↔ key x = key y :=
  List.idxOf_inj (List.mem_map_of_mem hx)

theorem firstIndex_le {j : ℕ} (hj : xs[j]? = some y) (hkey : key y = key x) :
    firstIndex key xs x ≤ j := by
  by_contra hlt
  have hne := List.not_of_lt_findIdx (not_le.mp hlt)
  obtain ⟨hj', rfl⟩ := List.getElem?_eq_some_iff.mp hj
  simp [hkey] at hne

theorem firstIndex_ne_iff {i : ℕ} (hx : xs[i]? = some x) :
    firstIndex key xs x ≠ i ↔ ∃ j < i, ∃ y, xs[j]? = some y ∧ key y = key x := by
  have hle : firstIndex key xs x ≤ i := firstIndex_le hx rfl
  constructor
  · intro hne
    have hlt : firstIndex key xs x < xs.length := firstIndex_lt (List.mem_of_getElem? hx)
    have hy := List.getElem?_eq_getElem hlt
    exact ⟨_, lt_of_le_of_ne hle hne, _, hy, key_firstIndex (List.mem_of_getElem? hx) hy⟩
  · rintro ⟨j, hj, y, hy, hkey⟩
    have := firstIndex_le hy hkey
    omega

theorem length_dedup_map (key : α → κ) (xs : List α) : (xs.map key).dedup.length =
    xs.zipIdx.countP fun item => firstIndex key xs item.1 = item.2 := by
  induction xs using List.reverseRecOn with
  | nil => rfl
  | append_singleton xs x ih =>
    rw [← List.card_toFinset] at ih ⊢
    have hold : xs.zipIdx.countP (fun item => firstIndex key (xs ++ [x]) item.1 = item.2) =
        xs.zipIdx.countP fun item => firstIndex key xs item.1 = item.2 := by
      apply List.countP_congr
      intro item hitem
      have hmem : key item.1 ∈ xs.map key :=
        List.mem_map_of_mem (List.mem_of_getElem? (List.mem_zipIdx_iff_getElem?.mp hitem))
      rw [firstIndex, List.map_append, List.idxOf_append_of_mem hmem, firstIndex]
    rw [List.zipIdx_append, List.countP_append, hold, ← ih, List.map_append, List.toFinset_append]
    by_cases hmem : key x ∈ xs.map key
    · have hne : List.idxOf (key x) (xs.map key) ≠ xs.length := by
        have hlt := List.idxOf_lt_length_of_mem hmem
        rw [List.length_map] at hlt
        omega
      have hsame := Finset.insert_eq_of_mem (List.mem_toFinset.mpr hmem)
      simp [firstIndex, List.idxOf_append_of_mem hmem, hne, hsame]
    · have hmore := Finset.card_insert_of_notMem (mt List.mem_toFinset.mp hmem)
      simp [firstIndex, List.idxOf_append_of_notMem hmem, hmore]

/-- Keys that tell the same elements apart number them alike. -/
theorem firstIndex_congr {γ : Type} [DecidableEq γ] {key' : α → γ}
    (h : ∀ a ∈ xs, ∀ b ∈ xs, key a = key b ↔ key' a = key' b) (hx : x ∈ xs) :
    firstIndex key xs x = firstIndex key' xs x := by
  apply le_antisymm
  · have hlt : firstIndex key' xs x < xs.length := firstIndex_lt hx
    have hget := List.getElem?_eq_getElem hlt
    exact firstIndex_le hget ((h _ (List.mem_of_getElem? hget) x hx).mpr (key_firstIndex hx hget))
  · have hlt : firstIndex key xs x < xs.length := firstIndex_lt hx
    have hget := List.getElem?_eq_getElem hlt
    exact firstIndex_le hget ((h _ (List.mem_of_getElem? hget) x hx).mp (key_firstIndex hx hget))

end FirstIndex

/-- A consumer that keeps the first element of each key, the keys in `seen` being taken. -/
def keepFirstFrom (key : α → κ) : List κ → List α → List α
  | _, [] => []
  | seen, x :: xs =>
    if key x ∈ seen then keepFirstFrom key seen xs
    else x :: keepFirstFrom key (key x :: seen) xs

def keepFirst (key : α → κ) (xs : List α) : List α := keepFirstFrom key [] xs

theorem keepFirstFrom_sublist (key : α → κ) (seen : List κ) (xs : List α) :
    (keepFirstFrom key seen xs).Sublist xs := by
  induction xs generalizing seen with
  | nil => exact List.Sublist.refl []
  | cons x xs ih =>
    rw [keepFirstFrom]
    split_ifs with h
    · exact (ih seen).cons x
    · exact (ih (key x :: seen)).cons_cons x

theorem keepFirst_sublist (key : α → κ) (xs : List α) : (keepFirst key xs).Sublist xs :=
  keepFirstFrom_sublist key [] xs

theorem keepFirstFrom_keys (key : α → κ) (seen : List κ) (xs : List α) :
    ((keepFirstFrom key seen xs).map key).Nodup ∧
      ∀ x ∈ keepFirstFrom key seen xs, key x ∉ seen := by
  induction xs generalizing seen with
  | nil => simp [keepFirstFrom]
  | cons x xs ih =>
    rw [keepFirstFrom]
    split_ifs with h
    · exact ih seen
    · obtain ⟨hnodup, hnew⟩ := ih (key x :: seen)
      refine ⟨?_, ?_⟩
      · rw [List.map_cons, List.nodup_cons]
        refine ⟨?_, hnodup⟩
        intro hmem
        obtain ⟨y, hy, hkey⟩ := List.mem_map.mp hmem
        exact hnew y hy (by simp [hkey])
      · intro y hy
        rcases List.mem_cons.mp hy with rfl | hy
        · exact h
        · exact fun hs => hnew y hy (List.mem_cons_of_mem _ hs)

theorem exists_keepFirstFrom (key : α → κ) (seen : List κ) {xs : List α} {x : α} (hx : x ∈ xs) :
    key x ∈ seen ∨ ∃ y ∈ keepFirstFrom key seen xs, key y = key x := by
  induction xs generalizing seen with
  | nil => cases hx
  | cons z xs ih =>
    rw [keepFirstFrom]
    split_ifs with h
    · rcases List.mem_cons.mp hx with rfl | hx
      · exact Or.inl h
      · exact ih seen hx
    · rcases List.mem_cons.mp hx with rfl | hx
      · exact Or.inr ⟨x, by simp, rfl⟩
      · rcases ih (key z :: seen) hx with hs | ⟨y, hy, hkey⟩
        · rcases List.mem_cons.mp hs with heq | hs
          · exact Or.inr ⟨z, by simp, heq.symm⟩
          · exact Or.inl hs
        · exact Or.inr ⟨y, by simp [hy], hkey⟩

theorem exists_keepFirst (key : α → κ) {xs : List α} {x : α} (hx : x ∈ xs) :
    ∃ y ∈ keepFirst key xs, key y = key x := by
  rcases exists_keepFirstFrom key [] hx with h | h
  · cases h
  · exact h

theorem length_keepFirst (key : α → κ) (xs : List α) :
    (keepFirst key xs).length = (xs.map key).dedup.length := by
  have hperm : ((keepFirst key xs).map key).Perm (xs.map key).dedup := by
    refine (List.perm_ext_iff_of_nodup (keepFirstFrom_keys key [] xs).1 (List.nodup_dedup _)).mpr ?_
    intro k
    simp only [List.mem_dedup, List.mem_map]
    constructor
    · rintro ⟨y, hy, rfl⟩
      exact ⟨y, (keepFirst_sublist key xs).subset hy, rfl⟩
    · rintro ⟨x, hx, rfl⟩
      exact exists_keepFirst key hx
  rw [← hperm.length_eq, List.length_map]

/-- Nothing is dropped exactly when the keys are distinct. -/
theorem keepFirst_eq_self_iff (key : α → κ) (xs : List α) :
    keepFirst key xs = xs ↔ (xs.map key).Nodup := by
  constructor
  · intro h
    have hnodup := (keepFirstFrom_keys key [] xs).1
    rwa [show keepFirstFrom key [] xs = xs from h] at hnodup
  · intro h
    apply (keepFirst_sublist key xs).eq_of_length
    rw [length_keepFirst, h.dedup, List.length_map]

end FirstSeen

end AtlasConnectors
