import AtlasConnectors.Dict

/-! Producers that publish to a log, and a consumer that is handed entries of the log in any order and
any number of times, and keeps the first value of each key. -/
namespace AtlasConnectors
namespace Broker

open Relation

/-- What each producer has still to publish, what was published and by whom, what was handed to the
consumer, and what it keeps. -/
structure Net (ι μ κ β : Type) where
  todo : ι → List μ
  log : List (ι × μ)
  delivered : List (ι × μ)
  store : Dict κ β

variable {ι μ κ β γ : Type} [DecidableEq ι] [DecidableEq κ]

def Net.row (n : Net ι μ κ β) (k : κ) : Option β := n.store.lookup k

def start (runs : ι → List μ) : Net ι μ κ β := ⟨runs, [], [], []⟩

section Steps

-- what the consumer keeps of a message, nothing of one that it refuses
variable (keep : μ → Option (κ × β))

inductive Step : Net ι μ κ β → Net ι μ κ β → Prop
  | publish (n : Net ι μ κ β) {i : ι} {m : μ} {rest : List μ} (h : n.todo i = m :: rest) :
      Step n { n with todo := Function.update n.todo i rest, log := n.log ++ [(i, m)] }
  | stop (n : Net ι μ κ β) (i : ι) : Step n { n with todo := Function.update n.todo i [] }
  | deliver (n : Net ι μ κ β) {e : ι × μ} (h : e ∈ n.log) :
      Step n { n with
        delivered := n.delivered ++ [e]
        store := n.store.fill (keep e.2).toList }

abbrev Reaches : Net ι μ κ β → Net ι μ κ β → Prop := ReflTransGen (Step keep)

def publishedBy (i : ι) (log : List (ι × μ)) : List μ := (log.filter fun e => e.1 = i).map Prod.snd

def keptOf (entries : List (ι × μ)) : List (κ × β) := entries.filterMap fun e => keep e.2

end Steps

theorem mem_publishedBy {i : ι} {m : μ} {log : List (ι × μ)} : m ∈ publishedBy i log ↔ (i, m) ∈ log := by
  unfold publishedBy
  constructor
  · intro h
    obtain ⟨e, he, rfl⟩ := List.mem_map.mp h
    obtain ⟨hmem, hi⟩ := List.mem_filter.mp he
    rw [← show e.1 = i by simpa using hi]
    exact hmem
  · intro h
    exact List.mem_map.mpr ⟨(i, m), List.mem_filter.mpr ⟨h, by simp⟩, rfl⟩

variable {keep : μ → Option (κ × β)} {runs : ι → List μ} {n n' : Net ι μ κ β}

omit [DecidableEq ι] [DecidableEq κ] in
theorem mem_keptOf {entries : List (ι × μ)} {p : κ × β} :
    p ∈ keptOf keep entries ↔ ∃ e ∈ entries, keep e.2 = some p := List.mem_filterMap

/-- Every producer has published a beginning of its run, only what was published is delivered, and
the consumer keeps the first value of each key. -/
structure Sound (keep : μ → Option (κ × β)) (runs : ι → List μ) (n : Net ι μ κ β) : Prop where
  split : ∀ i, ∃ dropped, publishedBy i n.log ++ n.todo i ++ dropped = runs i
  delivered : n.delivered ⊆ n.log
  store : n.store = Dict.fill [] (keptOf keep n.delivered)

theorem sound_start : Sound keep runs (start runs) where
  split := fun i => ⟨[], by simp [start, publishedBy]⟩
  delivered := List.Subset.refl _
  store := rfl

theorem Step.sound (hn : Sound keep runs n) (h : Step keep n n') : Sound keep runs n' := by
  cases h with
  | @publish i m rest h =>
    refine ⟨?_, fun e he => List.mem_append_left _ (hn.delivered he), hn.store⟩
    intro j
    obtain ⟨dropped, hsplit⟩ := hn.split j
    refine ⟨dropped, ?_⟩
    by_cases hj : j = i
    · subst hj
      rw [h] at hsplit
      simp [publishedBy, ← hsplit]
    · have hother : i ≠ j := Ne.symm hj
      simp [publishedBy, hj, hother, ← hsplit]
  | stop i =>
    refine ⟨?_, hn.delivered, hn.store⟩
    intro j
    obtain ⟨dropped, hsplit⟩ := hn.split j
    by_cases hj : j = i
    · subst hj
      exact ⟨n.todo j ++ dropped, by simp [← hsplit]⟩
    · exact ⟨dropped, by simp [hj, ← hsplit]⟩
  | @deliver e h =>
    refine ⟨hn.split, ?_, ?_⟩
    · intro e' he'
      rcases List.mem_append.mp he' with he' | he'
      · exact hn.delivered he'
      · exact List.mem_singleton.mp he' ▸ h
    · have hone : keptOf keep [e] = (keep e.2).toList := by
        cases hkeep : keep e.2 <;> simp [keptOf, hkeep]
      rw [keptOf, List.filterMap_append, Dict.fill_append]
      change n.store.fill (keep e.2).toList = _
      rw [hn.store, ← hone]
      rfl

theorem reaches_sound (h : Reaches keep (start runs) n) : Sound keep runs n := by
  induction h with
  | refl => exact sound_start
  | tail _ hstep ih => exact hstep.sound ih

namespace Sound

theorem mem_runs (hn : Sound keep runs n) {e : ι × μ} (he : e ∈ n.log) : e.2 ∈ runs e.1 := by
  obtain ⟨dropped, hsplit⟩ := hn.split e.1
  rw [← hsplit, List.append_assoc]
  exact List.mem_append_left _ (mem_publishedBy.mpr he)

theorem published_isPrefix (hn : Sound keep runs n) (i : ι) : publishedBy i n.log <+: runs i := by
  obtain ⟨dropped, hsplit⟩ := hn.split i
  exact ⟨n.todo i ++ dropped, by rw [← List.append_assoc, hsplit]⟩

theorem mem_store (hn : Sound keep runs n) {p : κ × β} (hp : p ∈ n.store) :
    ∃ e ∈ n.delivered, keep e.2 = some p := by
  rw [hn.store] at hp
  rcases Dict.mem_of_mem_fill hp with hp | hp
  · cases hp
  · exact mem_keptOf.mp hp

theorem nodup_keys (hn : Sound keep runs n) : n.store.keys.Nodup := by
  rw [hn.store]
  exact Dict.nodup_keys_fill (d := []) List.nodup_nil

theorem mem_keys_iff (hn : Sound keep runs n) {k : κ} :
    k ∈ n.store.keys ↔ ∃ e ∈ n.delivered, ∃ p, keep e.2 = some p ∧ p.1 = k := by
  rw [hn.store, Dict.mem_keys_fill]
  constructor
  · rintro (h | ⟨p, hp, rfl⟩)
    · cases h
    · obtain ⟨e, he, hkeep⟩ := mem_keptOf.mp hp
      exact ⟨e, he, p, hkeep, rfl⟩
  · rintro ⟨e, he, p, hkeep, rfl⟩
    exact Or.inr ⟨p, mem_keptOf.mpr ⟨e, he, hkeep⟩, rfl⟩

end Sound

section Facts

/-- What was published of a run is identified by its key exactly. -/
def Identifies (keep : μ → Option (κ × β)) (fact : κ × β → γ) (runs : ι → List μ) : Prop :=
  ∀ i j m m' p q, m ∈ runs i → m' ∈ runs j → keep m = some p → keep m' = some q →
    (p.1 = q.1 ↔ fact p = fact q)

variable {fact : κ × β → γ}

def known (fact : κ × β → γ) (n : Net ι μ κ β) : Set γ := {f | ∃ p ∈ n.store, fact p = f}

def factsOf (keep : μ → Option (κ × β)) (fact : κ × β → γ) (entries : List (ι × μ)) : Set γ :=
  {f | ∃ p ∈ keptOf keep entries, fact p = f}

theorem Sound.keptOf_injective (hn : Sound keep runs n) (hid : Identifies keep fact runs) {p q : κ × β}
    (hp : p ∈ keptOf keep n.log) (hq : q ∈ keptOf keep n.log) : p.1 = q.1 ↔ fact p = fact q := by
  obtain ⟨e, he, hkeep⟩ := mem_keptOf.mp hp
  obtain ⟨e', he', hkeep'⟩ := mem_keptOf.mp hq
  exact hid _ _ _ _ _ _ (hn.mem_runs he) (hn.mem_runs he') hkeep hkeep'

theorem Sound.kept_of_store (hn : Sound keep runs n) {p : κ × β} (hp : p ∈ n.store) :
    p ∈ keptOf keep n.log := by
  obtain ⟨e, he, hkeep⟩ := hn.mem_store hp
  exact mem_keptOf.mpr ⟨e, hn.delivered he, hkeep⟩

/-- The consumer knows the facts that were delivered to it. -/
theorem Sound.known_eq (hn : Sound keep runs n) (hid : Identifies keep fact runs) :
    known fact n = factsOf keep fact n.delivered := by
  ext f
  constructor
  · rintro ⟨p, hp, rfl⟩
    obtain ⟨e, he, hkeep⟩ := hn.mem_store hp
    exact ⟨p, mem_keptOf.mpr ⟨e, he, hkeep⟩, rfl⟩
  · rintro ⟨p, hp, rfl⟩
    obtain ⟨e, he, hkeep⟩ := mem_keptOf.mp hp
    have hkey : p.1 ∈ n.store.keys := hn.mem_keys_iff.mpr ⟨e, he, p, hkeep, rfl⟩
    obtain ⟨q, hq, hqp⟩ := List.mem_map.mp hkey
    have hlog : p ∈ keptOf keep n.log := mem_keptOf.mpr ⟨e, hn.delivered he, hkeep⟩
    exact ⟨q, hq, (hn.keptOf_injective hid (hn.kept_of_store hq) hlog).mp hqp⟩

theorem Sound.nodup_facts (hn : Sound keep runs n) (hid : Identifies keep fact runs) :
    (n.store.map fact).Nodup := by
  have hkeys : (n.store.map Prod.fst).Nodup := hn.nodup_keys
  apply (List.nodup_map_iff_inj_on (Dict.nodup_of_nodup_keys hn.nodup_keys)).mpr
  intro p hp q hq hpq
  have hkey := (hn.keptOf_injective hid (hn.kept_of_store hp) (hn.kept_of_store hq)).mpr hpq
  exact List.inj_on_of_nodup_map hkeys hp hq hkey

/-- What was published, and what of it is known. -/
structure Knowledge (γ : Type) where
  published : Set γ
  known : Set γ

inductive Learns : Knowledge γ → Knowledge γ → Prop
  | stutter (k : Knowledge γ) : Learns k k
  | publish (k : Knowledge γ) (f : γ) : Learns k { k with published := insert f k.published }
  | learn (k : Knowledge γ) (f : γ) (h : f ∈ k.published) : Learns k { k with known := insert f k.known }

def knowledge (keep : μ → Option (κ × β)) (fact : κ × β → γ) (n : Net ι μ κ β) : Knowledge γ :=
  ⟨factsOf keep fact n.log, known fact n⟩

omit [DecidableEq ι] [DecidableEq κ] in
theorem factsOf_append_of_none {e : ι × μ} (h : keep e.2 = none) (entries : List (ι × μ)) :
    factsOf keep fact (entries ++ [e]) = factsOf keep fact entries := by
  simp [factsOf, keptOf, List.filterMap_append, h]

omit [DecidableEq ι] [DecidableEq κ] in
theorem factsOf_append_of_some {e : ι × μ} {p : κ × β} (h : keep e.2 = some p) (entries : List (ι × μ)) :
    factsOf keep fact (entries ++ [e]) = insert (fact p) (factsOf keep fact entries) := by
  ext f
  constructor
  · rintro ⟨q, hq, rfl⟩
    rw [keptOf, List.filterMap_append, List.mem_append] at hq
    rcases hq with hq | hq
    · exact Set.mem_insert_of_mem _ ⟨q, hq, rfl⟩
    · have hqp : q = p := by simpa [h] using hq
      rw [hqp]
      exact Set.mem_insert _ _
  · intro hf
    rcases Set.mem_insert_iff.mp hf with rfl | ⟨q, hq, rfl⟩
    · exact ⟨p, mem_keptOf.mpr ⟨e, by simp, h⟩, rfl⟩
    · obtain ⟨e', he', hkeep⟩ := mem_keptOf.mp hq
      exact ⟨q, mem_keptOf.mpr ⟨e', List.mem_append_left _ he', hkeep⟩, rfl⟩

theorem Step.learns (hn : Sound keep runs n) (hid : Identifies keep fact runs) (h : Step keep n n') :
    Learns (knowledge keep fact n) (knowledge keep fact n') := by
  have hknown' := (h.sound hn).known_eq hid
  cases h with
  | @publish i m rest h =>
    cases hkeep : keep m with
    | none =>
      have hlog : factsOf keep fact (n.log ++ [(i, m)]) = _ := factsOf_append_of_none hkeep n.log
      simp only [knowledge, hlog]
      exact .stutter _
    | some p =>
      have hlog : factsOf keep fact (n.log ++ [(i, m)]) = _ := factsOf_append_of_some hkeep n.log
      simp only [knowledge, hlog]
      exact .publish (knowledge keep fact n) (fact p)
  | stop => exact .stutter _
  | @deliver e h =>
    rw [knowledge, knowledge, hknown', hn.known_eq hid]
    cases hkeep : keep e.2 with
    | none =>
      rw [factsOf_append_of_none hkeep]
      exact .stutter _
    | some p =>
      rw [factsOf_append_of_some hkeep]
      exact .learn _ _ ⟨p, mem_keptOf.mpr ⟨e, h, hkeep⟩, rfl⟩

/-- Whatever the interleaving, the consumer learns. -/
theorem reaches_learns (hid : Identifies keep fact runs) (h : Reaches keep (start runs) n) :
    ReflTransGen Learns (knowledge keep fact (start runs : Net ι μ κ β)) (knowledge keep fact n) := by
  induction h with
  | refl => exact .refl
  | tail hreach hstep ih => exact ih.tail (hstep.learns (reaches_sound hreach) hid)

end Facts

def Delivered (runs : ι → List μ) (n : Net ι μ κ β) (i : ι) : Prop := ∀ m ∈ runs i, (i, m) ∈ n.delivered

theorem Sound.known_of_delivered {fact : κ × β → γ} (hn : Sound keep runs n) (hid : Identifies keep fact runs)
    (hall : ∀ i, Delivered runs n i) :
    known fact n = {f | ∃ i, ∃ m ∈ runs i, ∃ p, keep m = some p ∧ fact p = f} := by
  rw [hn.known_eq hid]
  ext f
  constructor
  · rintro ⟨p, hp, rfl⟩
    obtain ⟨e, he, hkeep⟩ := mem_keptOf.mp hp
    exact ⟨e.1, e.2, hn.mem_runs (hn.delivered he), p, hkeep, rfl⟩
  · rintro ⟨i, m, hm, p, hkeep, rfl⟩
    exact ⟨p, mem_keptOf.mpr ⟨(i, m), hall i m hm, hkeep⟩, rfl⟩

/-- The store has a row for everything that a run can still bring. -/
def Saturated (keep : μ → Option (κ × β)) (runs : ι → List μ) (n : Net ι μ κ β) : Prop :=
  ∀ i, ∀ m ∈ runs i, ∀ p, keep m = some p → p.1 ∈ n.store.keys

theorem store_of_saturated (hreach : Reaches keep (start runs) n) (hsat : Saturated keep runs n)
    (h : Reaches keep n n') : n'.store = n.store := by
  induction h with
  | refl => rfl
  | @tail b c hb hstep ih =>
    cases hstep with
    | publish => exact ih
    | stop => exact ih
    | @deliver e he =>
      have hmem := (reaches_sound (hreach.trans hb)).mem_runs he
      have hkeys : ∀ p ∈ (keep e.2).toList, p.1 ∈ b.store.keys := by
        intro p hp
        rw [ih]
        exact hsat e.1 e.2 hmem p (Option.mem_toList.mp hp)
      exact (Dict.fill_of_keys hkeys).trans ih

theorem Sound.mem_keys_of_delivered (hn : Sound keep runs n) {e : ι × μ} (he : e ∈ n.delivered) {p : κ × β}
    (hp : keep e.2 = some p) : p.1 ∈ n.store.keys := hn.mem_keys_iff.mpr ⟨e, he, p, hp, rfl⟩

theorem Sound.exists_of_row (hn : Sound keep runs n) {k : κ} {b : β} (h : n.row k = some b) :
    ∃ i, ∃ m ∈ runs i, keep m = some (k, b) := by
  obtain ⟨e, he, hkeep⟩ := hn.mem_store (Dict.mem_of_lookup h)
  exact ⟨e.1, e.2, hn.mem_runs (hn.delivered he), hkeep⟩

/-- Stores with the same keys agree on their rows as far as the runs do. -/
theorem Sound.rows_agree {ι' : Type} [DecidableEq ι'] {runs' : ι' → List μ} {n' : Net ι' μ κ β}
    {R : β → β → Prop} (hn : Sound keep runs n) (hn' : Sound keep runs' n')
    (hkeys : ∀ k, k ∈ n.store.keys ↔ k ∈ n'.store.keys)
    (hR : ∀ i j m m' k b b', m ∈ runs i → m' ∈ runs' j → keep m = some (k, b) → keep m' = some (k, b') → R b b')
    (k : κ) : Option.Rel R (n.row k) (n'.row k) := by
  cases hb : n.row k with
  | none =>
    have hnone : n'.row k = none := by
      rw [Net.row, Dict.lookup_eq_none_iff, ← hkeys, ← Dict.lookup_eq_none_iff]
      exact hb
    rw [hnone]
    exact .none
  | some b =>
    have hkey : k ∈ n'.store.keys := (hkeys k).mp (Dict.mem_keys_of_lookup hb)
    have hsome : (n'.row k).isSome = true := Dict.isSome_lookup.mpr hkey
    obtain ⟨b', hb'⟩ := Option.isSome_iff_exists.mp hsome
    obtain ⟨i, m, hm, hkeep⟩ := hn.exists_of_row hb
    obtain ⟨j, m', hm', hkeep'⟩ := hn'.exists_of_row hb'
    rw [hb']
    exact .some (hR i j m m' k b b' hm hm' hkeep hkeep')

theorem exists_published (keep : μ → Option (κ × β)) (n : Net ι μ κ β) (i : ι) : ∃ n', Reaches keep n n' ∧
    n'.log = n.log ++ (n.todo i).map (Prod.mk i) ∧ n'.todo = Function.update n.todo i [] := by
  induction htodo : n.todo i generalizing n with
  | nil => exact ⟨n, .refl, by simp, by rw [← htodo, Function.update_eq_self]⟩
  | cons m rest ih =>
    obtain ⟨n', hreach, hlog, htodo'⟩ := ih
      { n with todo := Function.update n.todo i rest, log := n.log ++ [(i, m)] } (by simp)
    exact ⟨n', .head (.publish n htodo) hreach, by simp [hlog], by simp [htodo']⟩

theorem exists_delivered (keep : μ → Option (κ × β)) (n : Net ι μ κ β) (entries : List (ι × μ))
    (h : entries ⊆ n.log) : ∃ n', Reaches keep n n' ∧ n'.log = n.log ∧ n'.todo = n.todo ∧
      n'.delivered = n.delivered ++ entries := by
  induction entries generalizing n with
  | nil => exact ⟨n, .refl, rfl, rfl, by simp⟩
  | cons e entries ih =>
    have he : e ∈ n.log := h List.mem_cons_self
    obtain ⟨n', hreach, hlog, htodo, hdelivered⟩ := ih
      { n with delivered := n.delivered ++ [e], store := n.store.fill (keep e.2).toList }
      fun e' he' => h (List.mem_cons_of_mem e he')
    exact ⟨n', .head (.deliver n he) hreach, hlog, htodo, by simp [hdelivered]⟩

/-- Producers that are not stopped can all be delivered. -/
theorem exists_all_delivered (keep : μ → Option (κ × β)) (runs : ι → List μ) (producers : List ι) :
    ∃ n : Net ι μ κ β, Reaches keep (start runs) n ∧ ∀ i ∈ producers, Delivered runs n i := by
  suffices hlog : ∃ n : Net ι μ κ β, Reaches keep (start runs) n ∧
      (∀ i ∈ producers, ∀ m ∈ runs i, (i, m) ∈ n.log) ∧ ∀ i ∉ producers, n.todo i = runs i by
    obtain ⟨n, hreach, hall, _⟩ := hlog
    obtain ⟨n', hdeliver, _, _, hdelivered⟩ := exists_delivered keep n n.log (List.Subset.refl _)
    refine ⟨n', hreach.trans hdeliver, fun i hi m hm => ?_⟩
    rw [hdelivered]
    exact List.mem_append_right _ (hall i hi m hm)
  induction producers with
  | nil => exact ⟨start runs, .refl, by simp, fun _ _ => rfl⟩
  | cons i producers ih =>
    obtain ⟨n, hreach, hall, hrest⟩ := ih
    obtain ⟨n', hpublish, hlog, htodo⟩ := exists_published keep n i
    refine ⟨n', hreach.trans hpublish, ?_, ?_⟩
    · intro j hj m hm
      rw [hlog]
      by_cases hmem : j ∈ producers
      · exact List.mem_append_left _ (hall j hmem m hm)
      · have hji : j = i := (List.mem_cons.mp hj).resolve_right hmem
        subst hji
        rw [hrest j hmem]
        exact List.mem_append_right _ (List.mem_map_of_mem hm)
    · intro j hj
      have hji : j ≠ i := by
        rintro rfl
        exact hj List.mem_cons_self
      rw [htodo, Function.update_of_ne hji]
      exact hrest j fun h => hj (List.mem_cons_of_mem i h)

end Broker
end AtlasConnectors
