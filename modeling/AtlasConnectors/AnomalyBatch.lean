import AtlasConnectors.BatchIdentity

/-! Which anomaly batches reach the detector whole: a copied flow collides with an earlier copy
of the same source. -/
namespace AtlasConnectors
namespace FinhubAnomaly

open NumberText

namespace Origin

/-- Digits start the number of a baseline flow, and letters tell the anomalies apart. -/
theorem source_eq_of_ref {o o' : Origin} (h : o.ref = o'.ref) : o.source = o'.source := by
  cases o <;> cases o' <;> simp [ref, String.ext_iff] at h
  case base.base i j | base.copy i j | copy.base i j | copy.copy i j =>
    exact congrArg base (zfill_injective 5 (String.toList_inj.mp h))
  case outlier.outlier k k' => exact congrArg outlier (zfill_injective 3 (String.toList_inj.mp h))
  case offHours.offHours k k' => exact congrArg offHours (zfill_injective 3 (String.toList_inj.mp h))
  case slice.slice k s k' s' =>
    obtain ⟨rfl, hdigits⟩ := zfill_dash_inj h
    have htext : (toString s : String) = toString s' := by simp [String.ext_iff, hdigits]
    rw [natText_injective htext]
  case base.slice | base.outlier | base.offHours | copy.slice | copy.outlier | copy.offHours =>
    exact absurd h (zfill_ne_cons (by decide) _ _ _)
  case slice.base | outlier.base | offHours.base | slice.copy | outlier.copy | offHours.copy =>
    exact absurd h.symm (zfill_ne_cons (by decide) _ _ _)

end Origin

/-- What tells flows of a batch apart. -/
def flowKey (f : SimCashFlow) : Option String × Option String :=
  (f.ref, f.booked_at.map DateTime.isoformat)

theorem flowKey_eq_of_samePayload {f f' : SimCashFlow} (h : SamePayload f.model_dump f'.model_dump) :
    flowKey f = flowKey f' := by
  have hinj : Function.Injective optionText := by
    intro a b hab
    cases a <;> cases b <;> simp_all [optionText]
  have href : optionText f.ref = optionText f'.ref := by
    simpa [SimCashFlow.model_dump, Dict.lookup_cons] using h "ref"
  have hbooked : optionText (f.booked_at.map DateTime.isoformat) =
      optionText (f'.booked_at.map DateTime.isoformat) := by
    simpa [SimCashFlow.model_dump, Dict.lookup_cons] using h "booked_at"
  exact Prod.ext (hinj href) (hinj hbooked)

/-- From the half hour of a working hour, seven minutes change the minute only. -/
theorem addSeconds_fields {t u : DateTime} (hhour : t.hour.val ≤ 17) (hminute : t.minute.val = 30)
    (hsecond : t.second.val = 0) (h : t.addSeconds 420 = some u) :
    u = { t with minute := 37 } := by
  have hday : (t.secondOfDay + 420) / 86400 = 0 := by
    unfold DateTime.secondOfDay
    omega
  rw [DateTime.addSeconds, hday] at h
  cases h
  simp only [DateTime.mk.injEq, true_and, and_true]
  refine ⟨Fin.ext ?_, Fin.ext ?_, Fin.ext ?_⟩
  · simp only [DateTime.secondOfDay]
    omega
  · simp only [DateTime.secondOfDay]
    change _ = 37
    omega
  · simp only [DateTime.secondOfDay]
    omega

theorem isoformat_addSeconds_ne {t u : DateTime} (hhour : t.hour.val ≤ 17) (hminute : t.minute.val = 30)
    (hsecond : t.second.val = 0) (h : t.addSeconds 420 = some u) : t.isoformat ≠ u.isoformat := by
  rw [addSeconds_fields hhour hminute hsecond h]
  intro heq
  have hminutes : zfill 2 t.minute = zfill 2 37 := by
    simpa [DateTime.isoformat, String.append_assoc] using heq
  have := zfill_injective 2 hminutes
  omega

section Related

variable {baseline : List SimCashFlow}
  (hflows : ∀ (i : ℕ) f, baseline[i]? = some f → BaselineFlow i f)

include hflows

theorem From.ref {o : Origin} {f : SimCashFlow} (h : From baseline o f) : f.ref = some o.ref := by
  cases h with
  | base i f hf => exact (hflows i f hf).ref
  | copy i f t u hf _ _ => exact (hflows i f hf).ref
  | slice k s f href _ => exact href
  | outlier k f href _ => exact href
  | offHours k f href _ => exact href

theorem flowKey_copy_ne {i : ℕ} {f f' : SimCashFlow} (h : From baseline (.base i) f)
    (h' : From baseline (.copy i) f') : flowKey f ≠ flowKey f' := by
  intro hkey
  cases h with
  | base i f hf =>
    cases h' with
    | copy i g t u hg ht hu =>
      rw [hf] at hg
      cases hg
      obtain ⟨t', ht', hhour, hminute, hsecond⟩ := (hflows i f hf).booked
      rw [ht] at ht'
      cases ht'
      have htext : t.isoformat = u.isoformat := by simpa [flowKey, ht] using congrArg Prod.snd hkey
      exact isoformat_addSeconds_ne hhour hminute hsecond hu htext

theorem From.origin_eq {o o' : Origin} {f f' : SimCashFlow} (h : From baseline o f)
    (h' : From baseline o' f') (hkey : flowKey f = flowKey f') : o = o' := by
  have href : o.ref = o'.ref := by
    have hsome : some o.ref = some o'.ref := by
      rw [← h.ref hflows, ← h'.ref hflows]
      exact congrArg Prod.fst hkey
    exact Option.some.inj hsome
  have hsource := Origin.source_eq_of_ref href
  cases o <;> cases o' <;> cases hsource
  case base.copy i => exact absurd hkey (flowKey_copy_ne hflows h h')
  case copy.base i => exact absurd hkey.symm (flowKey_copy_ne hflows h' h)
  all_goals rfl

end Related

theorem From.copy_eq {baseline : List SimCashFlow} {i : ℕ} {f f' : SimCashFlow}
    (h : From baseline (.copy i) f) (h' : From baseline (.copy i) f') : f = f' := by
  cases h with
  | copy i g t u hg ht hu =>
    cases h' with
    | copy i g' t' u' hg' ht' hu' =>
      rw [hg] at hg'
      cases hg'
      rw [ht] at ht'
      cases ht'
      rw [hu] at hu'
      cases hu'
      rfl

/-- Two duplicates of one baseline flow: the copied flows wrap around the baseline. -/
def RepeatsSource (anomaly_types : List String) (count n : ℕ) : Prop :=
  ∃ k₁ k₂, k₁ < k₂ ∧ k₂ < count ∧ cycled anomaly_types k₁ = .ok "duplicate" ∧
    cycled anomaly_types k₂ = .ok "duplicate" ∧ k₁ % n = k₂ % n

/-- The anomaly that an origin belongs to, when its reference tells. -/
def Origin.anomaly? : Origin → Option ℕ
  | base _ => none
  | copy _ => none
  | slice k _ => some k
  | outlier k => some k
  | offHours k => some k

theorem mem_originsAt {anomaly_types : List String} {n k : ℕ} {o : Origin}
    (h : o ∈ originsAt anomaly_types n k) :
    o.anomaly? = some k ∨ cycled anomaly_types k = .ok "duplicate" ∧ o = .copy (k % n) := by
  unfold originsAt originsOf at h
  split at h
  · rename_i kind hkind
    split_ifs at h with hstruct hdup hout
    · obtain ⟨s, _, rfl⟩ := List.mem_map.mp h
      exact Or.inl rfl
    · rw [List.mem_singleton] at h
      exact Or.inr ⟨hdup ▸ hkind, h⟩
    · rw [List.mem_singleton] at h
      exact Or.inl (h ▸ rfl)
    · rw [List.mem_singleton] at h
      exact Or.inl (h ▸ rfl)
  · cases h

theorem originsAt_nodup (anomaly_types : List String) (n k : ℕ) :
    (originsAt anomaly_types n k).Nodup := by
  unfold originsAt originsOf
  split
  · split_ifs
    · apply List.nodup_range.map
      intro s s' h
      cases h
      rfl
    · exact List.nodup_singleton _
    · exact List.nodup_singleton _
    · exact List.nodup_singleton _
  · exact List.nodup_nil

theorem originsAt_disjoint {anomaly_types : List String} {count n k₁ k₂ : ℕ}
    (h : ¬RepeatsSource anomaly_types count n) (hlt : k₁ < k₂) (hcount : k₂ < count) :
    List.Disjoint (originsAt anomaly_types n k₁) (originsAt anomaly_types n k₂) := by
  intro o ho₁ ho₂
  rcases mem_originsAt ho₁ with hk₁ | ⟨hdup₁, rfl⟩
  · rcases mem_originsAt ho₂ with hk₂ | ⟨_, rfl⟩
    · rw [hk₁] at hk₂
      cases hk₂
      omega
    · cases hk₁
  · rcases mem_originsAt ho₂ with hk₂ | ⟨hdup₂, heq⟩
    · cases hk₂
    · exact h ⟨k₁, k₂, hlt, hcount, hdup₁, hdup₂, Origin.copy.inj heq⟩

def origins (anomaly_types : List String) (count n : ℕ) : List Origin :=
  (List.range n).map .base ++ ((List.range count).map (originsAt anomaly_types n)).flatten

theorem origins_nodup {anomaly_types : List String} {count n : ℕ}
    (h : ¬RepeatsSource anomaly_types count n) : (origins anomaly_types count n).Nodup := by
  apply List.Nodup.append
  · apply List.nodup_range.map
    intro i j hij
    cases hij
    rfl
  · rw [List.nodup_flatten]
    constructor
    · intro group hgroup
      obtain ⟨k, _, rfl⟩ := List.mem_map.mp hgroup
      exact originsAt_nodup anomaly_types n k
    · rw [List.pairwise_map]
      apply List.pairwise_lt_range.imp_of_mem
      intro k₁ k₂ _ hk₂ hlt
      exact originsAt_disjoint h hlt (List.mem_range.mp hk₂)
  · intro o hbase hanomaly
    obtain ⟨i, _, rfl⟩ := List.mem_map.mp hbase
    obtain ⟨group, hgroup, ho⟩ := List.mem_flatten.mp hanomaly
    obtain ⟨k, _, rfl⟩ := List.mem_map.mp hgroup
    rcases mem_originsAt ho with hk | ⟨_, heq⟩
    · cases hk
    · cases heq

/-- No two records have one canonical text, so every record built gets a hash of its own and a
consumer that keeps the first record of each hash keeps them all. -/
structure ReachesDetector (b : GeneratedBatch) : Prop where
  texts : (b.records.map fun r => canonical_payload_bytes r.2).Nodup
  kept : ∀ ctx fresh, ∃ built, build_canonical_records ctx fresh b = .ok built ∧
    (built.map fun cr => cr.source_metadata.source_hash).Nodup ∧
      keepFirst (fun cr => cr.source_metadata.source_hash) built = built

theorem reachesDetector_of_texts {b : GeneratedBatch} (htyped : ∀ r ∈ b.records, Typed r)
    (hinj : Set.InjOn source_hash (hashedBytes b))
    (h : (b.records.map fun r => canonical_payload_bytes r.2).Nodup) : ReachesDetector b := by
  refine ⟨h, ?_⟩
  intro ctx fresh
  have hhashes : ((b.records.zipIdx.map (builtRecord ctx fresh b)).map
      fun cr => cr.source_metadata.source_hash).Nodup := by
    rw [built_hashes]
    apply h.map_on
    intro x hx y hy hxy
    obtain ⟨r, hr, rfl⟩ := List.mem_map.mp hx
    obtain ⟨r', hr', rfl⟩ := List.mem_map.mp hy
    exact hinj ⟨r, hr, rfl⟩ ⟨r', hr', rfl⟩ hxy
  exact ⟨_, build_canonical_records_eq fun r hr => (htyped r hr).known_type, hhashes,
    (keepFirst_eq_self_iff _ _).mpr hhashes⟩

section Batch

variable {p : Params} {base_flows anomaly_count : ℤ} {anomaly_types : List String}
  {account : SimBankAccount} {baseline : List SimCashFlow} {groups : List (List SimCashFlow)}
  {b : GeneratedBatch}
  (h : Anomalous p base_flows anomaly_count anomaly_types account baseline groups b)

include h

theorem Anomalous.length : baseline.length = base_flows.toNat := by
  rw [← h.flows.length_eq, List.length_range]

theorem Anomalous.baselineFlow (i : ℕ) (f : SimCashFlow) (hf : baseline[i]? = some f) :
    BaselineFlow i f := by
  obtain ⟨hi, rfl⟩ := List.getElem?_eq_some_iff.mp hf
  have hrange : i < (List.range base_flows.toNat).length := by simpa [← h.length] using hi
  simpa using h.flows.get hrange hi

theorem Anomalous.from_origins : List.Forall₂ (From baseline)
    (origins anomaly_types anomaly_count.toNat base_flows.toNat) (baseline ++ groups.flatten) := by
  rw [← h.length]
  apply List.rel_append
  · rw [List.forall₂_map_left_iff]
    apply List.forall₂_iff_get.mpr
    refine ⟨by simp, ?_⟩
    intro i hi hi'
    have hfrom : From baseline (.base i) baseline[i] := .base i _ (List.getElem?_eq_getElem hi')
    simpa using hfrom
  · apply List.rel_flatten
    rw [List.forall₂_map_left_iff]
    exact h.related

theorem Anomalous.flowKey_nodup
    (hsource : ¬RepeatsSource anomaly_types anomaly_count.toNat base_flows.toNat) :
    ((baseline ++ groups.flatten).map flowKey).Nodup := by
  apply Raising.nodup_map_of_forall₂ _ h.from_origins (origins_nodup hsource)
  intro o o' f f' hf hf' hkey
  exact hf.origin_eq h.baselineFlow hf' hkey

theorem Anomalous.texts_nodup
    (hsource : ¬RepeatsSource anomaly_types anomaly_count.toNat base_flows.toNat) :
    (b.records.map fun r => canonical_payload_bytes r.2).Nodup := by
  rw [h.records, List.map_cons, List.nodup_cons, List.map_map]
  constructor
  · intro hmem
    obtain ⟨f, _, hbytes⟩ := List.mem_map.mp hmem
    have hsame := (bytes_eq_iff f.typed account.typed).mp hbytes
    have htype : "cash_flow" = "bank_account" := f.typed.type_eq account.typed hsame
    simp at htype
  · apply List.pairwise_map.mpr
    apply (List.pairwise_map.mp (h.flowKey_nodup hsource)).imp
    intro f f' hne hbytes
    exact hne (flowKey_eq_of_samePayload ((bytes_eq_iff f.typed f'.typed).mp hbytes))

theorem Anomalous.duplicate_group {k : ℕ} (hk : k < anomaly_count.toNat)
    (hdup : cycled anomaly_types k = .ok "duplicate") :
    ∃ f, groups[k]? = some [f] ∧ From baseline (.copy (k % base_flows.toNat)) f := by
  have hlen : k < groups.length := by
    rw [← h.related.length_eq, List.length_range]
    exact hk
  have hgroup := h.related.get (i := k) (by simpa using hk) hlen
  have horigins : originsAt anomaly_types baseline.length k = [.copy (k % base_flows.toNat)] := by
    simp [originsAt, originsOf, hdup, h.length]
  simp only [List.get_eq_getElem, List.getElem_range, horigins] at hgroup
  cases hget : groups[k] with
  | nil =>
    rw [hget] at hgroup
    cases hgroup
  | cons f rest =>
    rw [hget] at hgroup
    cases hgroup with
    | cons hfrom hnil =>
      cases hnil
      exact ⟨f, by rw [List.getElem?_eq_getElem hlen, hget], hfrom⟩

theorem Anomalous.not_nodup
    (hsource : RepeatsSource anomaly_types anomaly_count.toNat base_flows.toNat) :
    ¬(baseline ++ groups.flatten).Nodup := by
  obtain ⟨k₁, k₂, hlt, hcount, hdup₁, hdup₂, hmod⟩ := hsource
  obtain ⟨f₁, hget₁, hfrom₁⟩ := h.duplicate_group (hlt.trans hcount) hdup₁
  obtain ⟨f₂, hget₂, hfrom₂⟩ := h.duplicate_group hcount hdup₂
  rw [hmod] at hfrom₁
  have heq : f₁ = f₂ := hfrom₁.copy_eq hfrom₂
  intro hnodup
  have hgroups := (List.nodup_flatten.mp hnodup.of_append_right).2
  obtain ⟨hlen₁, hval₁⟩ := List.getElem?_eq_some_iff.mp hget₁
  obtain ⟨hlen₂, hval₂⟩ := List.getElem?_eq_some_iff.mp hget₂
  have hdisjoint := List.pairwise_iff_getElem.mp hgroups k₁ k₂ hlen₁ hlen₂ hlt
  rw [hval₁, hval₂, heq] at hdisjoint
  exact hdisjoint (List.mem_singleton.mpr rfl) (List.mem_singleton.mpr rfl)

end Batch

/-- The parameters make two duplicates copy one baseline flow. -/
def CopiesTwice (p : Params) : Prop :=
  ∃ base_flows anomaly_count anomaly_types, paramInt p "base_flows" = .ok base_flows ∧
    paramInt p "anomaly_count" = .ok anomaly_count ∧
    paramTexts p "anomaly_types" = .ok anomaly_types ∧
    RepeatsSource anomaly_types anomaly_count.toNat base_flows.toNat

/-- Every record of a batch reaches the detector exactly when no baseline flow is copied twice. -/
theorem reachesDetector_iff {rt : PyRuntime} {params p : Params} {seed : ℤ} {target_label : String}
    {today : Date} {b : GeneratedBatch} (hp : coerce_params rt.fmt param_schema params = .ok p)
    (hb : generate rt params seed target_label today = .ok b)
    (hinj : Set.InjOn source_hash (hashedBytes b)) : ReachesDetector b ↔ ¬CopiesTwice p := by
  obtain ⟨p', hp', base_flows, anomaly_count, anomaly_types, account, baseline, groups, h⟩ :=
    generate_anomalous hb
  rw [hp] at hp'
  cases hp'
  have hcopies : CopiesTwice p ↔
      RepeatsSource anomaly_types anomaly_count.toNat base_flows.toNat := by
    constructor
    · rintro ⟨n, k, types, hn, hk, htypes, hsource⟩
      cases h.base.symm.trans hn
      cases h.count.symm.trans hk
      cases h.types.symm.trans htypes
      exact hsource
    · intro hsource
      exact ⟨base_flows, anomaly_count, anomaly_types, h.base, h.count, h.types, hsource⟩
  rw [hcopies]
  constructor
  · intro hreach hsource
    apply h.not_nodup hsource
    have htexts := hreach.texts
    rw [h.records, List.map_cons, List.nodup_cons, List.map_map] at htexts
    exact htexts.2.of_map
  · intro hsource
    exact reachesDetector_of_texts (fun r hr => (generate_fabricated hb r hr).typed) hinj
      (h.texts_nodup hsource)

def oneAnomaly : Params := [("base_flows", .int 10), ("anomaly_count", .int 1)]

def fourAnomalies : Params := [("base_flows", .int 10), ("anomaly_count", .int 4)]

def elevenDuplicates : Params :=
  [("base_flows", .int 10), ("anomaly_count", .int 11), ("anomaly_types", .arr [.str "duplicate"])]

def leastBatch (params : Params) : GeneratedBatch :=
  (generate leastDraws params 42 "Société" newYear).toOption.getD ⟨[], [], "json"⟩

theorem oneAnomaly_generated :
    generate leastDraws oneAnomaly 42 "Société" newYear = .ok (leastBatch oneAnomaly) :=
  Raising.eq_ok_getD (by decide +kernel) _

def leastParams (params : Params) : Params :=
  (coerce_params leastDraws.fmt param_schema params).toOption.getD []

theorem fourAnomalies_evaluated :
    (generate leastDraws fourAnomalies 42 "Société" newYear).toOption.isSome = true ∧
    ((leastBatch fourAnomalies).records.map fun r => source_hash (canonical_payload_bytes r.2)).Nodup ∧
    (leastBatch fourAnomalies).records.length = 19 := by
  decide +kernel

theorem fourAnomalies_copied_once : coerce_params leastDraws.fmt param_schema fourAnomalies =
    .ok (leastParams fourAnomalies) ∧ ¬CopiesTwice (leastParams fourAnomalies) := by
  have hbase : paramInt (leastParams fourAnomalies) "base_flows" = .ok 10 := rfl
  have hcount : paramInt (leastParams fourAnomalies) "anomaly_count" = .ok 4 := rfl
  refine ⟨rfl, ?_⟩
  rintro ⟨n, count, types, hn, hcount', _, k₁, k₂, hlt, hle, _, _, hmod⟩
  cases hbase.symm.trans hn
  cases hcount.symm.trans hcount'
  change k₂ < 4 at hle
  change k₁ % 10 = k₂ % 10 at hmod
  omega

theorem fourAnomalies_reach : generate leastDraws fourAnomalies 42 "Société" newYear = .ok (leastBatch fourAnomalies) ∧
    (leastBatch fourAnomalies).records.length = 19 ∧ ReachesDetector (leastBatch fourAnomalies) := by
  obtain ⟨hsome, hnodup, hlength⟩ := fourAnomalies_evaluated
  obtain ⟨hp, honce⟩ := fourAnomalies_copied_once
  have hb : generate leastDraws fourAnomalies 42 "Société" newYear = .ok (leastBatch fourAnomalies) :=
    Raising.eq_ok_getD hsome _
  have hinj : Set.InjOn source_hash (hashedBytes (leastBatch fourAnomalies)) := by
    rintro _ ⟨r, hr, rfl⟩ _ ⟨r', hr', rfl⟩ h
    rw [List.inj_on_of_nodup_map hnodup hr hr' h]
  exact ⟨hb, hlength, (reachesDetector_iff hp hb hinj).mpr honce⟩

/-- One evaluation of the batch for all that is read off it. -/
theorem elevenDuplicates_evaluated : (generate leastDraws elevenDuplicates 42 "Société" newYear).toOption.isSome = true ∧
    ¬((leastBatch elevenDuplicates).records.map fun r => canonical_payload_bytes r.2).Nodup := by
  decide +kernel

theorem elevenDuplicates_collide : generate leastDraws elevenDuplicates 42 "Société" newYear =
    .ok (leastBatch elevenDuplicates) ∧ ¬ReachesDetector (leastBatch elevenDuplicates) := by
  obtain ⟨hsome, htexts⟩ := elevenDuplicates_evaluated
  exact ⟨Raising.eq_ok_getD hsome _, fun h => htexts h.texts⟩

end FinhubAnomaly
end AtlasConnectors
