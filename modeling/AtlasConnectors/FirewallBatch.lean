import AtlasConnectors.BatchIdentity

/-! What deduplication sees of a firewall batch, and that its manifest says so. -/
namespace AtlasConnectors
namespace ConnectFirewall

theorem badRef_injective : Function.Injective badRef := by
  intro k k' h
  have htext : NumberText.zfill 4 k = NumberText.zfill 4 k' := by simpa [badRef] using h
  exact NumberText.zfill_injective 4 htext

theorem goodRef_ne_badRef (n : ℤ) (k : ℕ) : "FW-" ++ NumberText.intText n ≠ badRef k := by
  intro h
  obtain ⟨c, cs, hc, hkind⟩ := Json.intText_head n
  have hlist : c :: cs = 'B' :: 'A' :: 'D' :: '-' :: (NumberText.zfill 4 k).toList := by
    simpa [badRef, String.ext_iff, hc] using h
  rw [(List.cons_eq_cons.mp hlist).1] at hkind
  exact absurd hkind (by decide)

theorem GoodFlow.ref_ne {f : SimCashFlow} (h : GoodFlow f) (k : ℕ) :
    f.record.2.lookup "ref" ≠ some (.str (badRef k)) := by
  obtain ⟨n, _, hn⟩ := h.exists_ref
  have href : f.record.2.lookup "ref" = some (.str ("FW-" ++ NumberText.intText n)) := by
    simp [SimCashFlow.record, SimCashFlow.model_dump, Dict.lookup_cons, hn, optionText]
  rw [href]
  intro heq
  exact goodRef_ne_badRef n k (by simpa using heq)

theorem Defective.ref {good : List SimCashFlow} {k : ℕ} {d : String × Payload Empty}
    (h : Defective (good.map SimCashFlow.model_dump) k d) (hdup : d.1 ≠ "dup_source_hash") :
    d.2.lookup "ref" = some (.str (badRef k)) := by
  cases h with
  | dup payload hmem => exact absurd rfl hdup
  | missing base hmem => simp [Dict.lookup_erase, Dict.lookup_set]
  | incoherent defect base hmem _ => simp [Dict.lookup_set]

theorem Defective.mem_good {good : List SimCashFlow} {k : ℕ} {d : String × Payload Empty}
    (h : Defective (good.map SimCashFlow.model_dump) k d) (hdup : d.1 = "dup_source_hash") :
    ∃ f ∈ good, d.2 = f.model_dump := by
  cases h with
  | dup payload hmem =>
    obtain ⟨f, hf, rfl⟩ := List.mem_map.mp hmem
    exact ⟨f, hf, rfl⟩
  | missing base hmem => exact absurd hdup (by simp)
  | incoherent defect base hmem hne => exact absurd hdup hne

theorem lookup_labels {n : ℕ} {bad : List (String × Payload Empty)} {i : ℕ} {s : String} :
    (labels n bad).lookup (toString i) = some s ↔
      ∃ (k : ℕ) (d : String × Payload Empty), i = n + k ∧ bad[k]? = some d ∧ d.1 = s := by
  have hnodup : (labels n bad).keys.Nodup := by
    have hrange : (List.range' n bad.length).Nodup := List.nodup_range'
    rw [keys_labels]
    exact hrange.map NumberText.natText_injective
  rw [Dict.lookup_eq_some_iff hnodup, labels, List.mem_map]
  constructor
  · rintro ⟨⟨d, j⟩, hmem, heq⟩
    obtain ⟨hle, hget⟩ := List.mem_zipIdx_iff_le_and_getElem?_sub.mp hmem
    obtain ⟨hi, hs⟩ := Prod.mk.inj heq
    have hij : j = i := NumberText.natText_injective hi
    exact ⟨j - n, d, by omega, hget, hs⟩
  · rintro ⟨k, d, rfl, hget, rfl⟩
    refine ⟨(d, n + k), ?_, rfl⟩
    rw [List.mem_zipIdx_iff_le_and_getElem?_sub]
    exact ⟨Nat.le_add_right n k, by simpa using hget⟩

section Records

variable {rt : PyRuntime} {p : Params} {base_flows bad_count : ℤ} {account : SimBankAccount}
  {good : List SimCashFlow} {bad : List (String × Payload Empty)} {acc : Progress} {b : GeneratedBatch}
  (h : Firewalled rt p base_flows bad_count account good bad acc b)

include h

theorem Firewalled.records_eq : b.records = (account.record :: good.map SimCashFlow.record) ++
    bad.map fun d => ("cash_flow", d.2) :=
  h.records.trans h.injected.records

theorem Firewalled.first_length :
    (account.record :: good.map SimCashFlow.record).length = 1 + base_flows.toNat := by
  rw [List.length_cons, List.length_map, h.length, Nat.add_comm]

theorem Firewalled.getElem?_bad (k : ℕ) : b.records[1 + base_flows.toNat + k]? =
    (bad[k]?).map fun d => ("cash_flow", d.2) := by
  rw [h.records_eq, List.getElem?_append_right (by rw [h.first_length]; omega), h.first_length,
    Nat.add_sub_cancel_left, List.getElem?_map]

theorem Firewalled.getElem?_first {i : ℕ} (hi : i < 1 + base_flows.toNat) : b.records[i]? =
    (account.record :: good.map SimCashFlow.record)[i]? := by
  rw [h.records_eq, List.getElem?_append_left (by rw [h.first_length]; exact hi)]

theorem Firewalled.defective {k : ℕ} {d : String × Payload Empty} (hd : bad[k]? = some d) :
    Defective (good.map SimCashFlow.model_dump) k d := by
  obtain ⟨hk, rfl⟩ := List.getElem?_eq_some_iff.mp hd
  have hrange : k < (List.range bad_count.toNat).length := by
    rw [h.injected.defective.length_eq]
    exact hk
  simpa using h.injected.defective.get hrange hk

theorem Firewalled.ref_ne {k j : ℕ} {r : SimRecord} (hj : j < 1 + base_flows.toNat + k)
    (hr : b.records[j]? = some r) : r.2.lookup "ref" ≠ some (.str (badRef k)) := by
  by_cases hfirst : j < 1 + base_flows.toNat
  · rw [h.getElem?_first hfirst] at hr
    rcases List.mem_cons.mp (List.mem_of_getElem? hr) with rfl | hmem
    · simp [SimBankAccount.record, SimBankAccount.model_dump, Dict.lookup_cons]
    · obtain ⟨f, hf, rfl⟩ := List.mem_map.mp hmem
      exact (h.flows f hf).ref_ne k
  · obtain ⟨k', rfl⟩ := Nat.exists_eq_add_of_le (not_lt.mp hfirst)
    rw [h.getElem?_bad, Option.map_eq_some_iff] at hr
    obtain ⟨d, hd, rfl⟩ := hr
    by_cases hdup : d.1 = "dup_source_hash"
    · obtain ⟨f, hf, hpayload⟩ := (h.defective hd).mem_good hdup
      rw [hpayload]
      exact (h.flows f hf).ref_ne k
    · rw [(h.defective hd).ref hdup]
      intro heq
      have hk : k' = k := badRef_injective (by simpa using heq)
      omega

theorem Firewalled.broken_own {k : ℕ} {d : String × Payload Empty} (hd : bad[k]? = some d)
    (hdup : d.1 ≠ "dup_source_hash") :
    firstIndex recordKey b.records ("cash_flow", d.2) = 1 + base_flows.toNat + k := by
  have hget : b.records[1 + base_flows.toNat + k]? = some ("cash_flow", d.2) := by
    rw [h.getElem?_bad, hd, Option.map_some]
  by_contra hne
  obtain ⟨j, hj, r, hr, hkey⟩ := (firstIndex_ne_iff hget).mp hne
  have hsame := (recordKey_eq_iff (h.typed r (List.mem_of_getElem? hr))
    (h.typed _ (List.mem_of_getElem? hget))).mp hkey
  exact h.ref_ne hj hr ((hsame "ref").trans ((h.defective hd).ref hdup))

theorem Firewalled.dup_good {k : ℕ} {d : String × Payload Empty} (hd : bad[k]? = some d)
    (hdup : d.1 = "dup_source_hash") : ∃ j, 1 ≤ j ∧ j < 1 + base_flows.toNat ∧
      b.records[j]? = some ("cash_flow", d.2) := by
  obtain ⟨f, hf, hpayload⟩ := (h.defective hd).mem_good hdup
  obtain ⟨j, hj⟩ := List.mem_iff_getElem?.mp hf
  have hlt : j < good.length := (List.getElem?_eq_some_iff.mp hj).1
  rw [h.length] at hlt
  refine ⟨j + 1, by omega, by omega, ?_⟩
  rw [h.getElem?_first (by omega), List.getElem?_cons_succ, List.getElem?_map, hj, hpayload]
  rfl

theorem Firewalled.good_records :
    (b.records.drop 1).take base_flows.toNat = good.map SimCashFlow.record := by
  rw [h.records_eq, List.cons_append, List.drop_succ_cons, List.drop_zero]
  exact List.take_left' (by rw [List.length_map, h.length])

variable (hgood : ((b.records.drop 1).take base_flows.toNat).Pairwise fun r r' =>
  ¬SamePayload r.2 r'.2)

include hgood

theorem Firewalled.first_own {i : ℕ} {r : SimRecord} (hi : i < 1 + base_flows.toNat)
    (hr : b.records[i]? = some r) : firstIndex recordKey b.records r = i := by
  have hfirst : (account.record :: good.map SimCashFlow.record).Pairwise fun r r' =>
      recordKey r ≠ recordKey r' := by
    rw [h.good_records] at hgood
    refine List.pairwise_cons.mpr ⟨?_, ?_⟩
    · intro r hr hkey
      obtain ⟨f, _, rfl⟩ := List.mem_map.mp hr
      exact absurd (congrArg Prod.fst hkey) (by simp [recordKey, SimBankAccount.record, SimCashFlow.record])
    · rw [List.pairwise_map] at hgood ⊢
      apply hgood.imp
      intro f f' hne hkey
      exact hne ((recordKey_eq_iff f.typed f'.typed).mp hkey)
  by_contra hne
  obtain ⟨j, hj, r', hr', hkey⟩ := (firstIndex_ne_iff hr).mp hne
  rw [h.getElem?_first hi] at hr
  rw [h.getElem?_first (hj.trans hi)] at hr'
  obtain ⟨hilt, rfl⟩ := List.getElem?_eq_some_iff.mp hr
  obtain ⟨hjlt, rfl⟩ := List.getElem?_eq_some_iff.mp hr'
  exact List.pairwise_iff_getElem.mp hfirst j i hjlt hilt hj hkey

/-- The records that repeat an earlier one are those labelled so. -/
theorem Firewalled.own_iff {i : ℕ} {r : SimRecord} (hr : b.records[i]? = some r) :
    firstIndex recordKey b.records r ≠ i ↔
      (labels (1 + base_flows.toNat) bad).lookup (toString i) = some "dup_source_hash" := by
  rw [lookup_labels]
  constructor
  · intro hne
    have hlast : ¬i < 1 + base_flows.toNat := fun hi => hne (h.first_own hgood hi hr)
    obtain ⟨k, rfl⟩ := Nat.exists_eq_add_of_le (not_lt.mp hlast)
    rw [h.getElem?_bad, Option.map_eq_some_iff] at hr
    obtain ⟨d, hd, rfl⟩ := hr
    exact ⟨k, d, rfl, hd, by_contra fun hdup => hne (h.broken_own hd hdup)⟩
  · rintro ⟨k, d, rfl, hd, hdup⟩
    obtain ⟨j, _, hj, hget⟩ := h.dup_good hd hdup
    rw [h.getElem?_bad, hd, Option.map_some] at hr
    cases hr
    exact (firstIndex_ne_iff (by rw [h.getElem?_bad, hd, Option.map_some])).mpr
      ⟨j, by omega, _, hget, rfl⟩

theorem Firewalled.countP_repeated :
    (b.records.zipIdx.countP fun item => firstIndex recordKey b.records item.1 ≠ item.2) =
      bad.countP fun d => d.1 = "dup_source_hash" := by
  have hfirst : ((account.record :: good.map SimCashFlow.record).zipIdx.countP fun item =>
      firstIndex recordKey b.records item.1 ≠ item.2) = 0 := by
    rw [List.countP_eq_zero]
    intro item hitem
    have hget := List.mem_zipIdx_iff_getElem?.mp hitem
    have hlt : item.2 < 1 + base_flows.toNat := by
      rw [← h.first_length]
      exact (List.getElem?_eq_some_iff.mp hget).1
    simpa using h.first_own hgood hlt ((h.getElem?_first hlt).trans hget)
  have hlast : (((bad.map fun d => ("cash_flow", d.2)).zipIdx (1 + base_flows.toNat)).countP fun item =>
      firstIndex recordKey b.records item.1 ≠ item.2) =
        (bad.zipIdx (1 + base_flows.toNat)).countP fun item => item.1.1 = "dup_source_hash" := by
    rw [List.zipIdx_map, List.countP_map]
    apply List.countP_congr
    rintro ⟨d, i⟩ hitem
    obtain ⟨hle, hd⟩ := List.mem_zipIdx_iff_le_and_getElem?_sub.mp hitem
    obtain ⟨k, rfl⟩ := Nat.exists_eq_add_of_le hle
    rw [Nat.add_sub_cancel_left] at hd
    have hget : b.records[1 + base_flows.toNat + k]? = some ("cash_flow", d.2) := by
      rw [h.getElem?_bad, hd, Option.map_some]
    have hiff : firstIndex recordKey b.records ("cash_flow", d.2) ≠ 1 + base_flows.toNat + k ↔
        d.1 = "dup_source_hash" := by
      constructor
      · intro hne
        by_contra hdup
        exact hne (h.broken_own hd hdup)
      · intro hdup
        obtain ⟨j, _, hj, hj'⟩ := h.dup_good hd hdup
        exact (firstIndex_ne_iff hget).mpr ⟨j, by omega, _, hj', rfl⟩
    simpa using hiff
  rw [h.records_eq, List.zipIdx_append, List.countP_append, ← h.records_eq, hfirst, Nat.zero_add,
    Nat.zero_add, h.first_length, hlast]
  conv_rhs => rw [← List.zipIdx_map_fst (1 + base_flows.toNat) bad, List.countP_map]
  rfl

end Records

/-- The manifest's counters and labels. -/
structure Manifest (ground_truth : Payload PyFloat) (expected_quarantined expected_duplicates : ℕ)
    (expected_bad : ℤ) (per_record_reason : Dict String String) : Prop where
  quarantined : ground_truth.lookup "expected_quarantined" = some (.int expected_quarantined)
  duplicates : ground_truth.lookup "expected_duplicates" = some (.int expected_duplicates)
  bad : ground_truth.lookup "expected_bad" = some (.int expected_bad)
  reason : ground_truth.lookup "per_record_reason" =
    some (.obj (per_record_reason.map fun label => (label.1, .str label.2)))

theorem manifest_shows (bad_count : ℤ) (acc : Progress) : Manifest (manifest bad_count acc)
    acc.expected_quarantined acc.expected_duplicates bad_count acc.per_record_reason := by
  constructor <;> simp [manifest, Dict.lookup_cons]

/-- Deduplication by source hash sees what the manifest says. -/
structure Predicts (ctx : RunContext) (base_flows expected_quarantined expected_duplicates : ℕ)
    (per_record_reason : Dict String String) (built : List (CanonicalRecord Empty)) : Prop where
  distinct : (built.map fun cr => cr.source_metadata.source_hash).dedup.length =
    1 + base_flows + expected_quarantined
  relabelled : ∀ (i : ℕ) cr, built[i]? = some cr →
    (cr.source_metadata.source_message_id ≠ ctx.message_id i ↔
      per_record_reason.lookup (toString i) = some "dup_source_hash")
  count : (built.zipIdx.countP fun item =>
    item.1.source_metadata.source_message_id ≠ ctx.message_id item.2) = expected_duplicates
  repeated : ∀ (i : ℕ) cr, built[i]? = some cr →
    cr.source_metadata.source_message_id ≠ ctx.message_id i →
      ∃ j good, j < i ∧ 1 ≤ j ∧ j ≤ base_flows ∧ built[j]? = some good ∧
        good.source_metadata.source_hash = cr.source_metadata.source_hash ∧
          good.source_metadata.source_message_id = cr.source_metadata.source_message_id
  length : 1 + base_flows ≤ built.length
  keys : per_record_reason.keys =
    (List.range' (1 + base_flows) (built.length - (1 + base_flows))).map fun i => toString i

theorem bad_count_nonneg {rt : PyRuntime} {params p : Params} {base_flows bad_count : ℤ}
    {ratio : PyFloat} (hp : coerce_params rt.fmt (param_schema rt) params = .ok p)
    (hbase : paramInt p "base_flows" = .ok base_flows) (hratio : paramFloat p "bad_ratio" = .ok ratio)
    (hcount : pyRound (.mul rt.fmt (.num base_flows) ratio) = .ok bad_count) : 0 ≤ bad_count := by
  obtain ⟨hlo, hhi⟩ := paramInt_bounds (schema_nodup rt) (schema_wellFormed rt) hp
    (List.mem_cons_self ..) hbase
  have hzero : (rt.lit 0).val? = some 0 := by rw [lit_zero]; simp
  have hone : (rt.lit 1).val? = some 1 := by rw [lit_one]; simp
  have hspec : .float "bad_ratio" (rt.lit (3 / 10)) (rt.lit 0) (rt.lit 1) ∈ param_schema rt := by
    simp [param_schema]
  rcases paramFloat_cases (schema_nodup rt) (schema_wellFormed rt) hp hspec hzero hone hratio
    with ⟨q, hq, hq0, hq1, _⟩ | ⟨rfl, _⟩
  · have hnonneg : (0 : ℚ) ≤ base_flows := by exact_mod_cast (by omega : 0 ≤ base_flows)
    have hprod : |(base_flows : ℚ) * q| ≤ (2000 : ℕ) := by
      have hbound : (base_flows : ℚ) ≤ 2000 := by exact_mod_cast hhi
      rw [abs_of_nonneg (mul_nonneg hnonneg hq0)]
      push_cast
      nlinarith
    have hval : (PyFloat.mul rt.fmt (.num base_flows) ratio).val? =
        some (rt.fmt.rnd (base_flows * q)) := by
      rw [PyFloat.mul, PyFloat.val?_num, hq]
      exact PyFloat.val?_ofSigned (rt.fmt.overflows_eq_false_of_le hprod (by norm_num))
    exact pyRound_nonneg hval (rt.fmt.rnd_nonneg (mul_nonneg hnonneg hq0)) hcount
  · rw [PyFloat.mul_nan_right] at hcount
    cases hcount

theorem Injected.quarantined_add_duplicates {first : List SimRecord} {good_payloads : List (Payload Empty)}
    {ks : List ℕ} {bad : List (String × Payload Empty)} {acc : Progress}
    (h : Injected first good_payloads ks bad acc) :
    acc.expected_quarantined + acc.expected_duplicates = bad.length := by
  have hsplit := List.length_eq_countP_add_countP (l := bad)
    (fun d => decide (d.1 = "dup_source_hash"))
  rw [h.quarantined, h.duplicates, hsplit, Nat.add_comm]
  simp

theorem Firewalled.predicts {rt : PyRuntime} {p : Params} {base_flows bad_count : ℤ}
    {account : SimBankAccount} {good : List SimCashFlow} {bad : List (String × Payload Empty)}
    {acc : Progress} {b : GeneratedBatch}
    (h : Firewalled rt p base_flows bad_count account good bad acc b)
    (hgood : ((b.records.drop 1).take base_flows.toNat).Pairwise fun r r' => ¬SamePayload r.2 r'.2)
    (hinj : Set.InjOn source_hash (hashedBytes b)) (ctx : RunContext) (fresh : ℕ → Fresh) :
    Predicts ctx base_flows.toNat acc.expected_quarantined acc.expected_duplicates
      acc.per_record_reason (b.records.zipIdx.map (builtRecord ctx fresh b)) := by
  have hknown : ∀ r ∈ b.records, r.1 ∈ SIM_RECORD_TYPES := fun r hr => (h.typed r hr).known_type
  have hlength : b.records.length = 1 + base_flows.toNat + bad.length := by
    rw [h.records_eq, List.length_append, h.first_length, List.length_map]
  have hreason : acc.per_record_reason = labels (1 + base_flows.toNat) bad := by
    rw [h.injected.reason, h.first_length]
  have hrepeated := h.countP_repeated hgood
  constructor
  · have hsplit := List.length_eq_countP_add_countP (l := b.records.zipIdx)
      (fun item => decide (firstIndex recordKey b.records item.1 = item.2))
    have hmanifest := h.injected.quarantined_add_duplicates
    simp only [decide_eq_true_eq, List.length_zipIdx] at hsplit
    rw [length_dedup_hashes h.typed hinj]
    simp only [ne_eq, h.injected.duplicates.symm] at hrepeated
    omega
  · intro i cr hcr
    obtain ⟨r, hr, rfl⟩ := build_ok_getElem? hknown (build_canonical_records_eq hknown) hcr
    rw [builtRecord_message_id, (message_id_injective ctx).ne_iff, hreason]
    exact h.own_iff hgood hr
  · rw [countP_message_id, hrepeated, h.injected.duplicates]
  · intro i cr hcr hne
    obtain ⟨r, hr, rfl⟩ := build_ok_getElem? hknown (build_canonical_records_eq hknown) hcr
    rw [builtRecord_message_id, (message_id_injective ctx).ne_iff, h.own_iff hgood hr,
      lookup_labels] at hne
    obtain ⟨k, d, rfl, hd, hdup⟩ := hne
    obtain ⟨j, hj, hlt, hget⟩ := h.dup_good hd hdup
    rw [h.getElem?_bad, hd, Option.map_some] at hr
    cases hr
    exact ⟨j, _, by omega, hj, by omega, getElem?_built hget, rfl, rfl⟩
  · simp [hlength]
  · rw [hreason, keys_labels]
    simp [hlength]

/-- The manifest of a firewall batch with distinct good payloads predicts deduplication. -/
theorem manifest_predicts {rt : PyRuntime} {params p : Params} {seed base_flows : ℤ}
    {target_label : String} {today : Date} {b : GeneratedBatch} {ratio : PyFloat}
    (hp : coerce_params rt.fmt (param_schema rt) params = .ok p)
    (hbase : paramInt p "base_flows" = .ok base_flows) (hratio : paramFloat p "bad_ratio" = .ok ratio)
    (hb : generate rt params seed target_label today = .ok b)
    (hgood : ((b.records.drop 1).take base_flows.toNat).Pairwise fun r r' => ¬SamePayload r.2 r'.2)
    (hinj : Set.InjOn source_hash (hashedBytes b)) (ctx : RunContext) (fresh : ℕ → Fresh) :
    ∃ built expected_quarantined expected_duplicates expected_bad per_record_reason,
      build_canonical_records ctx fresh b = .ok built ∧
        Manifest b.ground_truth expected_quarantined expected_duplicates expected_bad
          per_record_reason ∧
        Predicts ctx base_flows.toNat expected_quarantined expected_duplicates per_record_reason built ∧
        (expected_quarantined + expected_duplicates : ℤ) = expected_bad ∧
        pyRound (.mul rt.fmt (.num base_flows) ratio) = .ok expected_bad := by
  obtain ⟨p', hp', base_flows', bad_count, account, good, bad, acc, h⟩ := generate_firewalled hb
  rw [hp] at hp'
  cases hp'
  cases hbase.symm.trans h.base
  obtain ⟨ratio', hratio', hcount⟩ := h.count
  cases hratio.symm.trans hratio'
  have hknown : ∀ r ∈ b.records, r.1 ∈ SIM_RECORD_TYPES := fun r hr => (h.typed r hr).known_type
  have hnonneg := bad_count_nonneg hp hbase hratio hcount
  have htotal : acc.expected_quarantined + acc.expected_duplicates = bad_count.toNat := by
    rw [h.injected.quarantined_add_duplicates, ← h.injected.defective.length_eq, List.length_range]
  refine ⟨_, _, _, bad_count, _, build_canonical_records_eq hknown, h.truth ▸ manifest_shows bad_count acc,
    h.predicts hgood hinj ctx fresh, by omega, hcount⟩

def twoDefects : Params := [("base_flows", .int 2), ("bad_ratio", .int 1),
  ("defect_types", .arr [.str "missing_field", .str "dup_source_hash"])]

def twoDefectsBatch : GeneratedBatch :=
  (generate turningDraws twoDefects 42 "Société" newYear).toOption.getD ⟨[], [], "json"⟩

def twoDefectsParams : Params :=
  (coerce_params turningDraws.fmt (param_schema turningDraws) twoDefects).toOption.getD []

theorem twoDefects_coerced :
    coerce_params turningDraws.fmt (param_schema turningDraws) twoDefects = .ok twoDefectsParams ∧
      paramInt twoDefectsParams "base_flows" = .ok 2 ∧ paramFloat twoDefectsParams "bad_ratio" = .ok (.num 1) :=
  ⟨Raising.eq_ok_getD (by decide +kernel) [], Raising.eq_ok_of_toOption (by decide +kernel),
    Raising.eq_ok_of_toOption (by decide +kernel)⟩

theorem twoDefects_generated : generate turningDraws twoDefects 42 "Société" newYear = .ok twoDefectsBatch :=
  Raising.eq_ok_getD (by decide +kernel) _

theorem twoDefects_injOn : Set.InjOn source_hash (hashedBytes twoDefectsBatch) := by
  have hdecided : ∀ r ∈ twoDefectsBatch.records, ∀ r' ∈ twoDefectsBatch.records,
      source_hash (canonical_payload_bytes r.2) = source_hash (canonical_payload_bytes r'.2) →
        canonical_payload_bytes r.2 = canonical_payload_bytes r'.2 := by
    decide +kernel
  rintro _ ⟨r, hr, rfl⟩ _ ⟨r', hr', rfl⟩ h
  exact hdecided r hr r' hr' h

theorem twoDefects_distinct : ((twoDefectsBatch.records.drop 1).take (2 : ℤ).toNat).Pairwise
    fun r r' => ¬SamePayload r.2 r'.2 := by
  have htexts : (((twoDefectsBatch.records.drop 1).take (2 : ℤ).toNat).map
      fun r => canonical_payload_bytes r.2).Nodup := by
    decide +kernel
  have hgen : generator turningDraws ∈ generators turningDraws := List.mem_cons_self
  refine (List.pairwise_map.mp htexts).imp_of_mem ?_
  intro r r' hr hr' hne hsame
  have htyped : ∀ x ∈ (twoDefectsBatch.records.drop 1).take (2 : ℤ).toNat, Typed x := fun x hx =>
    preset_typed hgen twoDefects_generated x (List.mem_of_mem_drop (List.mem_of_mem_take hx))
  exact hne ((bytes_eq_iff (htyped r hr) (htyped r' hr')).mpr hsame)

theorem twoDefects_predicted : ∃ built expected_quarantined expected_duplicates per_record_reason,
    build_canonical_records (manualRequest []).context leastService.fresh twoDefectsBatch = .ok built ∧
      Predicts (manualRequest []).context 2 expected_quarantined expected_duplicates per_record_reason
        built ∧ (expected_quarantined + expected_duplicates : ℤ) = 2 := by
  obtain ⟨hp, hbase, hratio⟩ := twoDefects_coerced
  obtain ⟨built, quarantined, duplicates, bad, reason, hbuilt, _, hpredicts, htotal, hround⟩ :=
    manifest_predicts hp hbase hratio twoDefects_generated twoDefects_distinct twoDefects_injOn
      (manualRequest []).context leastService.fresh
  have htwo : pyRound (.mul turningDraws.fmt (.num (2 : ℤ)) (.num 1)) = .ok 2 :=
    Raising.eq_ok_of_toOption (by decide +kernel)
  cases htwo.symm.trans hround
  exact ⟨built, quarantined, duplicates, reason, hbuilt, hpredicts, htotal⟩

end ConnectFirewall
end AtlasConnectors
