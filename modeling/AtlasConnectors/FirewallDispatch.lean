import AtlasConnectors.EnrichedTree
import AtlasConnectors.FirewallReplay
import AtlasConnectors.PresetListing
import AtlasConnectors.Retry

/-! The firewall preset dispatched to a Core that quarantines and deduplicates: the answer's counts
and what Core keeps are those of the manifest. -/
namespace AtlasConnectors

section Core

variable {poison : CanonicalRecordType → Payload Empty → Bool}

theorem deliver_uncut (records : List (CanonicalRecord Empty)) (s : CoreState) :
    Delivery.deliver (pushToCore poison none) PyExc.isPoisonRecordError records s =
      (⟨records, records.countP fun cr => !poison cr.record_type cr.payload,
        records.countP fun cr => poison cr.record_type cr.payload, none⟩,
        ⟨s.store.fill (kept poison records), s.posts + records.length⟩) := by
  induction records generalizing s with
  | nil => rfl
  | cons record records ih =>
    have hpush : pushToCore poison none record s = Delivery.respond (coreAnswer poison record).failure
        ⟨s.store.fill (kept poison [record]), s.posts + 1⟩ := by
      rw [pushToCore, Option.filter_none, receive_eq_fill]
    rw [kept_cons, Dict.fill_append, List.length_cons, Nat.add_comm records.length, ← Nat.add_assoc]
    cases hpoison : poison record.record_type record.payload with
    | true =>
      rw [coreAnswer, if_pos hpoison] at hpush
      rw [Delivery.deliver_reject hpush rfl, ih]
      simp [Delivery.Report.reject, hpoison]
    | false =>
      rw [coreAnswer, hpoison] at hpush
      rw [Delivery.deliver_accept hpush, ih]
      simp [Delivery.Report.accept, hpoison]

end Core

namespace ConnectFirewall

variable {rt : PyRuntime} {p : Params} {base_flows bad_count : ℤ} {account : SimBankAccount}
  {good : List SimCashFlow} {bad : List (String × Payload Empty)} {acc : Progress} {b : GeneratedBatch}

/-- Core refuses the records that the manifest labels as defects other than duplicates. -/
def Quarantines (poison : CanonicalRecordType → Payload Empty → Bool) (b : GeneratedBatch) : Prop :=
  ∀ (i : ℕ) r, b.records[i]? = some r →
    (poison (simType r.1) r.2 = true ↔ ∃ defect, reasonAt b i = some defect ∧ defect ≠ "dup_source_hash")

/-- What the answer and the store show: the manifest's counts, and the account and the good flows
as what is new in the store. -/
structure Shows (base_flows : ℕ) (built : List (CanonicalRecord Empty)) (report : EmitReport)
    (ground_truth : Payload PyFloat) (before after : CoreStore) : Prop where
  kept : after = before ++ (built.take (1 + base_flows)).map entry
  stored : after.length = before.length + (1 + base_flows)
  quarantined : ground_truth.lookup "expected_quarantined" = some (.int report.rejected)
  duplicates : ground_truth.lookup "expected_duplicates" =
    some (.int (report.emitted - (after.length - before.length)))

/-- What Core keeps of a record of a batch: nothing that one run draws for itself. -/
def contents (ctx : RunContext) (b : GeneratedBatch) (r : SimRecord) : (UUID × String) × Stored :=
  ((ctx.tenant_id, source_hash (canonical_payload_bytes r.2)),
    ⟨ctx.message_id (firstIndex recordKey b.records r), simType r.1, r.2⟩)

theorem entry_built (ctx : RunContext) (fresh : ℕ → Fresh) (b : GeneratedBatch) :
    (b.records.zipIdx.map (builtRecord ctx fresh b)).map entry = b.records.map (contents ctx b) := by
  conv_rhs => rw [← List.zipIdx_map_fst 0 b.records, List.map_map]
  rw [List.map_map]
  rfl

theorem kept_built (poison : CanonicalRecordType → Payload Empty → Bool) (ctx : RunContext)
    (fresh : ℕ → Fresh) (b : GeneratedBatch) :
    kept poison (b.records.zipIdx.map (builtRecord ctx fresh b)) =
      (b.records.filter fun r => !poison (simType r.1) r.2).map (contents ctx b) := by
  conv_rhs => rw [← List.zipIdx_map_fst 0 b.records, List.filter_map, List.map_map]
  rw [kept, List.filter_map, List.map_map]
  rfl

theorem countP_built (test : CanonicalRecordType → Payload Empty → Bool) (ctx : RunContext)
    (fresh : ℕ → Fresh) (b : GeneratedBatch) :
    ((b.records.zipIdx.map (builtRecord ctx fresh b)).countP fun cr => test cr.record_type cr.payload) =
      b.records.countP fun r => test (simType r.1) r.2 := by
  conv_rhs => rw [← List.zipIdx_map_fst 0 b.records, List.countP_map]
  rw [List.countP_map]
  rfl

section Batch

variable (h : Firewalled rt p base_flows bad_count account good bad acc b)

include h

theorem Firewalled.reasonAt_eq (i : ℕ) :
    reasonAt b i = (labels (1 + base_flows.toNat) bad).lookup (toString i) := by
  have hmap := Dict.lookup_map (fun s => (.str s : Json PyFloat)) acc.per_record_reason (toString i)
  simp only [reasonAt, h.truth, (manifest_shows bad_count acc).reason, hmap]
  rw [h.injected.reason, h.first_length]
  cases (labels (1 + base_flows.toNat) bad).lookup (toString i) <;> rfl

theorem Firewalled.length_records : b.records.length = 1 + base_flows.toNat + bad.length := by
  rw [h.records_eq, List.length_append, h.first_length, List.length_map]

variable {poison : CanonicalRecordType → Payload Empty → Bool} (hcore : Quarantines poison b)

include hcore

theorem Firewalled.first_taken {r : SimRecord} (hr : r ∈ account.record :: good.map SimCashFlow.record) :
    poison (simType r.1) r.2 = false := by
  obtain ⟨i, hi⟩ := List.mem_iff_getElem?.mp hr
  have hlt : i < 1 + base_flows.toNat := by
    rw [← h.first_length]
    exact (List.getElem?_eq_some_iff.mp hi).1
  rw [← Bool.not_eq_true, hcore i r ((h.getElem?_first hlt).trans hi), h.reasonAt_eq]
  rintro ⟨defect, hlabel, _⟩
  obtain ⟨k, _, hk, _, _⟩ := lookup_labels.mp hlabel
  omega

theorem Firewalled.bad_taken {d : String × Payload Empty} (hd : d ∈ bad) :
    poison (simType "cash_flow") d.2 = true ↔ d.1 ≠ "dup_source_hash" := by
  obtain ⟨k, hk⟩ := List.mem_iff_getElem?.mp hd
  have hget : b.records[1 + base_flows.toNat + k]? = some ("cash_flow", d.2) := by
    rw [h.getElem?_bad, hk, Option.map_some]
  have hlabel : reasonAt b (1 + base_flows.toNat + k) = some d.1 := by
    rw [h.reasonAt_eq]
    exact lookup_labels.mpr ⟨k, d, rfl, hk, rfl⟩
  have hiff := hcore _ _ hget
  rw [hlabel] at hiff
  refine hiff.trans ⟨?_, fun hdup => ⟨d.1, rfl, hdup⟩⟩
  rintro ⟨defect, heq, hdup⟩
  rwa [Option.some.inj heq]

theorem Firewalled.rejected : (b.records.countP fun r => poison (simType r.1) r.2) =
    acc.expected_quarantined := by
  have hfirst : ((account.record :: good.map SimCashFlow.record).countP fun r => poison (simType r.1) r.2) = 0 := by
    rw [List.countP_eq_zero]
    intro r hr
    rw [h.first_taken hcore hr]
    exact Bool.false_ne_true
  rw [h.records_eq, List.countP_append, hfirst, Nat.zero_add, List.countP_map, h.injected.quarantined]
  apply List.countP_congr
  intro d hd
  simpa using h.bad_taken hcore hd

theorem Firewalled.emitted : (b.records.countP fun r => !poison (simType r.1) r.2) =
    1 + base_flows.toNat + acc.expected_duplicates := by
  have hsplit := List.length_eq_countP_add_countP (l := b.records) fun r => poison (simType r.1) r.2
  have hlength := h.length_records
  have hmanifest := h.injected.quarantined_add_duplicates
  rw [h.rejected hcore] at hsplit
  simp only [Bool.not_eq_true, Bool.decide_eq_false] at hsplit
  omega

variable (ctx : RunContext) {store : CoreStore}

theorem Firewalled.repeated_keys {r : SimRecord}
    (hr : r ∈ (bad.map fun d => ("cash_flow", d.2)).filter fun r => !poison (simType r.1) r.2) :
    (contents ctx b r).1 ∈
      Dict.keys ((account.record :: good.map SimCashFlow.record).map (contents ctx b)) := by
  obtain ⟨hmem, htaken⟩ := List.mem_filter.mp hr
  obtain ⟨d, hd, rfl⟩ := List.mem_map.mp hmem
  have hdup : d.1 = "dup_source_hash" := by
    by_contra hne
    rw [(h.bad_taken hcore hd).mpr hne] at htaken
    cases htaken
  obtain ⟨k, hk⟩ := List.mem_iff_getElem?.mp hd
  obtain ⟨f, hf, hpayload⟩ := (h.defective hk).mem_good hdup
  have hsource : contents ctx b f.record ∈
      (account.record :: good.map SimCashFlow.record).map (contents ctx b) :=
    List.mem_map_of_mem (List.mem_cons_of_mem _ (List.mem_map_of_mem hf))
  have hkey : (contents ctx b ("cash_flow", d.2)).1 = (contents ctx b f.record).1 := by
    rw [hpayload]
    rfl
  rw [hkey]
  exact List.mem_map_of_mem hsource

omit hcore

variable (hgood : ((b.records.drop 1).take base_flows.toNat).Pairwise fun r r' => ¬SamePayload r.2 r'.2)
  (hinj : Set.InjOn source_hash (hashedBytes b))

include hgood hinj

theorem Firewalled.first_keys :
    (Dict.keys ((account.record :: good.map SimCashFlow.record).map (contents ctx b))).Nodup := by
  rw [List.nodup_iff_getElem?_ne_getElem?]
  intro i j hij hj heq
  rw [Dict.keys, List.length_map, List.length_map, h.first_length] at hj
  rw [Dict.keys, List.map_map, List.getElem?_map, List.getElem?_map, ← h.getElem?_first (hij.trans hj),
    ← h.getElem?_first hj] at heq
  have hlength := h.length_records
  obtain ⟨r, hr⟩ : ∃ r, b.records[i]? = some r := ⟨_, List.getElem?_eq_getElem (by omega)⟩
  obtain ⟨r', hr'⟩ : ∃ r', b.records[j]? = some r' := ⟨_, List.getElem?_eq_getElem (by omega)⟩
  have hmem := List.mem_of_getElem? hr
  have hmem' := List.mem_of_getElem? hr'
  rw [hr, hr', Option.map_some, Option.map_some] at heq
  have hhash : source_hash (canonical_payload_bytes r.2) = source_hash (canonical_payload_bytes r'.2) :=
    congrArg Prod.snd (Option.some.inj heq)
  have hkey : recordKey r = recordKey r' :=
    (recordKey_eq_iff (h.typed r hmem) (h.typed r' hmem')).mpr
      ((bytes_eq_iff (h.typed r hmem) (h.typed r' hmem')).mp (hinj ⟨r, hmem, rfl⟩ ⟨r', hmem', rfl⟩ hhash))
  have hfirst := h.first_own hgood hj hr'
  have hle : firstIndex recordKey b.records r' ≤ i := firstIndex_le hr hkey
  omega

include hcore

/-- A store without the batch's records gets the account and the good flows, in order. -/
theorem Firewalled.fill_kept (fresh : ℕ → Fresh)
    (hnew : ∀ r ∈ b.records, (contents ctx b r).1 ∉ store.keys) :
    store.fill (kept poison (b.records.zipIdx.map (builtRecord ctx fresh b))) =
      store ++ ((b.records.zipIdx.map (builtRecord ctx fresh b)).take (1 + base_flows.toNat)).map entry := by
  have htake : ((b.records.zipIdx.map (builtRecord ctx fresh b)).take (1 + base_flows.toNat)).map entry =
      (account.record :: good.map SimCashFlow.record).map (contents ctx b) := by
    rw [List.map_take, entry_built, ← List.map_take, ← h.first_length, h.records_eq, List.take_left]
  have hfilter : (account.record :: good.map SimCashFlow.record).filter
      (fun r => !poison (simType r.1) r.2) = account.record :: good.map SimCashFlow.record := by
    apply List.filter_eq_self.mpr
    intro r hr
    rw [h.first_taken hcore hr]
    rfl
  have hfirst : store.fill ((account.record :: good.map SimCashFlow.record).map (contents ctx b)) =
      store ++ (account.record :: good.map SimCashFlow.record).map (contents ctx b) := by
    apply Dict.fill_of_new (h.first_keys ctx hgood hinj)
    intro q hq
    obtain ⟨r, hr, rfl⟩ := List.mem_map.mp hq
    exact hnew r (h.records_eq ▸ List.mem_append_left _ hr)
  rw [htake, kept_built]
  conv_lhs => rw [h.records_eq, List.filter_append, hfilter, List.map_append, Dict.fill_append, hfirst]
  apply Dict.fill_of_keys
  intro q hq
  obtain ⟨r, hr, rfl⟩ := List.mem_map.mp hq
  rw [Dict.keys, List.map_append, List.mem_append]
  exact Or.inr (h.repeated_keys hcore ctx hr)

end Batch

/-- A firewall dispatch to a Core that refuses what the manifest labels as broken shows the
manifest's counts, and adds the account and the good flows to what Core keeps. -/
theorem firewall_shows {parsers : DateParsers} {today : Date} {fresh : ℕ → Fresh} {settings : SimSettings}
    {request : DispatchRequest} {poison : CanonicalRecordType → Payload Empty → Bool}
    (hadm : Admitted (SimService.standard rt parsers today fresh) settings request b)
    (hbinding : publisherBinding settings ≠ none) (hmode : request.mode = .auto)
    (hpreset : request.preset_id = some "connect.firewall.v1")
    (hp : coerce_params rt.fmt (param_schema rt) request.params = .ok p)
    (hbase : paramInt p "base_flows" = .ok base_flows)
    (hgood : ((b.records.drop 1).take base_flows.toNat).Pairwise fun r r' => ¬SamePayload r.2 r'.2)
    (hinj : Set.InjOn source_hash (hashedBytes b)) (hcore : Quarantines poison b) (own : ℕ → Fresh)
    {store : CoreStore} (hnew : ∀ r ∈ b.records,
      (request.tenant_id, source_hash (canonical_payload_bytes r.2)) ∉ store.keys) :
    ∃ report ground_truth after posts,
      attemptRun rt parsers today settings request poison ⟨own, none⟩ store =
          .ok (.emitted report ground_truth) ⟨after, posts⟩ ∧
        Shows base_flows.toNat (builtIn request b ⟨own, none⟩) report ground_truth store after := by
  have hb : generate rt request.params request.seed request.target_label today = .ok b := by
    have hrequested := hadm.requested
    rw [requestedBatch, if_pos hmode] at hrequested
    have hgen : generator rt ∈ generators rt := by simp [generators]
    rwa [generate_auto_registered rfl hgen hpreset] at hrequested
  obtain ⟨p', hp', base_flows', bad_count, account, good, bad, acc, h⟩ := generate_firewalled hb
  rw [hp] at hp'
  cases hp'
  cases hbase.symm.trans h.base
  have hstore := h.fill_kept hcore request.context hgood hinj own hnew
  have hrejected := (countP_built poison request.context own b).trans (h.rejected hcore)
  have hemitted := (countP_built (fun t payload => !poison t payload) request.context own b).trans
    (h.emitted hcore)
  have hgrown : (store ++ ((b.records.zipIdx.map (builtRecord request.context own b)).take
      (1 + base_flows.toNat)).map entry).length = store.length + (1 + base_flows.toNat) := by
    have hlength := h.length_records
    rw [List.length_append, List.length_map, List.length_take, List.length_map, List.length_zipIdx]
    omega
  rw [attemptRun_eq hadm hbinding, deliver_uncut, finished]
  refine ⟨_, _, _, _, rfl, ?_⟩
  dsimp only [builtIn]
  rw [hstore, hrejected, hemitted, h.truth]
  exact {
    kept := rfl
    stored := hgrown
    quarantined := lookup_enriched (by decide) (by decide)
    duplicates := by
      have hcount : ((1 + base_flows.toNat + acc.expected_duplicates : ℕ) : ℤ) -
          ((store ++ ((b.records.zipIdx.map (builtRecord request.context own b)).take
            (1 + base_flows.toNat)).map entry).length - store.length) = acc.expected_duplicates := by
        rw [hgrown]
        push_cast
        ring
      rw [hcount]
      exact lookup_enriched (by decide) (by decide) }

def twoDefectsRequest : DispatchRequest := autoRequest "connect.firewall.v1" twoDefects

def requireCurrency (_ : CanonicalRecordType) (payload : Payload Empty) : Bool :=
  (payload.lookup "currency").isNone

theorem twoDefects_admitted : Admitted (SimService.standard turningDraws refuseDates newYear fun _ => someFresh)
    openSettings twoDefectsRequest twoDefectsBatch where
  gate := rfl
  requested := twoDefects_generated
  cap := by decide +kernel
  real := rfl

theorem twoDefects_quarantined : Quarantines requireCurrency twoDefectsBatch := by
  have hall : (twoDefectsBatch.records.zipIdx.all fun item =>
      requireCurrency (simType item.1.1) item.1.2 ==
        (reasonAt twoDefectsBatch item.2).any (· ≠ "dup_source_hash")) = true := by decide +kernel
  intro i r hr
  have hitem := List.all_eq_true.mp hall (r, i) (List.mem_zipIdx_iff_getElem?.mpr hr)
  rw [eq_of_beq hitem]
  cases reasonAt twoDefectsBatch i <;> simp

theorem twoDefects_shown : ∃ report ground_truth after posts,
    attemptRun turningDraws refuseDates newYear openSettings twoDefectsRequest requireCurrency
        ⟨fun _ => someFresh, none⟩ [] = .ok (.emitted report ground_truth) ⟨after, posts⟩ ∧
      Shows 2 (builtIn twoDefectsRequest twoDefectsBatch ⟨fun _ => someFresh, none⟩) report ground_truth [] after := by
  obtain ⟨hp, hbase, _⟩ := twoDefects_coerced
  exact firewall_shows twoDefects_admitted (by decide) rfl rfl hp hbase twoDefects_distinct twoDefects_injOn
    twoDefects_quarantined _ (by simp [Dict.keys])

end ConnectFirewall
end AtlasConnectors
