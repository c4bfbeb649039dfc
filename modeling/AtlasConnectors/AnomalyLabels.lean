import AtlasConnectors.AnomalyBatch
import AtlasConnectors.ConsistentBatch
import AtlasConnectors.ExactArithmetic
import AtlasConnectors.IsoText
import AtlasConnectors.PresetManifest

/-! The labels of the anomaly preset against its records: which records they name, and what is
unusual about these. -/
namespace AtlasConnectors
namespace FinhubAnomaly

open Raising NumberText

def indexOf? : Json PyFloat → Option ℕ
  | .int (.ofNat k) => some k
  | _ => none

def indicesOf (label : Payload PyFloat) : Option (List ℕ) :=
  match label.lookup "record_index", label.lookup "record_indices" with
  | some index, none => (indexOf? index).map fun k => [k]
  | none, some (.arr indices) => indices.mapM indexOf?
  | _, _ => none

def amountOf (r : SimRecord) : Option ℚ := (textAt "amount" r.2).bind decimalValue

/-- Booked before nine or from eighteen on. -/
def OutsideHours (r : SimRecord) : Prop :=
  ∃ text, textAt "booked_at" r.2 = some text ∧ (DateTime.isoHour text < 9 ∨ 17 < DateTime.isoHour text)

/-- Five flows of one transfer. -/
structure Structured (flows : List SimRecord) : Prop where
  length : flows.length = 5
  record_type : ∀ flow ∈ flows, flow.1 = "cash_flow"
  amount : ∀ flow ∈ flows, textAt "amount" flow.2 = some "-9500.00"
  counterparty : ∃ name, ∀ flow ∈ flows, textAt "counterparty" flow.2 = some name
  value_date : ∃ day, ∀ flow ∈ flows, textAt "value_date" flow.2 = some day
  booked_at : ∃ times : List String, flows.map (fun flow => textAt "booked_at" flow.2) = times.map some ∧
    times.Nodup

/-- The records differ in their booking time, and in nothing else. -/
structure Rebooked (original copy : SimRecord) : Prop where
  record_type : copy.1 = original.1
  members : ∀ key, key ≠ "booked_at" → copy.2.lookup key = original.2.lookup key
  booked_at : textAt "booked_at" copy.2 ≠ textAt "booked_at" original.2

/-- More than eleven times each baseline amount of its counterparty. -/
def Outlying (base_flows : ℕ) (records : List SimRecord) (r : SimRecord) : Prop :=
  ∃ x, amountOf r = some x ∧ ∀ i flow, 1 ≤ i → i ≤ base_flows → records[i]? = some flow →
    textAt "counterparty" flow.2 = textAt "counterparty" r.2 → ∃ y, amountOf flow = some y ∧ 11 * |y| < |x|

/-- A label of the manifest, true of the records. Binary floats round each product, so amounts are
compared in exact arithmetic. -/
inductive TrueLabel (rt : PyRuntime) (base_flows : ℕ) (records : List SimRecord) (label : Payload PyFloat) : Prop
  | structuring (indices : List ℕ) (flows : List SimRecord) (htype : stringAt "type" label = some "structuring")
      (hindices : indicesOf label = some indices)
      (hflows : indices.map (fun i => records[i]?) = flows.map some) (h : Structured flows)
  | duplicate (index source : ℕ) (original copy : SimRecord) (htype : stringAt "type" label = some "duplicate")
      (hindex : indicesOf label = some [index]) (hcopy : records[index]? = some copy) (hfirst : 1 ≤ source)
      (hlast : source ≤ base_flows) (horiginal : records[source]? = some original) (h : Rebooked original copy)
  | amount_outlier (index : ℕ) (r : SimRecord) (htype : stringAt "type" label = some "amount_outlier")
      (hindex : indicesOf label = some [index]) (hr : records[index]? = some r)
      (h : rt.fmt = FloatFormat.exact → Outlying base_flows records r)
  | off_hours (index : ℕ) (r : SimRecord) (htype : stringAt "type" label = some "off_hours")
      (hindex : indicesOf label = some [index]) (hr : records[index]? = some r) (h : OutsideHours r)

/-- The labels name the records after the baseline, each once, and say what these are. -/
structure ExactLabels (rt : PyRuntime) (base_flows anomaly_count : ℕ) (anomaly_types : List String)
    (labels : List (Payload PyFloat)) (b : GeneratedBatch) : Prop where
  listed : b.ground_truth.lookup "injected_anomalies" = some (.arr (labels.map .obj))
  count : labels.length = anomaly_count
  types : ∀ k label, labels[k]? = some label → ∃ type, anomaly_types[k % anomaly_types.length]? = some type ∧
    stringAt "type" label = some type
  cover : ∃ indices : List (List ℕ), labels.map indicesOf = indices.map some ∧
    indices.flatten = List.range' (1 + base_flows) (b.records.length - (1 + base_flows))
  true_labels : ∀ label ∈ labels, TrueLabel rt base_flows b.records label
  off_hours : ∀ (i : ℕ) r, b.records[i]? = some r → (OutsideHours r ↔ ∃ label ∈ labels, ∃ indices,
    stringAt "type" label = some "off_hours" ∧ indicesOf label = some indices ∧ i ∈ indices)

variable {rt : PyRuntime} {params p : Params} {target_label : String} {today : Date}
  {base_flows anomaly_count : ℤ} {anomaly_types : List String} {account : SimBankAccount}
  {medians : Dict String PyFloat} {baseline : List SimCashFlow} {groups : List Group} {group : Group}
  {k : ℕ} {f : SimCashFlow} {b : GeneratedBatch}

def Group.members (group : Group) : Payload PyFloat :=
  if group.kind = "structuring" then
    [("type", .str group.kind), ("record_indices", .arr (group.indices.map fun k => .int (k : ℕ)))]
  else [("type", .str group.kind), ("record_index", .int group.start)]

theorem Group.label_eq (group : Group) : group.label = .obj group.members := by
  rw [Group.label, FinhubAnomaly.label, map_cast_range, Group.members, Group.indices]
  by_cases hkind : group.kind = "structuring"
  · rw [if_pos hkind, if_pos hkind, List.range'_eq_map_range, List.map_map]
    rfl
  · rw [if_neg hkind, if_neg hkind]

theorem Group.type_members (group : Group) : stringAt "type" group.members = some group.kind := by
  rw [Group.members]
  split_ifs <;> rfl

theorem mapM_indexOf (ks : List ℕ) : (ks.map fun k => (.int (k : ℕ) : Json PyFloat)).mapM indexOf? = some ks := by
  induction ks with
  | nil => rfl
  | cons k ks ih => rw [List.map_cons, List.mapM_cons, ih]; rfl

theorem Shaped.length_eq_one {kind : String} {flows : List SimCashFlow}
    (h : Shaped rt today account medians baseline k kind flows) (hkind : kind ≠ "structuring") :
    flows.length = 1 := by
  cases h with
  | structuring => exact absurd rfl hkind
  | duplicate => rfl
  | amount_outlier => rfl
  | off_hours => rfl

theorem GroupOf.indices (h : GroupOf rt today account medians baseline anomaly_types k group) :
    indicesOf group.members = some group.indices := by
  by_cases hkind : group.kind = "structuring"
  · rw [Group.members, if_pos hkind]
    exact mapM_indexOf group.indices
  · rw [Group.members, if_neg hkind, Group.indices, h.shaped.length_eq_one hkind]
    rfl

theorem Located.records_indices {records : List SimRecord} (h : Located records group) :
    group.indices.map (fun i => records[i]?) = (group.flows.map SimCashFlow.record).map some := by
  apply List.ext_getElem
  · simp [Group.indices]
  · intro s hs hs'
    have hlength : s < group.flows.length := by simpa using hs'
    have hrecord := h s _ (List.getElem?_eq_getElem hlength)
    simpa [Group.indices] using hrecord

theorem textAt_booked_at (f : SimCashFlow) :
    textAt "booked_at" f.record.2 = f.booked_at.map DateTime.isoformat := by
  have hlook : f.record.2.lookup "booked_at" = some (optionText (f.booked_at.map DateTime.isoformat)) := rfl
  rw [textAt, hlook]
  cases f.booked_at <;> rfl

theorem outsideHours_record {t : DateTime} (h : f.booked_at = some t) :
    OutsideHours f.record ↔ t.hour.val < 9 ∨ 17 < t.hour.val := by
  rw [OutsideHours, textAt_booked_at, h, Option.map_some]
  simp only [Option.some_inj, exists_eq_left', DateTime.isoHour_isoformat]

theorem UsualFlow.not_outsideHours {i : ℕ} (h : UsualFlow rt today account medians i f) :
    ¬OutsideHours f.record := by
  obtain ⟨t, ht, hlo, hhi, _⟩ := h.booked_at
  rw [outsideHours_record ht]
  omega

theorem eq_off_hours {kind : String} (hkind : kind ∈ ANOMALY_TYPES) (hstructuring : kind ≠ "structuring")
    (hduplicate : kind ≠ "duplicate") (houtlier : kind ≠ "amount_outlier") : kind = "off_hours" := by
  simp only [ANOMALY_TYPES, List.mem_cons, List.not_mem_nil, or_false] at hkind
  exact (hkind.resolve_left houtlier).resolve_right (by simp [hduplicate, hstructuring])

section Shaped

variable {kind : String} {flows : List SimCashFlow} (h : Shaped rt today account medians baseline k kind flows)
  (hbaseline : ∀ f ∈ baseline, ∃ i, UsualFlow rt today account medians i f)

include h hbaseline

theorem Shaped.outsideHours_iff (hkind : kind ∈ ANOMALY_TYPES) (hf : f ∈ flows) :
    OutsideHours f.record ↔ kind = "off_hours" := by
  cases h with
  | structuring counterparty day flows h =>
    obtain ⟨s, _, hslice⟩ := exists_of_mem_right h hf
    obtain ⟨t, ht, hhour, _⟩ := hslice.booked_at
    rw [outsideHours_record ht]
    exact iff_of_false (by omega) (by decide)
  | duplicate source t u hsource ht hu =>
    obtain ⟨i, husual⟩ := hbaseline source (List.mem_of_getElem? hsource)
    obtain ⟨t', ht', hlo, hhi, hminute, hsecond⟩ := husual.booked_at
    rw [ht] at ht'
    cases ht'
    rw [List.mem_singleton.mp hf, addSeconds_fields hhi hminute hsecond hu]
    have hcopy : ({ source with booked_at := some { t with minute := 37 } } : SimCashFlow).booked_at =
        some { t with minute := 37 } := rfl
    rw [outsideHours_record hcopy]
    exact iff_of_false (by dsimp only; omega) (by decide)
  | amount_outlier g h =>
    obtain ⟨t, ht, hhour⟩ := h.booked_at
    rw [List.mem_singleton.mp hf, outsideHours_record ht]
    exact iff_of_false (by omega) (by decide)
  | off_hours kind hstructuring hduplicate houtlier g h =>
    obtain ⟨t, ht, hhour⟩ := h.booked_at
    rw [List.mem_singleton.mp hf, outsideHours_record ht]
    exact iff_of_true (by omega) (eq_off_hours hkind hstructuring hduplicate houtlier)

end Shaped

theorem isoformat_ne_of_minute_ne {t u : DateTime} (ht : t.offset = none) (hu : u.offset = none)
    (h : t.minute.val ≠ u.minute.val) : t.isoformat ≠ u.isoformat := by
  intro heq
  have hread := IsoText.readDateTime_isoformat ht
  rw [heq, IsoText.readDateTime_isoformat hu] at hread
  cases hread
  exact h rfl

theorem slices_times {counterparty : String} {day : Date} {ss : List ℕ} {flows : List SimCashFlow}
    (h : List.Forall₂ (SliceOf today account counterparty day k) ss flows) : ∃ times : List DateTime,
      flows.map SimCashFlow.booked_at = times.map some ∧ (∀ t ∈ times, t.offset = none) ∧
      times.map (fun t => t.minute.val) = ss.map (5 + ·) := by
  induction h with
  | nil => exact ⟨[], rfl, by simp, rfl⟩
  | cons hs _ ih =>
    obtain ⟨times, hbooked, hoffset, hminute⟩ := ih
    obtain ⟨t, ht, _, htminute⟩ := hs.booked_at
    refine ⟨t :: times, ?_, ?_, ?_⟩
    · rw [List.map_cons, List.map_cons, ht, hbooked]
    · exact List.forall_mem_cons.mpr ⟨hs.posted.booked_at t ht, hoffset⟩
    · rw [List.map_cons, List.map_cons, htminute, hminute]

theorem structured_of_slices {counterparty : String} {day : Date} {flows : List SimCashFlow}
    (h : List.Forall₂ (SliceOf today account counterparty day k) (List.range STRUCTURING_SLICES) flows) :
    Structured (flows.map SimCashFlow.record) := by
  have hslice : ∀ r ∈ flows.map SimCashFlow.record, ∃ s f, r = f.record ∧
      SliceOf today account counterparty day k s f := by
    intro r hr
    obtain ⟨f, hf, rfl⟩ := List.mem_map.mp hr
    obtain ⟨s, _, hs⟩ := exists_of_mem_right h hf
    exact ⟨s, f, rfl, hs⟩
  constructor
  · rw [List.length_map, ← h.length_eq]
    rfl
  · intro r hr
    obtain ⟨s, f, rfl, _⟩ := hslice r hr
    rfl
  · intro r hr
    obtain ⟨s, f, rfl, hs⟩ := hslice r hr
    have hamount : f.amount.1 = "-9500.00" := by
      rw [hs.amount]
      decide +kernel
    exact congrArg some hamount
  · refine ⟨counterparty, ?_⟩
    intro r hr
    obtain ⟨s, f, rfl, hs⟩ := hslice r hr
    exact congrArg some hs.counterparty
  · refine ⟨day.isoformat, ?_⟩
    intro r hr
    obtain ⟨s, f, rfl, hs⟩ := hslice r hr
    exact congrArg (fun d : Date => some d.isoformat) hs.value_date
  · obtain ⟨times, hbooked, hoffset, hminute⟩ := slices_times h
    have hnodup : (times.map fun t => t.minute.val).Nodup := by
      rw [hminute]
      decide
    refine ⟨times.map DateTime.isoformat, ?_, ?_⟩
    · have htexts : (flows.map SimCashFlow.record).map (fun flow => textAt "booked_at" flow.2) =
          (flows.map SimCashFlow.booked_at).map fun t => t.map DateTime.isoformat := by
        rw [List.map_map, List.map_map]
        exact List.map_congr_left fun f _ => textAt_booked_at f
      rw [htexts, hbooked, List.map_map, List.map_map]
      rfl
    · apply (List.Nodup.of_map _ hnodup).map_on
      intro t ht u hu heq
      by_contra hne
      apply isoformat_ne_of_minute_ne (hoffset t ht) (hoffset u hu) _ heq
      exact fun hsame => hne (List.inj_on_of_nodup_map hnodup ht hu hsame)

theorem rebooked_copy {i : ℕ} {source : SimCashFlow} {t u : DateTime}
    (h : UsualFlow rt today account medians i source) (ht : source.booked_at = some t)
    (hu : t.addSeconds 420 = some u) :
    Rebooked source.record ({ source with booked_at := some u } : SimCashFlow).record := by
  obtain ⟨t', ht', _, hhour, hminute, hsecond⟩ := h.booked_at
  rw [ht] at ht'
  cases ht'
  constructor
  · rfl
  · intro key hkey
    have hset : ({ source with booked_at := some u } : SimCashFlow).record.2 =
        Dict.set source.record.2 "booked_at" (.str u.isoformat) := rfl
    rw [hset, Dict.lookup_set, if_neg hkey]
  · rw [textAt_booked_at, textAt_booked_at, ht]
    intro heq
    exact isoformat_addSeconds_ne hhour hminute hsecond hu (Option.some.inj heq).symm

theorem amountOf_money {x : PyFloat} {q : ℚ} (hamount : f.amount.1 = money x) (hx : x.val? = some q) :
    amountOf f.record = some (roundCents q) := by
  have htext : textAt "amount" f.record.2 = some f.amount.1 := rfl
  rw [amountOf, htext, Option.bind_some, hamount, money, decimalValue_fixed2 hx]

/-- Twelve medians outweigh eleven amounts within a twentieth of the median, both rounded to cents. -/
theorem outlier_gt {m v : ℚ} (hm : 500 ≤ m) (hv : |v| ≤ 5 / 100) :
    11 * |roundCents (-(m * (1 + v)))| < |roundCents (-m * 12)| := by
  obtain ⟨hlo, hhi⟩ := abs_le.mp hv
  obtain ⟨husual, husual'⟩ := abs_le.mp (abs_roundCents_sub_le (m * (1 + v)))
  obtain ⟨houtlier, houtlier'⟩ := abs_le.mp (abs_roundCents_sub_le (m * 12))
  have hupper : m * (1 + v) ≤ m * (105 / 100) := by
    apply mul_le_mul_of_nonneg_left _ (by linarith)
    linarith
  have hlower : m * (95 / 100) ≤ m * (1 + v) := by
    apply mul_le_mul_of_nonneg_left _ (by linarith)
    linarith
  rw [neg_mul, roundCents_neg, roundCents_neg, abs_neg, abs_neg, abs_of_nonneg (by linarith),
    abs_of_nonneg (by linarith)]
  linarith

theorem UsualFlow.amountOf (hfmt : rt.fmt = FloatFormat.exact) {i : ℕ}
    (h : UsualFlow rt today account medians i f) : ∃ median m v, medianOf medians f.counterparty = .ok median ∧
      median.val? = some m ∧ |v| ≤ 5 / 100 ∧ amountOf f.record = some (roundCents (-(m * (1 + v)))) := by
  obtain ⟨median, u, hmedian, ⟨m, hm, _⟩, ⟨v, hv, hbound⟩, hamount⟩ := h.amount
  have husual : (usualAmount rt median u).val? = some (m * (1 + v)) := by
    rw [usualAmount, hfmt]
    exact PyFloat.val?_mul_exact hm (PyFloat.val?_add_exact rfl hv)
  have hjitter : jitterBound rt = 5 / 100 := by
    rw [jitterBound, hfmt]
    rfl
  rw [hjitter] at hbound
  exact ⟨median, m, v, hmedian, hm, hbound, amountOf_money hamount (PyFloat.val?_neg husual)⟩

theorem OutlierOf.amountOf (hfmt : rt.fmt = FloatFormat.exact)
    (h : OutlierOf rt today account medians k f) : ∃ median m, medianOf medians f.counterparty = .ok median ∧
      median.val? = some m ∧ 500 ≤ m ∧ amountOf f.record = some (roundCents (-m * 12)) := by
  obtain ⟨median, hmedian, ⟨m, hm, hlo, _⟩, hamount⟩ := h.amount
  have hproduct : (PyFloat.mul rt.fmt median.neg (.num 12)).val? = some (-m * 12) := by
    rw [hfmt]
    exact PyFloat.val?_mul_exact (PyFloat.val?_neg hm) rfl
  exact ⟨median, m, hmedian, hm, hlo, amountOf_money hamount hproduct⟩

section Labelled

variable (h : Labelled rt p today base_flows anomaly_count anomaly_types account medians baseline groups b)

include h

theorem Labelled.length_baseline : baseline.length = base_flows.toNat := by
  rw [← h.flows.length_eq, List.length_range]

theorem Labelled.usual : ∀ f ∈ baseline, ∃ i, UsualFlow rt today account medians i f := by
  intro f hf
  obtain ⟨i, _, hflow⟩ := exists_of_mem_right h.flows hf
  exact ⟨i, hflow⟩

theorem Labelled.groupOf (hgroup : group ∈ groups) :
    ∃ k, GroupOf rt today account medians baseline anomaly_types k group := by
  obtain ⟨k, _, hof⟩ := exists_of_mem_right h.injected.related hgroup
  exact ⟨k, hof⟩

theorem Labelled.record_baseline {i : ℕ} (hi : i < baseline.length) :
    b.records[i + 1]? = some baseline[i].record := by
  rw [h.records, List.getElem?_cons_succ, List.getElem?_map, List.getElem?_append_left hi,
    List.getElem?_eq_getElem hi]
  rfl

theorem Labelled.indices : groups.flatMap Group.indices =
    List.range' (1 + base_flows.toNat) (b.records.length - (1 + base_flows.toNat)) := by
  have hlength : b.records.length - (1 + base_flows.toNat) = (groups.flatMap Group.flows).length := by
    rw [h.records, List.length_cons, List.length_map, List.length_append, h.length_baseline]
    omega
  rw [hlength, h.injected.indices, List.length_cons, List.length_map, h.length_baseline, Nat.add_comm]

theorem Labelled.exists_flow (hgroup : group ∈ groups) {i : ℕ} (hi : i ∈ group.indices) :
    ∃ f ∈ group.flows, b.records[i]? = some f.record := by
  obtain ⟨s, hs, rfl⟩ := List.mem_range'.mp hi
  refine ⟨group.flows[s], List.getElem_mem hs, ?_⟩
  rw [Nat.one_mul]
  exact h.injected.located group hgroup s _ (List.getElem?_eq_getElem hs)

variable (htypes : ∀ type ∈ anomaly_types, type ∈ ANOMALY_TYPES)

include htypes

theorem Labelled.kind_mem (hgroup : group ∈ groups) : group.kind ∈ ANOMALY_TYPES := by
  obtain ⟨k, hof⟩ := h.groupOf hgroup
  exact htypes _ (List.mem_of_getElem? (cycled_eq_ok.mp hof.kind))

theorem Labelled.outsideHours_iff {i : ℕ} {r : SimRecord} (hr : b.records[i]? = some r) :
    OutsideHours r ↔ ∃ group ∈ groups, group.kind = "off_hours" ∧ i ∈ group.indices := by
  have hgroups : ∀ group ∈ groups, i ∈ group.indices → (OutsideHours r ↔ group.kind = "off_hours") := by
    intro group hgroup hi
    obtain ⟨f, hf, hfr⟩ := h.exists_flow hgroup hi
    rw [hr] at hfr
    cases hfr
    obtain ⟨k, hof⟩ := h.groupOf hgroup
    exact hof.shaped.outsideHours_iff h.usual (h.kind_mem htypes hgroup) hf
  constructor
  · intro houtside
    have hafter : i ∈ groups.flatMap Group.indices := by
      have hlt := (List.getElem?_eq_some_iff.mp hr).1
      rw [h.indices, List.mem_range'_1]
      by_contra hnot
      -- the account has no booking time, and the baseline keeps working hours
      cases i with
      | zero =>
        rw [h.records] at hr
        cases hr
        obtain ⟨text, htext, _⟩ := houtside
        cases htext
      | succ i =>
        have hi : i < baseline.length := by
          rw [h.length_baseline]
          omega
        rw [h.record_baseline hi] at hr
        cases hr
        obtain ⟨j, husual⟩ := h.usual _ (List.getElem_mem hi)
        exact husual.not_outsideHours houtside
    obtain ⟨group, hgroup, hi⟩ := List.mem_flatMap.mp hafter
    exact ⟨group, hgroup, (hgroups group hgroup hi).mp houtside, hi⟩
  · rintro ⟨group, hgroup, hkind, hi⟩
    exact (hgroups group hgroup hi).mpr hkind

omit htypes in
theorem Labelled.outlying (hfmt : rt.fmt = FloatFormat.exact) (hout : OutlierOf rt today account medians k f) :
    Outlying base_flows.toNat b.records f.record := by
  obtain ⟨median, m, hmedian, hm, hlo, hamount⟩ := hout.amountOf hfmt
  refine ⟨_, hamount, ?_⟩
  intro i r hfirst hlast hr hname
  obtain ⟨j, rfl⟩ := Nat.exists_eq_add_of_le' hfirst
  have hj : j < baseline.length := by
    rw [h.length_baseline]
    omega
  rw [h.record_baseline hj] at hr
  cases hr
  obtain ⟨i, husual⟩ := h.usual _ (List.getElem_mem hj)
  obtain ⟨median', m', v, hmedian', hm', hv, hamount'⟩ := husual.amountOf hfmt
  have hsame : baseline[j].counterparty = f.counterparty := Option.some.inj hname
  rw [hsame, hmedian] at hmedian'
  cases hmedian'
  rw [hm] at hm'
  cases hm'
  exact ⟨_, hamount', outlier_gt hlo hv⟩

theorem Labelled.trueLabel (hgroup : group ∈ groups) :
    TrueLabel rt base_flows.toNat b.records group.members := by
  obtain ⟨k, hof⟩ := h.groupOf hgroup
  have hindices := hof.indices
  have hkind := h.kind_mem htypes hgroup
  have htype := group.type_members
  have hlocated := h.injected.located group hgroup
  have hone : ∀ f, group.flows = [f] → group.indices = [group.start] ∧
      b.records[group.start]? = some f.record := by
    intro f hf
    constructor
    · rw [Group.indices, hf]
      rfl
    · exact hlocated 0 f (by rw [hf]; rfl)
  have hshaped := hof.shaped
  generalize hk : group.kind = kind at hshaped hkind htype
  generalize hflows : group.flows = flows at hshaped
  cases hshaped with
  | structuring counterparty day flows hslices =>
    refine .structuring group.indices _ htype hindices hlocated.records_indices ?_
    rw [hflows]
    exact structured_of_slices hslices
  | duplicate source t u hsource ht hu =>
    obtain ⟨heq, hcopy⟩ := hone _ hflows
    obtain ⟨hj, rfl⟩ := List.getElem?_eq_some_iff.mp hsource
    obtain ⟨i, husual⟩ := h.usual _ (List.getElem_mem hj)
    rw [heq] at hindices
    have hlast : k % baseline.length + 1 ≤ base_flows.toNat := by
      rw [← h.length_baseline]
      exact hj
    exact .duplicate group.start _ _ _ htype hindices hcopy (Nat.le_add_left 1 _) hlast
      (h.record_baseline hj) (rebooked_copy husual ht hu)
  | amount_outlier f hout =>
    obtain ⟨heq, hr⟩ := hone _ hflows
    rw [heq] at hindices
    exact .amount_outlier group.start f.record htype hindices hr fun hfmt => h.outlying hfmt hout
  | off_hours kind hstructuring hduplicate houtlier f hoff =>
    obtain ⟨heq, hr⟩ := hone _ hflows
    rw [heq] at hindices
    have hmem : f ∈ group.flows := by
      rw [hflows]
      exact List.mem_singleton_self f
    have hname : kind = "off_hours" := eq_off_hours hkind hstructuring hduplicate houtlier
    rw [hname] at htype hk
    exact .off_hours group.start f.record htype hindices hr
      ((hof.shaped.outsideHours_iff h.usual (h.kind_mem htypes hgroup) hmem).mpr hk)

theorem Labelled.exactLabels : ExactLabels rt base_flows.toNat anomaly_count.toNat anomaly_types
    (groups.map Group.members) b := by
  constructor
  · rw [h.truth, List.map_map, Dict.lookup_cons, if_pos rfl]
    congr 2
    exact List.map_congr_left fun group _ => group.label_eq
  · rw [List.length_map, ← h.injected.related.length_eq, List.length_range]
  · intro k label hlabel
    rw [List.getElem?_map, Option.map_eq_some_iff] at hlabel
    obtain ⟨group, hgroup, rfl⟩ := hlabel
    obtain ⟨hk, rfl⟩ := List.getElem?_eq_some_iff.mp hgroup
    have hk' : k < (List.range anomaly_count.toNat).length := by
      rw [h.injected.related.length_eq]
      exact hk
    have hof := h.injected.related.get hk' hk
    simp only [List.get_eq_getElem, List.getElem_range] at hof
    exact ⟨groups[k].kind, cycled_eq_ok.mp hof.kind, groups[k].type_members⟩
  · refine ⟨groups.map Group.indices, ?_, ?_⟩
    · rw [List.map_map, List.map_map]
      apply List.map_congr_left
      intro group hgroup
      obtain ⟨k, hof⟩ := h.groupOf hgroup
      exact hof.indices
    · rw [← List.flatMap_def]
      exact h.indices
  · intro label hlabel
    obtain ⟨group, hgroup, rfl⟩ := List.mem_map.mp hlabel
    exact h.trueLabel htypes hgroup
  · intro i r hr
    rw [h.outsideHours_iff htypes hr]
    constructor
    · rintro ⟨group, hgroup, hkind, hi⟩
      obtain ⟨k, hof⟩ := h.groupOf hgroup
      exact ⟨group.members, List.mem_map_of_mem hgroup, group.indices, hkind ▸ group.type_members, hof.indices, hi⟩
    · rintro ⟨label, hlabel, indices, htype, hindices, hi⟩
      obtain ⟨group, hgroup, rfl⟩ := List.mem_map.mp hlabel
      obtain ⟨k, hof⟩ := h.groupOf hgroup
      rw [hof.indices] at hindices
      rw [group.type_members] at htype
      cases hindices
      exact ⟨group, hgroup, Option.some.inj htype, hi⟩

end Labelled

/-- The manifest of every batch labels exactly what was injected. -/
theorem labels_exact {seed : ℤ} (hp : coerce_params rt.fmt param_schema params = .ok p)
    (hb : generate rt params seed target_label today = .ok b) :
    ∃ (base_flows anomaly_count : ℕ) (anomaly_types : List String) (labels : List (Payload PyFloat)),
      paramInt p "base_flows" = .ok (base_flows : ℤ) ∧ paramInt p "anomaly_count" = .ok (anomaly_count : ℤ) ∧
      paramTexts p "anomaly_types" = .ok anomaly_types ∧
      ExactLabels rt base_flows anomaly_count anomaly_types labels b := by
  obtain ⟨p', hp', base_flows, anomaly_count, anomaly_types, account, medians, baseline, groups, h⟩ :=
    generate_labelled hb
  cases hp.symm.trans hp'
  obtain ⟨hbase, _⟩ := paramInt_bounds schema_nodup schema_wellFormed hp
    (show .int "base_flows" 200 10 2000 ∈ param_schema by simp [param_schema]) h.base
  obtain ⟨hcount, _⟩ := paramInt_bounds schema_nodup schema_wellFormed hp
    (show .int "anomaly_count" 5 1 50 ∈ param_schema by simp [param_schema]) h.count
  obtain ⟨_, htypes⟩ := paramTexts_options schema_nodup schema_wellFormed hp
    (show .multi "anomaly_types" ANOMALY_TYPES ANOMALY_TYPES ∈ param_schema by simp [param_schema]) h.types
  have hbase' : (base_flows.toNat : ℤ) = base_flows := Int.toNat_of_nonneg (by omega)
  have hcount' : (anomaly_count.toNat : ℤ) = anomaly_count := Int.toNat_of_nonneg (by omega)
  exact ⟨base_flows.toNat, anomaly_count.toNat, anomaly_types, groups.map Group.members,
    by rw [hbase', h.base], by rw [hcount', h.count], h.types, h.exactLabels htypes⟩

def fourAnomaliesBatch : GeneratedBatch :=
  (generate exactDraws fourAnomalies 42 "Société" newYear).toOption.getD ⟨[], [], "json"⟩

theorem fourAnomalies_labelled :
    generate exactDraws fourAnomalies 42 "Société" newYear = .ok fourAnomaliesBatch ∧
      ∃ labels, ExactLabels exactDraws 10 4 ANOMALY_TYPES labels fourAnomaliesBatch := by
  have hb : generate exactDraws fourAnomalies 42 "Société" newYear = .ok fourAnomaliesBatch :=
    Raising.eq_ok_getD (by decide +kernel) _
  have hp : coerce_params exactDraws.fmt param_schema fourAnomalies =
      .ok ((coerce_params exactDraws.fmt param_schema fourAnomalies).toOption.getD []) :=
    Raising.eq_ok_getD (by decide +kernel) _
  obtain ⟨base_flows, anomaly_count, anomaly_types, labels, hbase, hcount, htypes, hlabels⟩ := labels_exact hp hb
  have hten : (paramInt ((coerce_params exactDraws.fmt param_schema fourAnomalies).toOption.getD [])
      "base_flows").toOption = some 10 := by decide +kernel
  have hfour : (paramInt ((coerce_params exactDraws.fmt param_schema fourAnomalies).toOption.getD [])
      "anomaly_count").toOption = some 4 := by decide +kernel
  have hkinds : (paramTexts ((coerce_params exactDraws.fmt param_schema fourAnomalies).toOption.getD [])
      "anomaly_types").toOption = some ANOMALY_TYPES := by decide +kernel
  rw [hbase] at hten
  rw [hcount] at hfour
  rw [htypes] at hkinds
  cases Int.ofNat_inj.mp (Option.some.inj hten)
  cases Int.ofNat_inj.mp (Option.some.inj hfour)
  cases hkinds
  exact ⟨hb, labels, hlabels⟩

end FinhubAnomaly
end AtlasConnectors
