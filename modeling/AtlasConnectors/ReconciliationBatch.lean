import AtlasConnectors.ConsistentBatch
import AtlasConnectors.ExactArithmetic

/-! The manifest of the reconciliation preset against a matcher that compares references, amounts
and dates. -/
namespace AtlasConnectors
namespace FinhubReconciliation

open Raising NumberText

def withRef (record_type ref : String) (records : List SimRecord) : List SimRecord :=
  records.filter fun r => r.1 = record_type ∧ textAt "ref" r.2 = some ref

abbrev SameAmount (flow entry : SimRecord) : Prop := textAt "amount" flow.2 = textAt "amount" entry.2

abbrev SameDate (flow entry : SimRecord) : Prop := textAt "value_date" flow.2 = textAt "entry_date" entry.2

def Matched (records : List SimRecord) (ref : String) : Prop :=
  ∃ flow ∈ withRef "cash_flow" ref records, ∃ entry ∈ withRef "financial_transaction" ref records,
    SameAmount flow entry ∧ SameDate flow entry

instance (records : List SimRecord) (ref : String) : Decidable (Matched records ref) :=
  inferInstanceAs (Decidable (∃ flow ∈ withRef "cash_flow" ref records, _))

def pairRefs (pairs : ℕ) : List String := (List.range pairs).map pairRef

/-- What an entry has in common with its flow whatever the mismatch. -/
structure SamePair (flow entry : SimRecord) : Prop where
  account : textAt "matches_iban" entry.2 = textAt "account_iban" flow.2
  currency : textAt "currency" entry.2 = textAt "currency" flow.2

def ThreeDaysLater (flow entry : SimRecord) : Prop :=
  ∃ day later : Date, textAt "value_date" flow.2 = some day.isoformat ∧
    textAt "entry_date" entry.2 = some later.isoformat ∧ later.toOrdinal = day.toOrdinal + 3

theorem ThreeDaysLater.not_sameDate {flow entry : SimRecord} (h : ThreeDaysLater flow entry) :
    ¬SameDate flow entry := by
  obtain ⟨day, later, hday, hlater, hordinal⟩ := h
  intro hsame
  rw [SameDate, hday, hlater] at hsame
  have := congrArg Date.toOrdinal (Date.isoformat_injective (Option.some.inj hsame))
  omega

/-- A label of the manifest, true of the records. -/
inductive TrueLabel (records : List SimRecord) (label : Payload PyFloat) : Prop
  | missing_leg (ref : String) (href : stringAt "ref" label = some ref)
      (htype : stringAt "type" label = some "missing_leg")
      (hentry : withRef "financial_transaction" ref records = [])
  | amount (ref : String) (index : ℕ) (flow entry : SimRecord) (href : stringAt "ref" label = some ref)
      (htype : stringAt "type" label = some "amount") (hindex : intAt "record_index" label = some (index : ℤ))
      (hat : records[index]? = some entry) (hflow : withRef "cash_flow" ref records = [flow])
      (hentry : withRef "financial_transaction" ref records = [entry]) (hsame : SamePair flow entry)
      (hamount : ¬SameAmount flow entry) (hdate : SameDate flow entry)
  | date (ref : String) (index : ℕ) (flow entry : SimRecord) (href : stringAt "ref" label = some ref)
      (htype : stringAt "type" label = some "date") (hindex : intAt "record_index" label = some (index : ℤ))
      (hat : records[index]? = some entry) (hflow : withRef "cash_flow" ref records = [flow])
      (hentry : withRef "financial_transaction" ref records = [entry]) (hsame : SamePair flow entry)
      (hamount : SameAmount flow entry) (hdate : ThreeDaysLater flow entry)

/-- The manifest with these labels is an oracle for the matcher. The product and the rate are floats. -/
structure Oracle (fmt : FloatFormat) (pairs : ℕ) (ratio : ℚ) (labels : List (Payload PyFloat)) (b : GeneratedBatch) :
    Prop where
  distinct : (pairRefs pairs).Nodup
  flow : ∀ ref ∈ pairRefs pairs, (withRef "cash_flow" ref b.records).length = 1
  entry : ∀ ref ∈ pairRefs pairs, (withRef "financial_transaction" ref b.records).length ≤ 1
  matched : (((pairRefs pairs).filter fun ref => Matched b.records ref).length : ℤ) =
    pairs - roundHalfEven (fmt.rnd (pairs * ratio))
  rate : ∃ x, floatAt "expected_auto_match_rate" b.ground_truth = some x ∧
    x.val? = some (fmt.rnd ((roundHalfEven (fmt.rnd
      ((((pairRefs pairs).filter fun ref => Matched b.records ref).length : ℚ) / pairs) * 10 ^ 4) : ℚ) / 10 ^ 4))
  listed : b.ground_truth.lookup "mismatched_pairs" = some (.arr (labels.map .obj))
  unmatched : labels.map (stringAt "ref") =
    ((pairRefs pairs).filter fun ref => ¬Matched b.records ref).map some
  labels : ∀ label ∈ labels, TrueLabel b.records label

variable {rt : PyRuntime} {params p : Params} {target_label : String} {today : Date} {account : SimBankAccount}
  {mismatch_types : List String} {mismatch_count : ℤ} {i : ℕ} {row : Row} {rows : List Row} {b : GeneratedBatch}

theorem mismatchOf_cases {mismatch : Option String}
    (h : mismatchOf mismatch_types mismatch_count i = .ok mismatch) :
    (∃ type ∈ mismatch_types, mismatch = some type ∧ (i : ℤ) < mismatch_count) ∨
      mismatch = none ∧ mismatch_count ≤ i := by
  rw [mismatchOf] at h
  by_cases hi : (i : ℤ) < mismatch_count
  · rw [if_pos hi] at h
    cases hcycled : cycled mismatch_types i with
    | error e =>
      rw [hcycled] at h
      cases h
    | ok type =>
      rw [hcycled] at h
      cases h
      exact Or.inl ⟨type, List.mem_of_getElem? (cycled_eq_ok.mp hcycled), rfl, hi⟩
  · rw [if_neg hi] at h
    cases h
    exact Or.inr ⟨rfl, by omega⟩

theorem mismatchOf_mem {type : String} (h : mismatchOf mismatch_types mismatch_count i = .ok (some type)) :
    type ∈ mismatch_types := by
  rcases mismatchOf_cases h with ⟨_, hmem, heq, _⟩ | ⟨hnone, _⟩
  · cases heq
    exact hmem
  · cases hnone

theorem pairRef_injective : Function.Injective pairRef := by
  intro i j h
  apply zfill_injective 5
  simpa [pairRef] using h

theorem textAt_ref (f : SimCashFlow) : textAt "ref" f.record.2 = f.ref := by
  have hlook : f.record.2.lookup "ref" = some (optionText f.ref) := rfl
  rw [textAt, hlook]
  cases f.ref <;> rfl

theorem money_ne {x y : PyFloat} {q r : ℚ} (hx : x.val? = some q) (hy : y.val? = some r) (hd : 1 / 2 ≤ r - q) :
    money x.neg ≠ money y.neg := by
  intro h
  have htexts : roundCents (-q) = roundCents (-r) := by
    apply Option.some.inj
    rw [← decimalValue_fixed2 (PyFloat.val?_neg hx), ← decimalValue_fixed2 (PyFloat.val?_neg hy)]
    exact congrArg decimalValue h
  have hq := abs_le.mp (abs_roundCents_sub_le (-q))
  have hr := abs_le.mp (abs_roundCents_sub_le (-r))
  rw [htexts] at hq
  linarith [hq.1, hq.2, hr.1, hr.2]

/-- A pair by its mismatch: its entry, if any, against its flow. -/
inductive Shaped (row : Row) : Prop
  | matched (e : SimErpEntry) (hmismatch : row.mismatch = none) (hentry : row.entry = some e)
      (hamount : SameAmount row.flow.record e.record) (hdate : SameDate row.flow.record e.record)
  | missing_leg (hmismatch : row.mismatch = some "missing_leg") (hentry : row.entry = none)
  | amount (e : SimErpEntry) (hmismatch : row.mismatch = some "amount") (hentry : row.entry = some e)
      (hsame : SamePair row.flow.record e.record) (hamount : ¬SameAmount row.flow.record e.record)
      (hdate : SameDate row.flow.record e.record)
  | date (e : SimErpEntry) (hmismatch : row.mismatch = some "date") (hentry : row.entry = some e)
      (hsame : SamePair row.flow.record e.record) (hamount : SameAmount row.flow.record e.record)
      (hdate : ThreeDaysLater row.flow.record e.record)

theorem samePair_record {e : SimErpEntry} (hposted : Posted today 30 account row.flow)
    (hentered : Entered account e) : SamePair row.flow.record e.record := by
  have hmatches : textAt "matches_iban" e.record.2 = some account.iban.1 := by
    have hlook : e.record.2.lookup "matches_iban" = some (optionText e.matches_iban) := rfl
    rw [textAt, hlook, hentered.matches_iban]
    rfl
  constructor
  · rw [hmatches, ← hposted.account_iban]
    rfl
  · exact congrArg some (hentered.currency.trans hposted.currency.symm)

theorem RowOf.shaped (hfmt : rt.fmt.KeepsAmounts) (htypes : ∀ type ∈ mismatch_types, type ∈ MISMATCH_TYPES)
    (h : RowOf rt today account mismatch_types mismatch_count i row) : Shaped row := by
  obtain ⟨amount, ⟨q, hq, hbound⟩, hflow, hentry⟩ := h.exists_amount
  by_cases hmissing : row.mismatch = some "missing_leg"
  · exact .missing_leg hmissing (h.missing hmissing)
  · obtain ⟨e, leg, he, hleg, _, hamount, hdate, hentered⟩ := hentry hmissing
    have hsame := samePair_record h.posted hentered
    have hamounts : leg.1 = amount.neg → SameAmount row.flow.record e.record := by
      intro hleg'
      have htexts : row.flow.amount.1 = e.amount.1 := by rw [hflow, hamount, hleg']
      exact congrArg some htexts
    have hdates : leg.2 = row.flow.value_date → SameDate row.flow.record e.record := by
      intro hleg'
      have htexts : row.flow.value_date = e.entry_date := by rw [hdate, hleg']
      exact congrArg (fun d : Date => some d.isoformat) htexts
    generalize hmismatch : row.mismatch = mismatch at hleg
    cases hleg with
    | amount delta d hd hlo hhi =>
      refine .amount e hmismatch he hsame ?_ (hdates rfl)
      intro htexts
      have habs : |q + d| ≤ (20050 : ℕ) := by
        have hq' := abs_le.mp hbound
        push_cast at hq' ⊢
        exact abs_le.mpr ⟨by linarith, by linarith⟩
      have hsum : (amount.add rt.fmt delta).val? = some (rt.fmt.rnd (q + d)) := by
        simp only [PyFloat.add, hq, hd]
        exact PyFloat.val?_ofSigned (rt.fmt.overflows_eq_false_of_le habs (by norm_num))
      have hmove := abs_lt.mp (hfmt (q + d) (habs.trans (by norm_num)))
      apply money_ne hq hsum (by linarith)
      rw [← hflow, ← hamount]
      exact Option.some.inj htexts
    | date later hlater =>
      refine .date e hmismatch he hsame (hamounts rfl) ⟨row.flow.value_date, later, rfl, ?_, ?_⟩
      · exact congrArg (fun d : Date => some d.isoformat) hdate
      · have := Date.shift_toOrdinal hlater
        omega
    | same _ hnamount hndate =>
      cases mismatch with
      | none => exact .matched e hmismatch he (hamounts rfl) (hdates rfl)
      | some type =>
        -- the type is none of the three
        have hmem := mismatchOf_mem (hmismatch ▸ h.mismatch)
        have htype := htypes type hmem
        simp only [MISMATCH_TYPES, List.mem_cons, List.not_mem_nil, or_false] at htype
        rcases htype with rfl | rfl | rfl
        · exact absurd rfl hnamount
        · exact absurd rfl hndate
        · exact absurd hmismatch hmissing

theorem RowOf.entry_ref (h : RowOf rt today account mismatch_types mismatch_count i row) {e : SimErpEntry}
    (he : row.entry = some e) : e.ref = pairRef i := by
  obtain ⟨_, _, _, hentry⟩ := h.exists_amount
  by_cases hmissing : row.mismatch = some "missing_leg"
  · rw [h.missing hmissing] at he
    cases he
  · obtain ⟨e', _, he', _, href, _⟩ := hentry hmissing
    rw [he] at he'
    cases he'
    exact href

theorem withRef_row_flow (ref : String) (row : Row) :
    withRef "cash_flow" ref row.records = if row.flow.ref = some ref then [row.flow.record] else [] := by
  have hflow : (row.flow.record.1 = "cash_flow" ∧ textAt "ref" row.flow.record.2 = some ref) ↔
      row.flow.ref = some ref := by
    rw [textAt_ref]
    exact and_iff_right rfl
  have hentry : ∀ e : SimErpEntry, ¬(e.record.1 = "cash_flow" ∧ textAt "ref" e.record.2 = some ref) :=
    fun e h => absurd h.1 (by simp [SimErpEntry.record])
  rw [withRef, Row.records, List.filter_cons]
  cases row.entry <;> simp [hflow, hentry]

theorem withRef_row_entry (ref : String) (row : Row) : withRef "financial_transaction" ref row.records =
    (row.entry.filter fun e => e.ref = ref).toList.map SimErpEntry.record := by
  have hflow : ¬(row.flow.record.1 = "financial_transaction" ∧ textAt "ref" row.flow.record.2 = some ref) :=
    fun h => absurd h.1 (by simp [SimCashFlow.record])
  have hentry : ∀ e : SimErpEntry,
      (e.record.1 = "financial_transaction" ∧ textAt "ref" e.record.2 = some ref) ↔ e.ref = ref := by
    intro e
    have htext : textAt "ref" e.record.2 = some e.ref := rfl
    rw [htext, Option.some_inj]
    exact and_iff_right rfl
  rw [withRef, Row.records, List.filter_cons, if_neg (by simpa using hflow)]
  cases row.entry with
  | none => rfl
  | some e =>
    by_cases he : e.ref = ref <;> simp [hentry, he, Option.filter]

theorem length_filter_le_range (m n : ℕ) : ((List.range n).filter fun i => decide (m ≤ i)).length = n - m := by
  induction n with
  | zero => rw [Nat.zero_sub]; rfl
  | succ n ih =>
    rw [List.range_succ, List.filter_append, List.length_append, ih]
    by_cases hm : m ≤ n
    · rw [List.filter_cons_of_pos (by simpa using hm), List.filter_nil, List.length_singleton]
      omega
    · rw [List.filter_cons_of_neg (by simpa using hm), List.filter_nil, List.length_nil]
      omega

def Row.members (row : Row) : Option (Payload PyFloat) :=
  row.mismatch.map fun type => ("ref", .str (pairRef row.index)) :: ("type", .str type) ::
    if type = "missing_leg" then [] else [("record_index", .int (row.start + 1 : ℕ))]

theorem filterMap_label (rows : List Row) :
    rows.filterMap Row.label = (rows.filterMap Row.members).map .obj := by
  rw [List.map_filterMap]
  congr 1
  funext row
  rw [Row.label, Row.members]
  cases row.mismatch <;> rfl

section Reconciled

variable {pairs : ℤ} (h : Reconciled rt p today pairs mismatch_count mismatch_types account rows b)

include h

theorem Reconciled.rowOf (hrow : row ∈ rows) :
    RowOf rt today account mismatch_types mismatch_count row.index row ∧ row.index < pairs.toNat := by
  obtain ⟨i, hi, hof⟩ := exists_of_mem_right h.related hrow
  rw [hof.index]
  exact ⟨hof, List.mem_range.mp hi⟩

theorem Reconciled.index : rows.map Row.index = List.range pairs.toNat := by
  rw [← List.forall₂_eq_eq_eq, List.forall₂_map_left_iff]
  exact h.related.flip.imp fun _ _ hof => hof.index

theorem Reconciled.withRef_eq (record_type : String) (haccount : record_type ≠ "bank_account") (hrow : row ∈ rows)
    (hother : ∀ other ∈ rows, other.index ≠ row.index →
      withRef record_type (pairRef row.index) other.records = []) :
    withRef record_type (pairRef row.index) b.records = withRef record_type (pairRef row.index) row.records := by
  have hindex : (rows.map Row.index).Nodup := by
    rw [h.index]
    exact List.nodup_range
  have hskip : withRef record_type (pairRef row.index) b.records =
      withRef record_type (pairRef row.index) (rows.flatMap Row.records) := by
    rw [h.records, withRef, List.filter_cons, if_neg]
    · rfl
    · simp only [decide_eq_true_eq]
      exact fun heq => haccount heq.1.symm
  rw [hskip, withRef, List.filter_flatMap]
  apply flatMap_eq_of_unique hindex.of_map hrow
  intro other hmem hne
  exact hother other hmem fun heq => hne (List.inj_on_of_nodup_map hindex hmem hrow heq)

theorem Reconciled.withRef_flow (hrow : row ∈ rows) :
    withRef "cash_flow" (pairRef row.index) b.records = [row.flow.record] := by
  rw [h.withRef_eq "cash_flow" (by decide) hrow]
  · rw [withRef_row_flow, if_pos (h.rowOf hrow).1.ref]
  · intro other hother hne
    rw [withRef_row_flow, if_neg]
    rw [(h.rowOf hother).1.ref]
    exact fun heq => hne (pairRef_injective (Option.some.inj heq))

theorem Reconciled.withRef_entry (hrow : row ∈ rows) :
    withRef "financial_transaction" (pairRef row.index) b.records = row.entry.toList.map SimErpEntry.record := by
  rw [h.withRef_eq "financial_transaction" (by decide) hrow]
  · rw [withRef_row_entry]
    cases he : row.entry with
    | none => rfl
    | some e => simp [Option.filter, (h.rowOf hrow).1.entry_ref he]
  · intro other hother hne
    rw [withRef_row_entry]
    cases he : other.entry with
    | none => rfl
    | some e =>
      have href : e.ref ≠ pairRef row.index := by
        rw [(h.rowOf hother).1.entry_ref he]
        exact fun heq => hne (pairRef_injective heq)
      simp [Option.filter, href]

/-- The matcher finds the rows without a mismatch. -/
theorem Reconciled.matched_iff (hfmt : rt.fmt.KeepsAmounts)
    (htypes : ∀ type ∈ mismatch_types, type ∈ MISMATCH_TYPES) (hrow : row ∈ rows) :
    Matched b.records (pairRef row.index) ↔ row.mismatch = none := by
  have hmatched : Matched b.records (pairRef row.index) ↔ ∃ e, row.entry = some e ∧
      SameAmount row.flow.record e.record ∧ SameDate row.flow.record e.record := by
    rw [Matched, h.withRef_flow hrow, h.withRef_entry hrow]
    simp only [List.mem_singleton, exists_eq_left]
    cases row.entry <;> simp
  rw [hmatched]
  cases (h.rowOf hrow).1.shaped hfmt htypes with
  | matched e hmismatch hentry hamount hdate =>
    exact iff_of_true ⟨e, hentry, hamount, hdate⟩ hmismatch
  | missing_leg hmismatch hentry => simp [hmismatch, hentry]
  | amount e hmismatch hentry _ hamount _ =>
    refine iff_of_false ?_ (by simp [hmismatch])
    rintro ⟨e', he', hamount', _⟩
    rw [hentry] at he'
    cases he'
    exact hamount hamount'
  | date e hmismatch hentry _ _ hdate =>
    refine iff_of_false ?_ (by simp [hmismatch])
    rintro ⟨e', he', _, hdate'⟩
    rw [hentry] at he'
    cases he'
    exact hdate.not_sameDate hdate'

theorem Reconciled.matched_pairRef_iff (hfmt : rt.fmt.KeepsAmounts)
    (htypes : ∀ type ∈ mismatch_types, type ∈ MISMATCH_TYPES) (hi : i < pairs.toNat) :
    Matched b.records (pairRef i) ↔ mismatch_count ≤ i := by
  obtain ⟨row, hrow, hof⟩ := exists_of_mem_left h.related (List.mem_range.mpr hi)
  rw [← hof.index, h.matched_iff hfmt htypes hrow]
  rcases mismatchOf_cases hof.mismatch with ⟨type, _, hmismatch, hlt⟩ | ⟨hmismatch, hle⟩
  · rw [hmismatch, hof.index]
    exact iff_of_false (by simp) (by omega)
  · rw [hof.index]
    exact iff_of_true hmismatch hle

theorem Reconciled.matchedCount (hfmt : rt.fmt.KeepsAmounts)
    (htypes : ∀ type ∈ mismatch_types, type ∈ MISMATCH_TYPES) (hnonneg : 0 ≤ mismatch_count)
    (hle : mismatch_count ≤ pairs) :
    (((pairRefs pairs.toNat).filter fun ref => Matched b.records ref).length : ℤ) = pairs - mismatch_count := by
  have hfilter : (List.range pairs.toNat).filter (fun i => decide (Matched b.records (pairRef i))) =
      (List.range pairs.toNat).filter fun i => decide (mismatch_count.toNat ≤ i) := by
    apply List.filter_congr
    intro i hi
    rw [decide_eq_decide, h.matched_pairRef_iff hfmt htypes (List.mem_range.mp hi)]
    omega
  have hlength : ((pairRefs pairs.toNat).filter fun ref => Matched b.records ref).length =
      pairs.toNat - mismatch_count.toNat := by
    rw [pairRefs, List.filter_map, List.length_map, ← length_filter_le_range, ← hfilter]
    rfl
  rw [hlength]
  omega

theorem Reconciled.trueLabel (hfmt : rt.fmt.KeepsAmounts)
    (htypes : ∀ type ∈ mismatch_types, type ∈ MISMATCH_TYPES) (hrow : row ∈ rows) {label : Payload PyFloat}
    (hlabel : row.members = some label) : TrueLabel b.records label := by
  have hflow := h.withRef_flow hrow
  have hentries := h.withRef_entry hrow
  have hat := (h.located row hrow).entry
  cases (h.rowOf hrow).1.shaped hfmt htypes with
  | matched e hmismatch =>
    rw [Row.members, hmismatch] at hlabel
    cases hlabel
  | missing_leg hmismatch hentry =>
    rw [Row.members, hmismatch] at hlabel
    cases hlabel
    rw [hentry] at hentries
    exact .missing_leg (pairRef row.index) rfl rfl hentries
  | amount e hmismatch hentry hsame hamount hdate =>
    rw [Row.members, hmismatch] at hlabel
    cases hlabel
    rw [hentry] at hentries
    exact .amount (pairRef row.index) (row.start + 1) row.flow.record e.record rfl rfl rfl (hat e hentry) hflow
      hentries hsame hamount hdate
  | date e hmismatch hentry hsame hamount hdate =>
    rw [Row.members, hmismatch] at hlabel
    cases hlabel
    rw [hentry] at hentries
    exact .date (pairRef row.index) (row.start + 1) row.flow.record e.record rfl rfl rfl (hat e hentry) hflow
      hentries hsame hamount hdate

theorem Reconciled.unmatched (hfmt : rt.fmt.KeepsAmounts)
    (htypes : ∀ type ∈ mismatch_types, type ∈ MISMATCH_TYPES) :
    (rows.filterMap Row.members).map (stringAt "ref") =
      ((pairRefs pairs.toNat).filter fun ref => ¬Matched b.records ref).map some := by
  have hrefs : ∀ some_rows : List Row, (some_rows.filterMap Row.members).map (stringAt "ref") =
      (some_rows.filter fun row => row.mismatch.isSome).map fun row => some (pairRef row.index) := by
    intro some_rows
    induction some_rows with
    | nil => rfl
    | cons row some_rows ih =>
      cases hmismatch : row.mismatch with
      | none =>
        rw [List.filterMap_cons_none (by rw [Row.members, hmismatch]; rfl), List.filter_cons_of_neg (by simp [hmismatch]),
          ih]
      | some type =>
        rw [List.filterMap_cons_some (by rw [Row.members, hmismatch]; rfl), List.filter_cons_of_pos (by simp [hmismatch]),
          List.map_cons, List.map_cons, ih]
        rfl
  rw [hrefs, pairRefs, ← h.index, List.map_map, List.filter_map, List.map_map]
  have hsame : (rows.filter fun row => row.mismatch.isSome) =
      rows.filter ((fun ref => decide ¬Matched b.records ref) ∘ pairRef ∘ Row.index) := by
    apply List.filter_congr
    intro row hrow
    have hiff := h.matched_iff hfmt htypes hrow
    cases hmismatch : row.mismatch <;> simp [hiff, hmismatch]
  rw [hsame]
  rfl

end Reconciled

theorem ratio_bounds {x : PyFloat} {n : ℤ} (hn : 0 ≤ n ∧ n ≤ 2000)
    (hp : coerce_params rt.fmt (param_schema rt) params = .ok p) (hx : paramFloat p "mismatch_ratio" = .ok x)
    (hround : pyRound (.mul rt.fmt (.num n) x) = .ok mismatch_count) :
    ∃ ratio, x.val? = some ratio ∧ mismatch_count = roundHalfEven (rt.fmt.rnd (n * ratio)) ∧
      0 ≤ mismatch_count ∧ mismatch_count ≤ n := by
  have hspec : .float "mismatch_ratio" (rt.lit (15 / 100)) (rt.lit 0) (rt.lit 1) ∈ param_schema rt := by
    simp [param_schema]
  have hzero : (rt.lit 0).val? = some 0 := by rw [lit_zero]; simp
  have hone : (rt.lit 1).val? = some 1 := by rw [lit_one]; simp
  rcases paramFloat_cases (schema_nodup rt) (schema_wellFormed rt) hp hspec hzero hone hx
    with ⟨ratio, hratio, hlo, hhi, _⟩ | ⟨rfl, _⟩
  · have hn' : (0 : ℚ) ≤ n ∧ (n : ℚ) ≤ 2000 := by exact_mod_cast hn
    have hproduct0 : 0 ≤ n * ratio := mul_nonneg hn'.1 hlo
    have hproduct1 : n * ratio ≤ n := by nlinarith
    have hproduct : (PyFloat.mul rt.fmt (.num n) x).val? = some (rt.fmt.rnd (n * ratio)) := by
      simp only [PyFloat.mul, PyFloat.val?_num, hratio]
      refine PyFloat.val?_ofSigned (rt.fmt.overflows_eq_false_of_le (n := 2000) ?_ (by norm_num))
      rw [abs_of_nonneg hproduct0]
      exact_mod_cast hproduct1.trans hn'.2
    refine ⟨ratio, hratio, pyRound_eq hproduct hround, ?_⟩
    rw [pyRound_eq hproduct hround]
    have hint : rt.fmt.rnd n = n := rt.fmt.rnd_int n (by rw [abs_of_nonneg hn.1]; linarith [hn.2])
    have hmono := rt.fmt.rnd_mono hproduct1
    rw [hint] at hmono
    have hround1 := roundHalfEven_mono hmono
    rw [roundHalfEven_intCast] at hround1
    exact ⟨roundHalfEven_nonneg (rt.fmt.rnd_nonneg hproduct0), hround1⟩
  · cases hround

theorem val?_rate (fmt : FloatFormat) {matched n : ℤ} (hmatched : 0 ≤ matched ∧ matched ≤ n) (hn : 0 < n) :
    (roundPlaces fmt 4 (.ofRat fmt (matched / n))).val? =
      some (fmt.rnd ((roundHalfEven (fmt.rnd (matched / n) * 10 ^ 4) : ℚ) / 10 ^ 4)) := by
  have hn' : (0 : ℚ) < n := by exact_mod_cast hn
  have hrate0 : (0 : ℚ) ≤ matched / n := div_nonneg (by exact_mod_cast hmatched.1) hn'.le
  have hrate1 : (matched / n : ℚ) ≤ 1 := (div_le_one hn').mpr (by exact_mod_cast hmatched.2)
  have hfits : ∀ q : ℚ, 0 ≤ q → q ≤ 1 → fmt.overflows q = false := by
    intro q hlow hhigh
    refine fmt.overflows_eq_false_of_le (n := 1) ?_ (by norm_num)
    rw [abs_of_nonneg hlow]
    exact_mod_cast hhigh
  have hfloat0 := fmt.rnd_nonneg hrate0
  have hfloat1 := fmt.rnd_mono hrate1
  rw [fmt.rnd_one] at hfloat1
  have hround1 : roundHalfEven (fmt.rnd (matched / n) * 10 ^ 4) ≤ 10 ^ 4 := by
    have hmono := roundHalfEven_mono (show fmt.rnd (matched / n) * 10 ^ 4 ≤ ((10 ^ 4 : ℤ) : ℚ) by push_cast; linarith)
    rwa [roundHalfEven_intCast] at hmono
  have hround1' : (roundHalfEven (fmt.rnd (matched / n) * 10 ^ 4) : ℚ) ≤ 10 ^ 4 := by exact_mod_cast hround1
  have hround0' : (0 : ℚ) ≤ roundHalfEven (fmt.rnd (matched / n) * 10 ^ 4) := by
    exact_mod_cast roundHalfEven_nonneg (mul_nonneg hfloat0 (by norm_num))
  refine PyFloat.val?_roundPlaces 4 (PyFloat.val?_ofSigned (hfits _ hrate0 hrate1)) (hfits _ ?_ ?_)
  · exact div_nonneg hround0' (by norm_num)
  · exact (div_le_one (by norm_num)).mpr hround1'

/-- The manifest of every batch is an oracle for the matcher, in any arithmetic that keeps the amounts, as
that of doubles does. -/
theorem manifest_oracle (hfmt : rt.fmt.KeepsAmounts) {seed : ℤ}
    (hp : coerce_params rt.fmt (param_schema rt) params = .ok p)
    (hb : generate rt params seed target_label today = .ok b) :
    ∃ (pairs : ℕ) (x : PyFloat) (ratio : ℚ) (labels : List (Payload PyFloat)),
      paramInt p "pairs" = .ok (pairs : ℤ) ∧ paramFloat p "mismatch_ratio" = .ok x ∧ x.val? = some ratio ∧
      Oracle rt.fmt pairs ratio labels b := by
  obtain ⟨p', hp', pairs, mismatch_count, mismatch_types, account, rows, h⟩ := generate_reconciled hb
  cases hp.symm.trans hp'
  obtain ⟨x, hx, hround⟩ := h.count
  obtain ⟨hone, htwo⟩ := paramInt_bounds (schema_nodup rt) (schema_wellFormed rt) hp
    (show .int "pairs" 100 1 2000 ∈ param_schema rt by simp [param_schema]) h.param_pairs
  obtain ⟨_, htypes⟩ := paramTexts_options (schema_nodup rt) (schema_wellFormed rt) hp
    (show .multi "mismatch_types" MISMATCH_TYPES MISMATCH_TYPES ∈ param_schema rt by simp [param_schema])
    h.param_types
  obtain ⟨ratio, hratio, rfl, hnonneg, hle⟩ := ratio_bounds ⟨by omega, htwo⟩ hp hx hround
  have hpairs : (pairs.toNat : ℤ) = pairs := Int.toNat_of_nonneg (by omega)
  have hrow : ∀ ref ∈ pairRefs pairs.toNat, ∃ row ∈ rows, ref = pairRef row.index := by
    intro ref href
    obtain ⟨i, hi, rfl⟩ := List.mem_map.mp href
    obtain ⟨row, hrow, hof⟩ := exists_of_mem_left h.related hi
    exact ⟨row, hrow, congrArg pairRef hof.index.symm⟩
  have hcount := h.matchedCount hfmt htypes hnonneg hle
  have hcountRat : (((pairRefs pairs.toNat).filter fun ref => Matched b.records ref).length : ℚ) =
      ((pairs - roundHalfEven (rt.fmt.rnd (pairs * ratio)) : ℤ) : ℚ) := by exact_mod_cast hcount
  refine ⟨pairs.toNat, x, ratio, rows.filterMap Row.members, by rw [hpairs, h.param_pairs], hx, hratio, ?_⟩
  constructor
  · exact List.nodup_range.map pairRef_injective
  · intro ref href
    obtain ⟨row, hmem, rfl⟩ := hrow ref href
    rw [h.withRef_flow hmem, List.length_singleton]
  · intro ref href
    obtain ⟨row, hmem, rfl⟩ := hrow ref href
    rw [h.withRef_entry hmem, List.length_map]
    cases row.entry <;> simp
  · rw [hcount, ← Int.cast_natCast (R := ℚ), hpairs]
  · refine ⟨roundPlaces rt.fmt 4
      (.ofRat rt.fmt ((pairs - roundHalfEven (rt.fmt.rnd (pairs * ratio)) : ℤ) / pairs)), ?_, ?_⟩
    · rw [h.truth]
      rfl
    · rw [hcountRat, ← Int.cast_natCast (R := ℚ) pairs.toNat, hpairs]
      exact val?_rate rt.fmt ⟨by omega, by omega⟩ (by omega)
  · rw [h.truth, ← filterMap_label]
    rfl
  · exact h.unmatched hfmt htypes
  · intro label hlabel
    obtain ⟨row, hmem, hmembers⟩ := List.mem_filterMap.mp hlabel
    exact h.trueLabel hfmt htypes hmem hmembers

def fiftyPairs : Params := [("pairs", .int 50)]

def fiftyPairsBatch : GeneratedBatch :=
  (generate leastDraws fiftyPairs 42 "Société" newYear).toOption.getD ⟨[], [], "json"⟩

theorem fiftyPairs_oracle : generate leastDraws fiftyPairs 42 "Société" newYear = .ok fiftyPairsBatch ∧
    ∃ ratio labels, Oracle binary64 50 ratio labels fiftyPairsBatch ∧ roundHalfEven (Binary64.rnd (50 * ratio)) = 8 := by
  have hb : generate leastDraws fiftyPairs 42 "Société" newYear = .ok fiftyPairsBatch :=
    Raising.eq_ok_getD (by decide +kernel) _
  have hp : coerce_params leastDraws.fmt (param_schema leastDraws) fiftyPairs =
      .ok ((coerce_params leastDraws.fmt (param_schema leastDraws) fiftyPairs).toOption.getD []) :=
    Raising.eq_ok_getD (by decide +kernel) _
  have hfmt : leastDraws.fmt.KeepsAmounts := keepsAmounts_binary64
  obtain ⟨pairs, x, ratio, labels, hpairs, hx, hratio, horacle⟩ := manifest_oracle hfmt hp hb
  have hfifty : (paramInt ((coerce_params leastDraws.fmt (param_schema leastDraws) fiftyPairs).toOption.getD [])
      "pairs").toOption = some 50 := by decide +kernel
  have height : ((paramFloat ((coerce_params leastDraws.fmt (param_schema leastDraws) fiftyPairs).toOption.getD [])
      "mismatch_ratio").toOption.bind PyFloat.val?).map (fun q => roundHalfEven (Binary64.rnd (50 * q))) = some 8 := by
    decide +kernel
  rw [hpairs] at hfifty
  rw [hx] at height
  cases Int.ofNat_inj.mp (Option.some.inj hfifty)
  refine ⟨hb, ratio, labels, horacle, ?_⟩
  simpa [Except.toOption, hratio] using height

end FinhubReconciliation
end AtlasConnectors
