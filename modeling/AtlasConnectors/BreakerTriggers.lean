import AtlasConnectors.AnomalyLabels

/-! The triggers of the circuit breaker preset against its records: which records they name, and how
these stand out from the baseline. -/
namespace AtlasConnectors
namespace FinhubCircuitBreaker

open Raising NumberText FinhubAnomaly

def Unknown (r : SimRecord) : Prop :=
  ∃ name, textAt "counterparty" r.2 = some name ∧ name ∉ COUNTERPARTIES

def AmountIn (lo hi : ℚ) (r : SimRecord) : Prop := ∃ x, amountOf r = some x ∧ lo ≤ x ∧ x ≤ hi

def BookedAt (day : Date) (second : ℕ) (r : SimRecord) : Prop :=
  ∃ t : DateTime, textAt "booked_at" r.2 = some t.isoformat ∧ t.date = day ∧ t.secondOfDay = second

/-- An ordinary payment of the last month, before today. -/
structure Ordinary (today : Date) (r : SimRecord) : Prop where
  known : ∃ name ∈ COUNTERPARTIES, textAt "counterparty" r.2 = some name
  amount : AmountIn (-5000) (-200) r
  earlier : ∃ d, textAt "value_date" r.2 = some d.isoformat ∧ Recent today 30 d ∧ d ≠ today

/-- The records that a pattern is made of. -/
inductive Pattern (today : Date) : String → List SimRecord → Prop
  | large_transfer (r : SimRecord) (hamount : textAt "amount" r.2 = some "-500000.00")
      (hbooked : BookedAt today 51120 r) : Pattern today "large_transfer" [r]
  | rapid_sequence (rs : List SimRecord) (hamount : ∀ r ∈ rs, AmountIn (-20000) (-8000) r)
      (hbooked : List.Forall₂ (fun s r => BookedAt today (51000 + 14 * s) r) (List.range 8) rs) :
      Pattern today "rapid_sequence" rs

/-- The manifest names the records of the pattern, and no others. -/
structure ExactTriggers (today : Date) (pattern : String) (score : PyFloat) (b : GeneratedBatch) : Prop where
  truth : b.ground_truth = [("expected_freeze", .bool true), ("target_risk_score", .float score),
    ("trigger_pattern", .str pattern), ("trigger_records",
      .arr ((List.range' 11 (b.records.length - 11)).map fun i => .obj [("record_index", .int (i : ℕ))]))]
  named : ∀ (i : ℕ) r, b.records[i]? = some r → (11 ≤ i ↔ Unknown r)
  ordinary : ∀ (i : ℕ) r, b.records[i]? = some r → 1 ≤ i → i < 11 → Ordinary today r
  pattern : Pattern today pattern (b.records.drop 11)

variable {rt : PyRuntime} {params p : Params} {seed : ℤ} {target_label : String} {today : Date}
  {account : SimBankAccount} {b : GeneratedBatch}

theorem amountIn_of_debit {f : SimCashFlow} {x : PyFloat} {lo hi : ℤ} {r : ℚ} (hf : f.amount.1 = money x.neg)
    (hx : x.val? = some r) (hlo : (lo : ℚ) ≤ r) (hhi : r ≤ hi) : AmountIn (-hi) (-lo) f.record := by
  have hneg := PyFloat.val?_neg hx
  refine ⟨roundCents (-r), amountOf_money hf hneg, ?_, ?_⟩
  · have hmono := roundCents_mono (show ((-hi : ℤ) : ℚ) ≤ -r by push_cast; linarith)
    rw [roundCents_intCast] at hmono
    exact_mod_cast hmono
  · have hmono := roundCents_mono (show -r ≤ ((-lo : ℤ) : ℚ) by push_cast; linarith)
    rw [roundCents_intCast] at hmono
    exact_mod_cast hmono

theorem ensures_ordinary (today : Date) (account : SimBankAccount) (i : ℕ) :
    Ensures (baselineFlow today account i : Gen rt SimCashFlow) fun f => Ordinary today f.record := by
  refine (PyRuntime.ensures_randint (by norm_num)).bind fun days hrange => ?_
  refine (PyRuntime.ensures_shiftDate today (-days)).bind fun day hday => ?_
  have hamounts : Ensures (uniformInt 200 5000 : Gen rt PyFloat) fun x => ∃ q, x.val? = some q ∧
      ((200 : ℤ) : ℚ) ≤ q ∧ q ≤ (5000 : ℤ) := PyRuntime.ensures_uniform rfl rfl (by norm_num)
  refine hamounts.bind fun amount ⟨q, hq, hlo, hhi⟩ => Ensures.bind' fun hour => Ensures.bind' fun booked_at => ?_
  refine (PyRuntime.ensures_choice COUNTERPARTIES).bind fun counterparty hname => ?_
  refine Ensures.fromExcept fun f hf => ?_
  obtain ⟨_, _, _, rfl⟩ := SimCashFlow.create_eq hf
  refine ⟨⟨counterparty, hname, rfl⟩, amountIn_of_debit rfl hq hlo hhi, day, rfl,
    recent_of_shift hday (by omega) (by omega), ?_⟩
  rintro rfl
  have hordinal := Date.shift_toOrdinal hday
  omega

theorem not_mem_COUNTERPARTIES (name : String) : "Bénéficiaire inconnu " ++ name ∉ COUNTERPARTIES := by
  intro hmem
  have hheads : ∀ known ∈ COUNTERPARTIES, known.toList.head? ≠ some 'B' := by decide
  apply hheads _ hmem
  simp

theorem unknown_record {f : SimCashFlow} {name : String} (h : f.counterparty = "Bénéficiaire inconnu " ++ name) :
    Unknown f.record :=
  ⟨f.counterparty, rfl, h ▸ not_mem_COUNTERPARTIES name⟩

theorem bookedAt_record {f : SimCashFlow} {t : DateTime} (h : f.booked_at = some t) :
    BookedAt t.date t.secondOfDay f.record :=
  ⟨t, by rw [textAt_booked_at, h]; rfl, rfl, rfl⟩

theorem addSeconds_secondOfDay {t u : DateTime} {n : ℕ} (h : t.addSeconds n = some u)
    (hn : t.secondOfDay + n < 86400) : u.date = t.date ∧ u.secondOfDay = t.secondOfDay + n := by
  have hdays : t.date.addDays ((t.secondOfDay + n) / 86400) = some t.date := by
    rw [Nat.div_eq_of_lt hn]
    rfl
  simp only [DateTime.addSeconds, hdays, Option.map_some] at h
  cases h
  refine ⟨rfl, ?_⟩
  simp only [DateTime.secondOfDay] at hn ⊢
  omega

/-- The records of the pattern, each to the unknown beneficiary. -/
structure Triggering (today : Date) (pattern : String) (flows : List SimCashFlow) : Prop where
  unknown : ∀ f ∈ flows, Unknown f.record
  pattern : Pattern today pattern (flows.map SimCashFlow.record)

theorem ensures_large (today : Date) (account : SimBankAccount) (first_seen_iban : String) :
    Ensures (largeTransfer today account first_seen_iban : Gen rt SimCashFlow) fun f =>
      Unknown f.record ∧ textAt "amount" f.record.2 = some "-500000.00" ∧ BookedAt today 51120 f.record := by
  refine (PyRuntime.ensures_datetime today 14 12).bind fun t ht => Ensures.fromExcept fun f hf => ?_
  obtain ⟨_, _, _, rfl⟩ := SimCashFlow.create_eq hf
  obtain ⟨hdate, hhour, hminute, hsecond⟩ := at?_fields ht
  have hday : t.secondOfDay = 51120 := by
    rw [DateTime.secondOfDay]
    omega
  refine ⟨unknown_record rfl, ?_, ?_⟩
  · have htext : money LARGE_TRANSFER_EUR.neg = "-500000.00" := by decide +kernel
    exact congrArg some htext
  · rw [← hdate, ← hday]
    exact bookedAt_record rfl

theorem ensures_rapid (account : SimBankAccount) (first_seen_iban : String) {base_time : DateTime}
    (hdate : base_time.date = today) (hbase : base_time.secondOfDay = 51000) {s : ℕ} (hs : s < 8) :
    Ensures (rapidTransfer today account first_seen_iban base_time s : Gen rt SimCashFlow) fun f =>
      Unknown f.record ∧ AmountIn (-20000) (-8000) f.record ∧ BookedAt today (51000 + 14 * s) f.record := by
  have hamounts : Ensures (uniformInt 8000 20000 : Gen rt PyFloat) fun x => ∃ q, x.val? = some q ∧
      ((8000 : ℤ) : ℚ) ≤ q ∧ q ≤ (20000 : ℤ) := PyRuntime.ensures_uniform rfl rfl (by norm_num)
  refine hamounts.bind fun amount ⟨q, hq, hlo, hhi⟩ => ?_
  refine (PyRuntime.ensures_addSeconds base_time (14 * s)).bind fun t ht => Ensures.fromExcept fun f hf => ?_
  obtain ⟨_, _, _, rfl⟩ := SimCashFlow.create_eq hf
  obtain ⟨htdate, hsecond⟩ := addSeconds_secondOfDay ht (by omega)
  refine ⟨unknown_record rfl, amountIn_of_debit rfl hq hlo hhi, ?_⟩
  rw [← hdate, ← hbase, ← htdate, ← hsecond]
  exact bookedAt_record rfl

theorem ensures_triggering (today : Date) (account : SimBankAccount) (first_seen_iban : String) {pattern : String}
    (hpattern : pattern ∈ ["large_transfer", "rapid_sequence"]) :
    Ensures (triggers today account first_seen_iban pattern : Gen rt (List SimCashFlow))
      (Triggering today pattern) := by
  unfold triggers
  by_cases hlarge : pattern = "large_transfer"
  · rw [if_pos hlarge, hlarge]
    refine (ensures_large today account first_seen_iban).bind fun f ⟨hunknown, hamount, hbooked⟩ => Ensures.pure ?_
    exact ⟨fun g hg => List.mem_singleton.mp hg ▸ hunknown, .large_transfer _ hamount hbooked⟩
  · have hrapid : pattern = "rapid_sequence" := by simpa [hlarge] using hpattern
    rw [if_neg hlarge, hrapid]
    refine (PyRuntime.ensures_datetime today 14 10).bind fun base_time ht => ?_
    obtain ⟨hdate, hhour, hminute, hsecond⟩ := at?_fields ht
    have hbase : base_time.secondOfDay = 51000 := by
      rw [DateTime.secondOfDay]
      omega
    refine (Ensures.mapM fun s hs => ensures_rapid account first_seen_iban hdate hbase
      (List.mem_range.mp hs)).mono fun flows hflows => ⟨?_, .rapid_sequence _ ?_ ?_⟩
    · intro f hf
      obtain ⟨_, _, hunknown, _⟩ := exists_of_mem_right hflows hf
      exact hunknown
    · intro r hr
      obtain ⟨f, hf, rfl⟩ := List.mem_map.mp hr
      obtain ⟨_, _, _, hamount, _⟩ := exists_of_mem_right hflows hf
      exact hamount
    · rw [List.forall₂_map_right_iff]
      exact hflows.imp fun _ _ h => h.2.2

theorem Ordinary.not_unknown {r : SimRecord} (h : Ordinary today r) : ¬Unknown r := by
  rintro ⟨name, hname, hnot⟩
  obtain ⟨known, hknown, heq⟩ := h.known
  rw [hname] at heq
  exact hnot (Option.some.inj heq ▸ hknown)

theorem account_not_unknown (account : SimBankAccount) : ¬Unknown account.record := by
  rintro ⟨name, hname, _⟩
  cases hname

theorem exactTriggers_of_parts {pattern : String} {score : PyFloat} {baseline flows : List SimCashFlow}
    (hlength : baseline.length = 10) (hbaseline : ∀ f ∈ baseline, Ordinary today f.record)
    (hflows : Triggering today pattern flows)
    (hrecords : b.records = (account.record :: baseline.map SimCashFlow.record) ++ flows.map SimCashFlow.record)
    (htruth : b.ground_truth = [("expected_freeze", .bool true), ("target_risk_score", .float score),
      ("trigger_pattern", .str pattern), ("trigger_records", .arr ((List.range flows.length).map fun s =>
        .obj [("record_index", .int ((account.record :: baseline.map SimCashFlow.record).length + s))]))]) :
    ExactTriggers today pattern score b := by
  have hfirst : (account.record :: baseline.map SimCashFlow.record).length = 11 := by simp [hlength]
  have hordinary : ∀ (i : ℕ) r, b.records[i]? = some r → 1 ≤ i → i < 11 → Ordinary today r := by
    intro i r hr hlo hhi
    obtain ⟨j, rfl⟩ := Nat.exists_eq_add_of_le' hlo
    rw [hrecords, List.getElem?_append_left (by omega), List.getElem?_cons_succ, List.getElem?_map,
      Option.map_eq_some_iff] at hr
    obtain ⟨f, hf, rfl⟩ := hr
    exact hbaseline f (List.mem_of_getElem? hf)
  constructor
  · have hcount : b.records.length - 11 = flows.length := by
      rw [hrecords, List.length_append, hfirst, List.length_map, Nat.add_sub_cancel_left]
    rw [htruth, map_cast_range, hfirst, hcount, List.range'_eq_map_range, List.map_map]
    rfl
  · intro i r hr
    constructor
    · intro hi
      rw [hrecords, List.getElem?_append_right (by omega), List.getElem?_map, Option.map_eq_some_iff] at hr
      obtain ⟨f, hf, rfl⟩ := hr
      exact hflows.unknown f (List.mem_of_getElem? hf)
    · intro hunknown
      by_contra hi
      rcases Nat.eq_zero_or_pos i with rfl | hpos
      · rw [hrecords] at hr
        cases hr
        exact account_not_unknown account hunknown
      · exact (hordinary i r hr hpos (by omega)).not_unknown hunknown
  · exact hordinary
  · rw [hrecords, List.drop_left' hfirst]
    exact hflows.pattern

theorem ensures_exact (hp : coerce_params rt.fmt (param_schema rt) params = .ok p) (target_label : String)
    (today : Date) : Ensures (batch p target_label today : Gen rt GeneratedBatch) fun b => ∃ pattern score,
      paramText p "trigger_pattern" = .ok pattern ∧ paramFloat p "target_risk_score" = .ok score ∧
        ExactTriggers today pattern score b := by
  refine Ensures.bind (Ensures.fromExcept fun _ h => h) fun pattern hpattern => ?_
  have hoption := paramText_mem (schema_nodup rt) (schema_wellFormed rt) hp
    (show .enum "trigger_pattern" "large_transfer" ["large_transfer", "rapid_sequence"] ∈ param_schema rt by
      simp [param_schema]) hpattern
  refine Ensures.bind' fun iban => Ensures.bind' fun balance => Ensures.bind' fun account => ?_
  refine (Ensures.mapM fun i _ => ensures_ordinary today account i).bind fun baseline hbaseline => ?_
  refine Ensures.bind' fun first_seen_iban => ?_
  refine (ensures_triggering today account first_seen_iban hoption).bind fun flows hflows => ?_
  refine Ensures.bind (Ensures.fromExcept fun _ h => h) fun score hscore => Ensures.pure ?_
  refine ⟨pattern, score, hpattern, hscore, exactTriggers_of_parts ?_ ?_ hflows rfl rfl⟩
  · exact hbaseline.length_eq ▸ rfl
  · intro f hf
    obtain ⟨_, _, hordinary⟩ := exists_of_mem_right hbaseline hf
    exact hordinary

/-- The manifest of every batch names exactly the transfers to the unknown beneficiary, and these make
the pattern that was asked for. -/
theorem triggers_exact (hp : coerce_params rt.fmt (param_schema rt) params = .ok p)
    (hb : generate rt params seed target_label today = .ok b) : ∃ pattern score,
      paramText p "trigger_pattern" = .ok pattern ∧ paramFloat p "target_risk_score" = .ok score ∧
        ExactTriggers today pattern score b := by
  refine generateWith_ensures (P := fun b => ∃ pattern score, paramText p "trigger_pattern" = .ok pattern ∧
    paramFloat p "target_risk_score" = .ok score ∧ ExactTriggers today pattern score b) (fun p' hp' => ?_) hb
  cases hp.symm.trans hp'
  exact ensures_exact hp target_label today

def rapidParams : Params := [("trigger_pattern", .str "rapid_sequence")]

def rapidBatch : GeneratedBatch :=
  (generate leastDraws rapidParams 42 "Société" newYear).toOption.getD ⟨[], [], "json"⟩

theorem rapid_triggers : generate leastDraws rapidParams 42 "Société" newYear = .ok rapidBatch ∧
    ∃ score, ExactTriggers newYear "rapid_sequence" score rapidBatch := by
  have hb : generate leastDraws rapidParams 42 "Société" newYear = .ok rapidBatch :=
    Raising.eq_ok_getD (by decide +kernel) _
  have hp : coerce_params leastDraws.fmt (param_schema leastDraws) rapidParams =
      .ok ((coerce_params leastDraws.fmt (param_schema leastDraws) rapidParams).toOption.getD []) :=
    Raising.eq_ok_getD (by decide +kernel) _
  obtain ⟨pattern, score, hpattern, _, hexact⟩ := triggers_exact hp hb
  have hrapid : (paramText ((coerce_params leastDraws.fmt (param_schema leastDraws) rapidParams).toOption.getD [])
      "trigger_pattern").toOption = some "rapid_sequence" := by decide +kernel
  rw [hpattern] at hrapid
  cases hrapid
  exact ⟨hb, score, hexact⟩

end FinhubCircuitBreaker
end AtlasConnectors
