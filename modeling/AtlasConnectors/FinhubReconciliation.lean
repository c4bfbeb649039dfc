import AtlasConnectors.Ledger

/-! `finhub.reconciliation.v1`: bank flows and ERP entries in pairs, some of them broken. -/
namespace AtlasConnectors
namespace FinhubReconciliation

open Raising

def MISMATCH_TYPES : List String := ["amount", "date", "missing_leg"]

variable {rt : PyRuntime}

def param_schema (rt : PyRuntime) : List ParamSpec :=
  [.int "pairs" 100 1 2000, .float "mismatch_ratio" (rt.lit (15 / 100)) (rt.lit 0) (rt.lit 1),
    .multi "mismatch_types" MISMATCH_TYPES MISMATCH_TYPES]

/-- What the loop carries from one pair to the next. -/
structure Progress where
  records : List SimRecord
  mismatched_pairs : List (Json PyFloat)

/-- The ERP leg's amount and date of a pair with a mismatch, if any. -/
def erpLeg (mismatch : Option String) (amount : PyFloat) (day : Date) : Gen rt (PyFloat × Date) :=
  match mismatch with
  | some "amount" => do
    let delta ← PyRuntime.uniform (.num 1) (.num 50)
    pure (.neg (.add rt.fmt amount delta), day)
  | some "date" => do
    let later ← PyRuntime.shiftDate day 3
    pure (.neg amount, later)
  | _ => pure (.neg amount, day)

def mismatchOf (mismatch_types : List String) (mismatch_count : ℤ) (i : ℕ) :
    Except PyExc (Option String) :=
  if i < mismatch_count then (cycled mismatch_types i).map some else .ok none

/-- The loop body: one bank flow and, unless its leg is missing, its ERP entry. -/
def pair (today : Date) (account : SimBankAccount) (mismatch_types : List String)
    (mismatch_count : ℤ) (acc : Progress) (i : ℕ) : Gen rt Progress := do
  let ref := "RECON-" ++ NumberText.zfill 5 i
  let amount ← uniformInt 100 20000
  let days ← PyRuntime.randint 0 29
  let day ← PyRuntime.shiftDate today (-days)
  let counterparty ← PyRuntime.choice COUNTERPARTIES
  let flow ← fromExcept (SimCashFlow.create account.iban (money amount.neg) "EUR" day none .debit
    counterparty ("Règlement " ++ counterparty) (some ref) none)
  let records := acc.records ++ [flow.record]
  let mismatch ← fromExcept (mismatchOf mismatch_types mismatch_count i)
  if mismatch = some "missing_leg" then
    pure { records := records, mismatched_pairs := acc.mismatched_pairs ++
      [.obj [("ref", .str ref), ("type", .str "missing_leg")]] }
  else
    let (erp_amount, erp_date) ← erpLeg mismatch amount day
    let entry ← fromExcept (SimErpEntry.create ref (money erp_amount) "EUR" erp_date
      ("Écriture " ++ counterparty) (some account.iban))
    pure {
      records := records ++ [entry.record]
      mismatched_pairs := match mismatch with
        | some type => acc.mismatched_pairs ++ [.obj [("ref", .str ref), ("type", .str type),
            ("record_index", .int records.length)]]
        | none => acc.mismatched_pairs }

def batch (p : Params) (target_label : String) (today : Date) : Gen rt GeneratedBatch := do
  let pairs ← fromExcept (paramInt p "pairs")
  let mismatch_types ← fromExcept (paramTexts p "mismatch_types")
  let ratio ← fromExcept (paramFloat p "mismatch_ratio")
  let mismatch_count ← fromExcept (pyRound (.mul rt.fmt (.num pairs) ratio))
  let iban ← test_iban
  let balance ← uniformInt 50000 300000
  let account ← fromExcept (SimBankAccount.create iban "Compte courant 1" "EUR"
    (entity_label target_label 0) (money balance))
  let acc ← (List.range pairs.toNat).foldlM (pair today account mismatch_types mismatch_count)
    ⟨[account.record], []⟩
  if pairs = 0 then
    throw .zeroDivisionError
  pure {
    records := acc.records
    ground_truth := [("expected_auto_match_rate",
        .float (roundPlaces rt.fmt 4 (.ofRat rt.fmt ((pairs - mismatch_count : ℤ) / pairs)))),
      ("mismatched_pairs", .arr acc.mismatched_pairs)]
    source_format := "json" }

def generate (rt : PyRuntime) (params : Params) (seed : ℤ) (target_label : String) (today : Date) :
    Except PyExc GeneratedBatch :=
  generateWith rt (param_schema rt) (fun p => batch p target_label today) params seed

def generator (rt : PyRuntime) : PresetGenerator where
  preset_id := "finhub.reconciliation.v1"
  moduleName := "AtlasFinhub"
  feature := "reconciliation"
  label := "Rapprochement banque/ERP"
  description := "Paires flux bancaire + écriture ERP partageant réf/montant/date, avec une part " ++
    "de désaccords contrôlés — taux d'auto-rapprochement et exceptions vérifiables."
  phase := 1
  param_schema := param_schema rt
  generate := generate rt

theorem schema_nodup (rt : PyRuntime) : ((param_schema rt).map ParamSpec.name).Nodup := by
  simp [param_schema, ParamSpec.int, ParamSpec.float, ParamSpec.multi]

theorem schema_wellFormed (rt : PyRuntime) : ∀ spec ∈ param_schema rt, WellFormed spec := by
  simp only [param_schema, List.forall_mem_cons, List.not_mem_nil, IsEmpty.forall_iff, implies_true,
    and_true]
  refine ⟨.int (by norm_num) (by norm_num), ?_, .multi (by simp [MISMATCH_TYPES]) (by simp)⟩
  exact wellFormed_float rt (n := 1) (by norm_num) (by norm_num) (by norm_num) (by norm_num) (by norm_num)

def pairRef (i : ℕ) : String := "RECON-" ++ NumberText.zfill 5 i

/-- The ERP leg of a bank flow of `-amount`, by its mismatch. -/
inductive Leg (rt : PyRuntime) (amount : PyFloat) (day : Date) : Option String → PyFloat × Date → Prop
  | amount (delta : PyFloat) (q : ℚ) (hq : delta.val? = some q) (hlo : 1 ≤ q) (hhi : q ≤ 50) :
      Leg rt amount day (some "amount") (.neg (.add rt.fmt amount delta), day)
  | date (later : Date) (h : day.shift 3 = some later) :
      Leg rt amount day (some "date") (.neg amount, later)
  | same (mismatch : Option String) (hamount : mismatch ≠ some "amount")
      (hdate : mismatch ≠ some "date") : Leg rt amount day mismatch (.neg amount, day)

theorem ensures_erpLeg (mismatch : Option String) (amount : PyFloat) (day : Date) :
    Ensures (erpLeg mismatch amount day : Gen rt (PyFloat × Date)) (Leg rt amount day mismatch) := by
  unfold erpLeg
  split
  · have hdelta : Ensures (PyRuntime.uniform (.num 1) (.num 50) : Gen rt PyFloat) fun x =>
        ∃ q, x.val? = some q ∧ 1 ≤ q ∧ q ≤ 50 :=
      PyRuntime.ensures_uniform rfl rfl (by norm_num)
    refine hdelta.bind fun delta hdelta => Ensures.pure ?_
    obtain ⟨q, hq, hlo, hhi⟩ := hdelta
    exact .amount delta q hq hlo hhi
  · exact (PyRuntime.ensures_shiftDate day 3).bind fun later h => Ensures.pure (.date later h)
  · rename_i hamount hdate
    exact Ensures.pure (.same mismatch hamount hdate)

theorem Leg.isFinite {amount : PyFloat} {day : Date} {mismatch : Option String} {leg : PyFloat × Date}
    (h : Leg rt amount day mismatch leg) (hamount : amount.Within (20000 : ℕ)) : IsFinite leg.1 := by
  cases h with
  | amount delta q hq hlo hhi =>
    have hdelta : delta.Within (50 : ℕ) :=
      ⟨q, hq, abs_le.mpr ⟨by push_cast; linarith, by exact_mod_cast hhi⟩⟩
    exact isFinite_of_within (hamount.add hdelta (n := 20050) (by norm_num) (by norm_num)).neg
  | date later _ => exact isFinite_of_within hamount.neg
  | same _ _ _ => exact isFinite_of_within hamount.neg

/-- What the loop adds for one pair, and the index at which it starts. -/
structure Row where
  index : ℕ
  start : ℕ
  mismatch : Option String
  flow : SimCashFlow
  entry : Option SimErpEntry

namespace Row

def records (row : Row) : List SimRecord := row.flow.record :: (row.entry.map SimErpEntry.record).toList

def label (row : Row) : Option (Json PyFloat) :=
  row.mismatch.map fun type => .obj (("ref", .str (pairRef row.index)) :: ("type", .str type) ::
    if type = "missing_leg" then [] else [("record_index", .int (row.start + 1 : ℕ))])

end Row

/-- The row of pair `i`: its flow, and by its mismatch the entry. -/
structure RowOf (rt : PyRuntime) (today : Date) (account : SimBankAccount) (mismatch_types : List String)
    (mismatch_count : ℤ) (i : ℕ) (row : Row) : Prop where
  index : row.index = i
  mismatch : mismatchOf mismatch_types mismatch_count i = .ok row.mismatch
  ref : row.flow.ref = some (pairRef i)
  posted : Posted today 30 account row.flow
  missing : row.mismatch = some "missing_leg" → row.entry = none
  exists_amount : ∃ amount, amount.Within (20000 : ℕ) ∧ row.flow.amount.1 = money amount.neg ∧
    (row.mismatch ≠ some "missing_leg" → ∃ entry leg, row.entry = some entry ∧
      Leg rt amount row.flow.value_date row.mismatch leg ∧ entry.ref = pairRef i ∧
      entry.amount.1 = money leg.1 ∧ entry.entry_date = leg.2 ∧ Entered account entry)

structure Located (records : List SimRecord) (row : Row) : Prop where
  flow : records[row.start]? = some row.flow.record
  entry : ∀ e, row.entry = some e → records[row.start + 1]? = some e.record

theorem Located.append {records : List SimRecord} {row : Row} (h : Located records row)
    (more : List SimRecord) : Located (records ++ more) row := by
  constructor
  · rw [List.getElem?_append_left (List.getElem?_eq_some_iff.mp h.flow).1]
    exact h.flow
  · intro e he
    rw [List.getElem?_append_left (List.getElem?_eq_some_iff.mp (h.entry e he)).1]
    exact h.entry e he

theorem located_last {records : List SimRecord} {row : Row} (h : row.start = records.length) :
    Located (records ++ row.records) row := by
  constructor
  · simp [h, Row.records]
  · intro e he
    simp [h, Row.records, he]

/-- The loop's invariant: one row for each pair so far, and the labels of their mismatches. -/
structure Reconciling (rt : PyRuntime) (today : Date) (account : SimBankAccount)
    (mismatch_types : List String) (mismatch_count : ℤ) (is : List ℕ) (rows : List Row)
    (acc : Progress) : Prop where
  related : List.Forall₂ (RowOf rt today account mismatch_types mismatch_count) is rows
  records : acc.records = account.record :: rows.flatMap Row.records
  located : ∀ row ∈ rows, Located acc.records row
  mismatched_pairs : acc.mismatched_pairs = rows.filterMap Row.label

section Pair

variable {today : Date} {account : SimBankAccount} {mismatch_types : List String} {mismatch_count : ℤ}
  {is : List ℕ} {rows : List Row} {acc : Progress}

theorem Reconciling.snoc (h : Reconciling rt today account mismatch_types mismatch_count is rows acc)
    {i : ℕ} {row : Row} (hrow : RowOf rt today account mismatch_types mismatch_count i row)
    (hstart : row.start = acc.records.length) {out : Progress}
    (hrecords : out.records = acc.records ++ row.records)
    (hlabels : out.mismatched_pairs = acc.mismatched_pairs ++ row.label.toList) :
    Reconciling rt today account mismatch_types mismatch_count (is ++ [i]) (rows ++ [row]) out := by
  refine ⟨List.rel_append h.related (.cons hrow .nil), ?_, ?_, ?_⟩
  · simp [hrecords, h.records]
  · intro other hother
    rw [hrecords]
    rcases List.mem_append.mp hother with hother | hother
    · exact (h.located other hother).append row.records
    · rw [List.mem_singleton.mp hother]
      exact located_last hstart
  · rw [hlabels, h.mismatched_pairs, List.filterMap_append]
    cases hlabel : row.label <;> simp [hlabel]

theorem ensures_pair (hcurrency : account.currency.1 = "EUR") (i : ℕ)
    (h : Reconciling rt today account mismatch_types mismatch_count is rows acc) :
    Ensures (pair today account mismatch_types mismatch_count acc i : Gen rt Progress) fun out =>
      ∃ rows, Reconciling rt today account mismatch_types mismatch_count (is ++ [i]) rows out := by
  refine ((ensures_uniformInt (n := 20000) (by norm_num) (by norm_num)).and
    (ensures_uniformInt_nonneg (by norm_num) (by norm_num))).bind fun amount ⟨hamount, hpos⟩ => ?_
  refine (PyRuntime.ensures_randint (by norm_num)).bind fun days hrange => ?_
  refine (PyRuntime.ensures_shiftDate today (-days)).bind fun day hday => ?_
  refine Ensures.bind' fun counterparty => ?_
  refine Ensures.bind (Ensures.fromExcept fun f hf => SimCashFlow.create_eq hf) fun flow hflow => ?_
  obtain ⟨q, hq, hallows⟩ := debit_allows hpos
  have hposted : Posted today 30 account flow ∧ flow.ref = some (pairRef i) ∧
      flow.amount.1 = money amount.neg ∧ flow.value_date = day := by
    obtain ⟨_, _, _, rfl⟩ := hflow
    refine ⟨?_, rfl, rfl, rfl⟩
    exact {
      account_iban := rfl
      currency := hcurrency.symm
      amount := ⟨_, q, rfl, hq, hallows⟩
      value_date := recent_of_shift hday hrange.1 (by omega)
      booked_at := by simp }
  obtain ⟨hposted, href, htext, hdate⟩ := hposted
  refine Ensures.bind (Ensures.fromExcept fun _ h => h) fun mismatch hmismatch => ?_
  dsimp only
  split_ifs with hmissing
  · refine Ensures.pure ⟨rows ++ [⟨i, acc.records.length, mismatch, flow, none⟩], h.snoc ?_ rfl ?_ ?_⟩
    · exact ⟨rfl, hmismatch, href, hposted, fun _ => rfl,
        ⟨amount, hamount, htext, fun hne => absurd hmissing hne⟩⟩
    · simp [Row.records]
    · simp [Row.label, hmissing, pairRef]
  · refine (ensures_erpLeg mismatch amount day).bind fun leg hleg => ?_
    refine Ensures.bind (Ensures.fromExcept fun e he => SimErpEntry.create_eq he) fun entry hentry => ?_
    have hentered : entry.ref = pairRef i ∧ entry.amount.1 = money leg.1 ∧ entry.entry_date = leg.2 ∧
        Entered account entry := by
      obtain ⟨_, _, rfl⟩ := hentry
      exact ⟨rfl, rfl, rfl, rfl, hcurrency.symm, leg.1, rfl, hleg.isFinite hamount⟩
    rw [← hdate] at hleg
    refine Ensures.pure ⟨rows ++ [⟨i, acc.records.length, mismatch, flow, some entry⟩], h.snoc ?_ rfl ?_ ?_⟩
    · exact ⟨rfl, hmismatch, href, hposted, fun hleg => absurd hleg hmissing, amount, hamount, htext,
        fun _ => ⟨entry, leg, rfl, hleg, hentered⟩⟩
    · simp [Row.records]
    · cases mismatch with
      | none => simp [Row.label]
      | some type =>
        have htype : type ≠ "missing_leg" := fun heq => hmissing (congrArg some heq)
        simp [Row.label, htype, pairRef]

end Pair

/-- The batch of coerced parameters: the account, then the rows, and the manifest of their mismatches. -/
structure Reconciled (rt : PyRuntime) (p : Params) (today : Date) (pairs mismatch_count : ℤ)
    (mismatch_types : List String) (account : SimBankAccount) (rows : List Row) (b : GeneratedBatch) :
    Prop where
  param_pairs : paramInt p "pairs" = .ok pairs
  param_types : paramTexts p "mismatch_types" = .ok mismatch_types
  count : ∃ ratio, paramFloat p "mismatch_ratio" = .ok ratio ∧
    pyRound (.mul rt.fmt (.num pairs) ratio) = .ok mismatch_count
  balance : ∃ x, account.balance.1 = money x ∧ IsFinite x
  related : List.Forall₂ (RowOf rt today account mismatch_types mismatch_count)
    (List.range pairs.toNat) rows
  records : b.records = account.record :: rows.flatMap Row.records
  located : ∀ row ∈ rows, Located b.records row
  truth : b.ground_truth = [("expected_auto_match_rate",
      .float (roundPlaces rt.fmt 4 (.ofRat rt.fmt ((pairs - mismatch_count : ℤ) / pairs)))),
    ("mismatched_pairs", .arr (rows.filterMap Row.label))]

theorem ensures_batch (p : Params) (target_label : String) (today : Date) :
    Ensures (batch p target_label today : Gen rt GeneratedBatch) fun b =>
      ∃ pairs mismatch_count mismatch_types account rows,
        Reconciled rt p today pairs mismatch_count mismatch_types account rows b := by
  refine Ensures.bind (Ensures.fromExcept fun _ h => h) fun pairs hpairs => ?_
  refine Ensures.bind (Ensures.fromExcept fun _ h => h) fun mismatch_types htypes => ?_
  refine Ensures.bind (Ensures.fromExcept fun _ h => h) fun ratio hratio => ?_
  refine Ensures.bind (Ensures.fromExcept fun _ h => h) fun mismatch_count hcount => ?_
  refine Ensures.bind' fun iban => ?_
  refine (ensures_uniformInt (n := 300000) (by norm_num) (by norm_num)).bind fun x hx => ?_
  refine Ensures.bind (Ensures.fromExcept fun a ha => SimBankAccount.create_ok ha) fun a ha => ?_
  refine Ensures.bind (Ensures.foldlM (I := fun is acc => ∃ rows,
    Reconciling rt today a mismatch_types mismatch_count is rows acc) ?_ ?_) ?_
  · exact ⟨[], .nil, rfl, by simp, rfl⟩
  · rintro is i acc _ ⟨rows, hacc⟩
    exact ensures_pair ha.2.2.1 i hacc
  · rintro acc ⟨rows, hacc⟩
    have hdone : Ensures (pure {
        records := acc.records
        ground_truth := [("expected_auto_match_rate",
            .float (roundPlaces rt.fmt 4 (.ofRat rt.fmt ((pairs - mismatch_count : ℤ) / pairs)))),
          ("mismatched_pairs", .arr acc.mismatched_pairs)]
        source_format := "json" } : Gen rt GeneratedBatch) fun b =>
          ∃ pairs mismatch_count mismatch_types account rows,
            Reconciled rt p today pairs mismatch_count mismatch_types account rows b := by
      refine Ensures.pure ⟨pairs, mismatch_count, mismatch_types, a, rows, hpairs, htypes,
        ⟨ratio, hratio, hcount⟩, ⟨x, ha.2.2.2.2, isFinite_of_within hx⟩, hacc.related, hacc.records,
        hacc.located, ?_⟩
      rw [hacc.mismatched_pairs]
    split_ifs
    · exact Ensures.bind' fun _ => hdone
    · exact hdone

theorem generate_reconciled {params : Params} {seed : ℤ} {target_label : String} {today : Date}
    {b : GeneratedBatch} (h : generate rt params seed target_label today = .ok b) :
    ∃ p, coerce_params rt.fmt (param_schema rt) params = .ok p ∧
      ∃ pairs mismatch_count mismatch_types account rows,
        Reconciled rt p today pairs mismatch_count mismatch_types account rows b :=
  generateWith_ensures (P := fun b => ∃ p, coerce_params rt.fmt (param_schema rt) params = .ok p ∧
      ∃ pairs mismatch_count mismatch_types account rows,
        Reconciled rt p today pairs mismatch_count mismatch_types account rows b)
    (fun p hp => (ensures_batch p target_label today).mono fun _ hb => ⟨p, hp, hb⟩) h

theorem ledger_of_rows {today : Date} {account : SimBankAccount} {mismatch_types : List String}
    {mismatch_count : ℤ} {rows : List Row} (hbalance : ∃ x, account.balance.1 = money x ∧ IsFinite x)
    (h : ∀ row ∈ rows, ∃ i, RowOf rt today account mismatch_types mismatch_count i row) :
    Ledger today 30 (account.record :: rows.flatMap Row.records) := by
  induction rows using List.reverseRecOn with
  | nil => exact Ledger.open_account eachAfter_nil hbalance
  | append_singleton rows row ih =>
    obtain ⟨i, hrow⟩ := h row (by simp)
    have hflow : ∀ f ∈ [row.flow], ∃ a : SimBankAccount,
        a.record ∈ account.record :: rows.flatMap Row.records ∧ Posted today 30 a f := by
      intro f hf
      rw [List.mem_singleton.mp hf]
      exact ⟨account, List.mem_cons_self, hrow.posted⟩
    have hpost := (ih fun other hother => h other (by simp [hother])).post hflow
    cases hentry : row.entry with
    | none => simpa [Row.records, hentry] using hpost
    | some entry =>
      obtain ⟨_, _, _, hleg⟩ := hrow.exists_amount
      have hnot : row.mismatch ≠ some "missing_leg" := by
        intro hmissing
        rw [hrow.missing hmissing] at hentry
        cases hentry
      obtain ⟨e, _, he, _, _, _, _, hentered⟩ := hleg hnot
      rw [hentry] at he
      cases he
      have henter := hpost.enter (by simp) hentered
      simpa [Row.records, hentry] using henter

theorem generate_ledger {params : Params} {seed : ℤ} {target_label : String} {today : Date}
    {b : GeneratedBatch} (h : generate rt params seed target_label today = .ok b) :
    Ledger today 30 b.records := by
  obtain ⟨_, _, _, _, _, account, rows, hb⟩ := generate_reconciled h
  rw [hb.records]
  apply ledger_of_rows hb.balance
  intro row hrow
  obtain ⟨i, _, hof⟩ := exists_of_mem_right hb.related hrow
  exact ⟨i, hof⟩

theorem generate_fabricated {params : Params} {seed : ℤ} {target_label : String} {today : Date}
    {b : GeneratedBatch} (h : generate rt params seed target_label today = .ok b) :
    ∀ r ∈ b.records, Fabricated IsFinite r := (generate_ledger h).fabricated

end FinhubReconciliation
end AtlasConnectors
