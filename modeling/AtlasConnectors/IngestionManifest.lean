import AtlasConnectors.ConsistentBatch

/-! The ingestion preset against its manifest and its parameters: which record stands where. -/
namespace AtlasConnectors

open Raising

theorem getElem?_flatten {α : Type} {rows : List (List α)} {k : ℕ} (h : ∀ row ∈ rows, row.length = k) (i : ℕ)
    {j : ℕ} (hj : j < k) : rows.flatten[i * k + j]? = rows[i]?.bind fun row => row[j]? := by
  induction rows generalizing i with
  | nil => rfl
  | cons row rows ih =>
    obtain ⟨hrow, hrows⟩ := List.forall_mem_cons.mp h
    rw [List.flatten_cons]
    cases i with
    | zero =>
      rw [Nat.zero_mul, Nat.zero_add, List.getElem?_append_left (by omega)]
      rfl
    | succ i =>
      have hplace : (i + 1) * k + j = row.length + (i * k + j) := by
        rw [hrow, Nat.succ_mul, Nat.add_comm (i * k) k, Nat.add_assoc]
      rw [hplace, List.getElem?_append_right (Nat.le_add_right _ _), Nat.add_sub_cancel_left, ih hrows,
        List.getElem?_cons_succ]

namespace ConnectIngestion

variable {rt : PyRuntime} {params p : Params} {seed : ℤ} {target_label : String} {today : Date}
  {b : GeneratedBatch}

/-- Account `i` of a batch with so many: the texts that its number decides. -/
structure Numbered (target_label : String) (currencies : List String) (n_accounts : ℤ) (i : ℕ)
    (a : SimBankAccount) : Prop where
  label : a.label = "Compte courant " ++ toString (i + 1)
  currency : currencies[i % currencies.length]? = some a.currency.1
  entity : a.entity = entity_label target_label (i % if n_accounts = 1 then 1 else 2)

theorem ensures_numbered (target_label : String) (currencies : List String) (n_accounts : ℤ) (i : ℕ) :
    Ensures (account target_label currencies (if n_accounts = 1 then 1 else 2) i : Gen rt SimBankAccount)
      (Numbered target_label currencies n_accounts i) := by
  refine Ensures.bind' fun iban => ?_
  refine Ensures.bind (Ensures.fromExcept fun _ h => cycled_eq_ok.mp h) fun currency hcurrency => ?_
  refine Ensures.bind' fun balance => Ensures.fromExcept fun a ha => ?_
  obtain ⟨_, hlabel, hcode, hentity, _⟩ := SimBankAccount.create_ok ha
  exact ⟨hlabel, by rw [hcurrency, hcode], hentity⟩

/-- A flow on the account, in its currency. -/
def OnAccount (a : SimBankAccount) (f : SimCashFlow) : Prop :=
  f.account_iban.1 = a.iban.1 ∧ f.currency.1 = a.currency.1

theorem ensures_onAccount (today : Date) (window_days : ℤ) (a : SimBankAccount) :
    Ensures (flow today window_days a : Gen rt SimCashFlow) (OnAccount a) := by
  refine Ensures.bind' fun signed => Ensures.bind' fun days => Ensures.bind' fun value_date => ?_
  refine Ensures.bind' fun counterparty => Ensures.bind' fun label => Ensures.bind' fun ref => ?_
  refine Ensures.fromExcept fun f hf => ?_
  obtain ⟨_, _, _, rfl⟩ := SimCashFlow.create_eq hf
  exact ⟨rfl, rfl⟩

/-- The accounts, and the flows of each in a row. -/
structure Rows (p : Params) (target_label : String) (n_accounts flows_per_account : ℤ) (currencies : List String)
    (source_format : String) (accounts : List SimBankAccount) (rows : List (List SimCashFlow))
    (b : GeneratedBatch) : Prop where
  param_accounts : paramInt p "accounts" = .ok n_accounts
  param_flows : paramInt p "flows_per_account" = .ok flows_per_account
  param_currencies : paramTexts p "currencies" = .ok currencies
  param_format : paramText p "source_format" = .ok source_format
  numbered : List.Forall₂ (Numbered target_label currencies n_accounts) (List.range n_accounts.toNat) accounts
  flows : List.Forall₂ (fun a row => row.length = flows_per_account.toNat ∧ ∀ f ∈ row, OnAccount a f) accounts rows
  records : b.records = accounts.map SimBankAccount.record ++ rows.flatten.map SimCashFlow.record
  truth : b.ground_truth = [("expected_accounts", .int n_accounts),
    ("expected_flows", .int (n_accounts * flows_per_account))]
  source_format : b.source_format = source_format

theorem ensures_rows (p : Params) (target_label : String) (today : Date) :
    Ensures (batch p target_label today : Gen rt GeneratedBatch) fun b =>
      ∃ n_accounts flows_per_account currencies source_format accounts rows,
        Rows p target_label n_accounts flows_per_account currencies source_format accounts rows b := by
  refine Ensures.bind (Ensures.fromExcept fun _ h => h) fun n_accounts haccounts => ?_
  refine Ensures.bind (Ensures.fromExcept fun _ h => h) fun flows_per_account hflows => ?_
  refine Ensures.bind' fun window_days => ?_
  refine Ensures.bind (Ensures.fromExcept fun _ h => h) fun currencies hcurrencies => ?_
  refine Ensures.bind (Ensures.fromExcept fun _ h => h) fun source_format hformat => ?_
  refine (Ensures.mapM fun i _ => ensures_numbered target_label currencies n_accounts i).bind
    fun accounts hnumbered => ?_
  have hrow : ∀ a : SimBankAccount, Ensures ((List.range flows_per_account.toNat).mapM fun _ =>
      flow today window_days a : Gen rt (List SimCashFlow))
      fun row => row.length = flows_per_account.toNat ∧ ∀ f ∈ row, OnAccount a f := by
    intro a
    refine (Ensures.mapM fun _ _ => ensures_onAccount today window_days a).mono fun row hall => ⟨?_, ?_⟩
    · rw [← hall.length_eq, List.length_range]
    · intro f hf
      obtain ⟨_, _, hon⟩ := exists_of_mem_right hall hf
      exact hon
  refine (Ensures.mapM fun a _ => hrow a).bind fun rows hrows => Ensures.pure ?_
  exact ⟨n_accounts, flows_per_account, currencies, source_format, accounts, rows,
    haccounts, hflows, hcurrencies, hformat, hnumbered, hrows, rfl, rfl, rfl⟩

theorem generate_rows (h : generate rt params seed target_label today = .ok b) :
    ∃ p, coerce_params rt.fmt param_schema params = .ok p ∧
      ∃ n_accounts flows_per_account currencies source_format accounts rows,
        Rows p target_label n_accounts flows_per_account currencies source_format accounts rows b :=
  generateWith_ensures (P := fun b => ∃ p, coerce_params rt.fmt param_schema params = .ok p ∧
      ∃ n_accounts flows_per_account currencies source_format accounts rows,
        Rows p target_label n_accounts flows_per_account currencies source_format accounts rows b)
    (fun p hp => (ensures_rows p target_label today).mono fun _ hb => ⟨p, hp, hb⟩) h

/-- The manifest counts the records, the accounts stand first and in the order of their numbers, and
the flows of each account stand together, on its number and in its currency. -/
structure ManifestTrue (target_label : String) (n_accounts flows_per_account : ℕ) (currencies : List String)
    (b : GeneratedBatch) : Prop where
  expected_accounts : intAt "expected_accounts" b.ground_truth = some (n_accounts : ℤ)
  expected_flows : intAt "expected_flows" b.ground_truth = some (n_accounts * flows_per_account : ℤ)
  length : b.records.length = n_accounts + n_accounts * flows_per_account
  account : ∀ i < n_accounts, ∃ r currency, b.records[i]? = some r ∧ r.1 = "bank_account" ∧
    textAt "label" r.2 = some ("Compte courant " ++ toString (i + 1)) ∧
    currencies[i % currencies.length]? = some currency ∧ textAt "currency" r.2 = some currency ∧
    textAt "entity" r.2 = some (entity_label target_label (i % if n_accounts = 1 then 1 else 2))
  flow : ∀ i < n_accounts, ∀ j < flows_per_account, ∃ a r, b.records[i]? = some a ∧
    b.records[n_accounts + (i * flows_per_account + j)]? = some r ∧ r.1 = "cash_flow" ∧
    textAt "account_iban" r.2 = textAt "iban" a.2 ∧ textAt "currency" r.2 = textAt "currency" a.2

section Places

variable {n_accounts flows_per_account : ℤ} {currencies : List String} {source_format : String}
  {accounts : List SimBankAccount} {rows : List (List SimCashFlow)}
  (h : Rows p target_label n_accounts flows_per_account currencies source_format accounts rows b)

include h

theorem Rows.length_accounts : accounts.length = n_accounts.toNat := by
  rw [← h.numbered.length_eq, List.length_range]

theorem Rows.row_length : ∀ row ∈ rows, row.length = flows_per_account.toNat := by
  intro row hrow
  obtain ⟨_, _, hlength, _⟩ := exists_of_mem_right h.flows hrow
  exact hlength

theorem Rows.length_records :
    b.records.length = n_accounts.toNat + n_accounts.toNat * flows_per_account.toNat := by
  have hlengths : rows.map List.length = List.replicate rows.length flows_per_account.toNat :=
    List.map_eq_replicate_iff.mpr h.row_length
  rw [h.records, List.length_append, List.length_map, List.length_map, List.length_flatten, hlengths,
    List.sum_replicate, ← h.flows.length_eq, h.length_accounts, smul_eq_mul]

theorem Rows.exists_account {i : ℕ} (hi : i < n_accounts.toNat) : ∃ a, accounts[i]? = some a ∧
    b.records[i]? = some a.record ∧ Numbered target_label currencies n_accounts i a := by
  have hlt : i < accounts.length := by rwa [h.length_accounts]
  refine ⟨accounts[i], List.getElem?_eq_getElem hlt, ?_, ?_⟩
  · rw [h.records, List.getElem?_append_left (by rwa [List.length_map]), List.getElem?_map,
      List.getElem?_eq_getElem hlt, Option.map_some]
  · have hrange : i < (List.range n_accounts.toNat).length := by rwa [List.length_range]
    simpa using h.numbered.get hrange hlt

theorem Rows.exists_flow {i j : ℕ} (hi : i < n_accounts.toNat) (hj : j < flows_per_account.toNat)
    {a : SimBankAccount} (ha : accounts[i]? = some a) : ∃ f : SimCashFlow,
      b.records[n_accounts.toNat + (i * flows_per_account.toNat + j)]? = some f.record ∧ OnAccount a f := by
  have hlt : i < rows.length := by rwa [← h.flows.length_eq, h.length_accounts]
  obtain ⟨hlta, rfl⟩ := List.getElem?_eq_some_iff.mp ha
  obtain ⟨hlength, hon⟩ : rows[i].length = flows_per_account.toNat ∧ ∀ f ∈ rows[i], OnAccount accounts[i] f :=
    h.flows.get hlta hlt
  refine ⟨rows[i][j], ?_, hon _ (List.getElem_mem _)⟩
  have hplace : n_accounts.toNat + (i * flows_per_account.toNat + j) - n_accounts.toNat =
      i * flows_per_account.toNat + j := Nat.add_sub_cancel_left ..
  rw [h.records, List.getElem?_append_right (by rw [List.length_map, h.length_accounts]; omega), List.length_map,
    h.length_accounts, hplace, List.getElem?_map, getElem?_flatten h.row_length i hj,
    List.getElem?_eq_getElem hlt, Option.bind_some, List.getElem?_eq_getElem (by omega), Option.map_some]

theorem Rows.manifestTrue (haccounts : 0 ≤ n_accounts) (hflows : 0 ≤ flows_per_account) :
    ManifestTrue target_label n_accounts.toNat flows_per_account.toNat currencies b := by
  have hone : n_accounts.toNat = 1 ↔ n_accounts = 1 := by omega
  constructor
  · simp [intAt, h.truth, Int.toNat_of_nonneg haccounts]
  · simp [intAt, h.truth, Dict.lookup_cons, Int.toNat_of_nonneg haccounts, Int.toNat_of_nonneg hflows]
  · exact h.length_records
  · intro i hi
    obtain ⟨a, _, hrecord, hnumbered⟩ := h.exists_account hi
    refine ⟨a.record, a.currency.1, hrecord, rfl, congrArg some hnumbered.label, hnumbered.currency, rfl, ?_⟩
    have hentity : textAt "entity" a.record.2 = some a.entity := rfl
    simp only [hentity, hnumbered.entity, hone]
  · intro i hi j hj
    obtain ⟨a, ha, hrecord, _⟩ := h.exists_account hi
    obtain ⟨f, hflow, hiban, hcurrency⟩ := h.exists_flow hi hj ha
    exact ⟨a.record, f.record, hrecord, hflow, rfl, congrArg some hiban, congrArg some hcurrency⟩

end Places

/-- The manifest of an ingestion batch is true of it, and every record built from the batch names the
format that was asked for as its source. -/
theorem generate_manifestTrue (h : generate rt params seed target_label today = .ok b) :
    ∃ p n_accounts flows_per_account currencies source_format,
      coerce_params rt.fmt param_schema params = .ok p ∧
      paramInt p "accounts" = .ok (n_accounts : ℕ) ∧ paramInt p "flows_per_account" = .ok (flows_per_account : ℕ) ∧
      paramTexts p "currencies" = .ok currencies ∧ paramText p "source_format" = .ok source_format ∧
      ManifestTrue target_label n_accounts flows_per_account currencies b ∧
      ∀ ctx fresh built, build_canonical_records ctx fresh b = .ok built →
        built.length = b.records.length ∧
          ∀ cr ∈ built, cr.source_metadata.source_system = "sim." ++ source_format := by
  obtain ⟨p, hp, n_accounts, flows_per_account, currencies, source_format, accounts, rows, hrows⟩ := generate_rows h
  have haccounts := paramInt_bounds schema_nodup schema_wellFormed hp
    (show .int "accounts" 3 1 20 ∈ param_schema by simp [param_schema]) hrows.param_accounts
  have hflows := paramInt_bounds schema_nodup schema_wellFormed hp
    (show .int "flows_per_account" 30 1 500 ∈ param_schema by simp [param_schema]) hrows.param_flows
  refine ⟨p, n_accounts.toNat, flows_per_account.toNat, currencies, source_format, hp, ?_, ?_,
    hrows.param_currencies, hrows.param_format, hrows.manifestTrue (by omega) (by omega), ?_⟩
  · rw [Int.toNat_of_nonneg (by omega), hrows.param_accounts]
  · rw [Int.toNat_of_nonneg (by omega), hrows.param_flows]
  · intro ctx fresh built hbuilt
    have hknown := known_of_build_ok hbuilt
    refine ⟨build_ok_length hknown hbuilt, fun cr hcr => ?_⟩
    rw [build_canonical_records_eq hknown] at hbuilt
    cases hbuilt
    obtain ⟨item, _, rfl⟩ := List.mem_map.mp hcr
    rw [← hrows.source_format]
    rfl

def twoAccounts : Params := [("accounts", .int 2), ("flows_per_account", .int 2)]

def twoAccountsBatch : GeneratedBatch :=
  (generate turningDraws twoAccounts 42 "Société" newYear).toOption.getD ⟨[], [], "json"⟩

theorem twoAccounts_manifestTrue : generate turningDraws twoAccounts 42 "Société" newYear = .ok twoAccountsBatch ∧
    ∃ currencies, ManifestTrue "Société" 2 2 currencies twoAccountsBatch := by
  have hb : generate turningDraws twoAccounts 42 "Société" newYear = .ok twoAccountsBatch :=
    Raising.eq_ok_getD (by decide +kernel) _
  obtain ⟨p, n_accounts, flows_per_account, currencies, _, hp, haccounts, hflows, _, _, htrue, _⟩ :=
    generate_manifestTrue hb
  have hcounts : (coerce_params turningDraws.fmt param_schema twoAccounts).toOption.map (fun p =>
      ((paramInt p "accounts").toOption, (paramInt p "flows_per_account").toOption)) = some (some 2, some 2) := by
    decide +kernel
  rw [hp, Except.toOption, Option.map_some, haccounts, hflows] at hcounts
  have hpair := Option.some.inj hcounts
  cases Int.ofNat_inj.mp (Option.some.inj (congrArg Prod.fst hpair))
  cases Int.ofNat_inj.mp (Option.some.inj (congrArg Prod.snd hpair))
  exact ⟨hb, currencies, htrue⟩

end ConnectIngestion
end AtlasConnectors
