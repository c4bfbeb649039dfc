import AtlasConnectors.Camt053

/-! The balances of one statement file: which of them survive a consumer that keeps one
record per source hash, and which of them the runner can publish. -/
namespace AtlasConnectors
namespace Camt053

variable {raw_xml : List UInt8} {source_message_id : Option String}

theorem record?_eq_some {b : ClosingBalance} {r : RawRecord Empty}
    (h : b.record? raw_xml source_message_id = some r) : ∃ iban amount, b.iban = some iban ∧
      b.amount = some amount ∧
      r = balanceRecord raw_xml source_message_id b.statement_id iban amount b.currency := by
  cases hiban : b.iban with
  | none =>
    rw [ClosingBalance.record?, hiban] at h
    cases h
  | some iban =>
    cases hamount : b.amount with
    | none =>
      rw [ClosingBalance.record?, hiban, hamount] at h
      cases h
    | some amount =>
      rw [ClosingBalance.record?, hiban, hamount] at h
      cases h
      exact ⟨iban, amount, rfl, rfl, rfl⟩

theorem payload_eq_iff {b c : ClosingBalance} {r s : RawRecord Empty}
    (hb : b.record? raw_xml source_message_id = some r)
    (hc : c.record? raw_xml source_message_id = some s) : r.payload = s.payload ↔ b = c := by
  constructor
  · intro h
    obtain ⟨iban, amount, hiban, hamount, rfl⟩ := record?_eq_some hb
    obtain ⟨iban', amount', hiban', hamount', rfl⟩ := record?_eq_some hc
    obtain ⟨id, i, a, cur⟩ := b
    obtain ⟨id', i', a', cur'⟩ := c
    simp only at hiban hamount hiban' hamount'
    subst hiban hamount hiban' hamount'
    simp only [balanceRecord, List.cons.injEq, Prod.mk.injEq, Json.str.injEq, true_and,
      and_true] at h
    obtain ⟨rfl, rfl, hcur, rfl⟩ := h
    cases cur <;> cases cur' <;> simp_all [optionalText]
  · intro h
    rw [h, hc] at hb
    cases hb
    rfl

/-- Every record carries the bytes of the whole file, so every record has the file's hash. -/
theorem source_hash_of_record {b : ClosingBalance} {r : RawRecord Empty}
    (h : b.record? raw_xml source_message_id = some r) (now : DateTime) :
    (stamp r now).source_hash = source_hash raw_xml := by
  obtain ⟨iban, amount, _, _, rfl⟩ := record?_eq_some h
  rfl

variable {fromstring : List UInt8 → Except PyExc Element} {root : Element}
  {records : List (RawRecord Empty)}

/-- Records with different payloads have different source hashes, and a consumer that keeps
the first record of each hash keeps every payload. -/
def NoBalanceLost (records : List (RawRecord Empty)) : Prop :=
  ∀ now : DateTime,
    (∀ r ∈ records, ∀ s ∈ records, r.payload ≠ s.payload →
      (stamp r now).source_hash ≠ (stamp s now).source_hash) ∧
    ∀ r ∈ records, ∃ kept ∈ keepFirst (fun s => (stamp s now).source_hash) records,
      kept.payload = r.payload

theorem noBalanceLost_of_eq (heq : ∀ r ∈ records, ∀ s ∈ records, r.payload = s.payload) :
    NoBalanceLost records := by
  intro now
  refine ⟨fun r hr s hs hne => absurd (heq r hr s hs) hne, fun r hr => ?_⟩
  obtain ⟨kept, hkept, _⟩ := exists_keepFirst (fun s => (stamp s now).source_hash) hr
  exact ⟨kept, hkept, heq kept ((keepFirst_sublist _ _).subset hkept) r hr⟩

/-- A file loses no balance exactly when all its closing balances state the same. -/
theorem noBalanceLost_iff (hroot : fromstring raw_xml = .ok root)
    (hparse : parse_balances fromstring raw_xml source_message_id = .ok records) :
    NoBalanceLost records ↔ ∀ b ∈ closingBalances root, ∀ c ∈ closingBalances root, b = c := by
  have hrel := parse_balances_ok hroot hparse
  constructor
  · intro h b hb c hc
    obtain ⟨r, hr, hbr⟩ := Raising.exists_of_mem_left hrel hb
    obtain ⟨s, hs, hcs⟩ := Raising.exists_of_mem_left hrel hc
    rw [← payload_eq_iff hbr hcs]
    by_contra hne
    have now : DateTime := .midnight ⟨1, 1, 1, by decide, by decide, by decide⟩ none
    apply (h now).1 r hr s hs hne
    rw [source_hash_of_record hbr, source_hash_of_record hcs]
  · intro h
    apply noBalanceLost_of_eq
    intro r hr s hs
    obtain ⟨b, hb, hbr⟩ := Raising.exists_of_mem_right hrel hr
    obtain ⟨c, hc, hcs⟩ := Raising.exists_of_mem_right hrel hs
    exact (payload_eq_iff hbr hcs).mpr (h b hb c hc)

def leaf (name text : String) : Element := .node none name [] (some text) []

def branch (name : String) (children : List Element) : Element := .node none name [] none children

/-- `<Bal><Tp><CdOrPrtry><Cd>code</Cd></CdOrPrtry></Tp><Amt Ccy="EUR">amount</Amt></Bal>`. -/
def balance (code amount : String) : Element :=
  branch "Bal" [branch "Tp" [branch "CdOrPrtry" [leaf "Cd" code]],
    .node none "Amt" [("Ccy", "EUR")] (some amount) []]

def closingBal (amount : String) : Element := balance "CLBD" amount

def statementOf (id iban : String) (balances : List Element) : Element :=
  branch "Stmt" (leaf "Id" id :: branch "Acct" [branch "Id" [leaf "IBAN" iban]] :: balances)

def statement (id iban amount : String) : Element := statementOf id iban [closingBal amount]

def balanceXml (code amount : String) : String :=
  "<Bal><Tp><CdOrPrtry><Cd>" ++ code ++ "</Cd></CdOrPrtry></Tp><Amt Ccy=\"EUR\">" ++ amount ++ "</Amt></Bal>"

def statementOfXml (id iban balances : String) : String :=
  "<Stmt><Id>" ++ id ++ "</Id><Acct><Id><IBAN>" ++ iban ++ "</IBAN></Id></Acct>" ++ balances ++ "</Stmt>"

def statementXml (id iban amount : String) : String := statementOfXml id iban (balanceXml "CLBD" amount)

def documentXml (stmts : String) : List UInt8 :=
  Json.utf8 ("<Document>" ++ stmts ++ "</Document>").toList

def parserOf (raw : List UInt8) (root : Element) (bytes : List UInt8) : Except PyExc Element :=
  if bytes = raw then .ok root else .error (.parseError "no element found")

theorem parserOf_self (raw : List UInt8) (root : Element) : parserOf raw root raw = .ok root :=
  if_pos rfl

def oneStatement : Element := branch "Document" [statement "S1" "FR7630006000011234567890189" "1250.50"]

def oneStatementXml : List UInt8 :=
  documentXml (statementXml "S1" "FR7630006000011234567890189" "1250.50")

def twoStatements : Element :=
  branch "Document" [statement "S1" "FR7630006000011234567890189" "1250.50",
    statement "S2" "FR7630006000011234567890190" "77.00"]

def twoStatementsXml : List UInt8 :=
  documentXml (statementXml "S1" "FR7630006000011234567890189" "1250.50" ++
    statementXml "S2" "FR7630006000011234567890190" "77.00")

def firstRecord (raw_xml : List UInt8) : RawRecord Empty :=
  balanceRecord raw_xml none "S1" "FR7630006000011234567890189" "1250.50" (some "EUR")

def secondRecord (raw_xml : List UInt8) : RawRecord Empty :=
  balanceRecord raw_xml none "S2" "FR7630006000011234567890190" "77.00" (some "EUR")

theorem parse_oneStatement : parse_balances (parserOf oneStatementXml oneStatement) oneStatementXml
    none = .ok [firstRecord oneStatementXml] := by
  rw [parse_balances, parserOf_self]
  rfl

theorem parse_twoStatements : parse_balances (parserOf twoStatementsXml twoStatements)
    twoStatementsXml none = .ok [firstRecord twoStatementsXml, secondRecord twoStatementsXml] := by
  rw [parse_balances, parserOf_self]
  rfl

/-- An opening balance, and a closing balance that is stated twice. -/
def repeatedBalance : Element := branch "Document" [statementOf "S1" "FR7630006000011234567890189"
  [balance "OPBD" "900.00", closingBal "1250.50", closingBal "1250.50"]]

def repeatedBalanceXml : List UInt8 :=
  documentXml (statementOfXml "S1" "FR7630006000011234567890189"
    (balanceXml "OPBD" "900.00" ++ balanceXml "CLBD" "1250.50" ++ balanceXml "CLBD" "1250.50"))

theorem repeatedBalance_kept : ∃ records,
    parse_balances (parserOf repeatedBalanceXml repeatedBalance) repeatedBalanceXml none = .ok records ∧
      records.length = 2 ∧ NoBalanceLost records := by
  have hroot := parserOf_self repeatedBalanceXml repeatedBalance
  have hparse : parse_balances (parserOf repeatedBalanceXml repeatedBalance) repeatedBalanceXml none =
      .ok [firstRecord repeatedBalanceXml, firstRecord repeatedBalanceXml] := by
    rw [parse_balances, hroot]
    rfl
  exact ⟨_, hparse, rfl, (noBalanceLost_iff hroot hparse).mpr (by decide)⟩

/-- Two statements of one file collide on their source hash. -/
theorem twoStatements_lose_balance : ∃ records,
    parse_balances (parserOf twoStatementsXml twoStatements) twoStatementsXml none = .ok records ∧
      ¬ NoBalanceLost records := by
  refine ⟨_, parse_twoStatements, ?_⟩
  intro h
  have now : DateTime := .midnight ⟨1, 1, 1, by decide, by decide, by decide⟩ none
  apply (h now).1 (firstRecord twoStatementsXml) (by simp) (secondRecord twoStatementsXml) (by simp)
  · simp [firstRecord, secondRecord, balanceRecord]
  · rfl

variable {π : Type}

/-- The runner publishes one record for each raw record, in order, with its payload and the
given tenant, and returns their number. -/
def PublishesAll (publisher : PublisherPort Empty π) (tenant_id : UUID) (fresh : ℕ → Fresh)
    (records : List (RawRecord Empty)) (s : π) : Prop :=
  ∃ t calls, run_adapter (Delivery.recorded publisher) tenant_id fresh ⟨"camt053", records, none⟩
      (s, []) = .ok records.length (t, calls) ∧
    List.Forall₂ (fun raw record => record.payload = raw.payload ∧ record.tenant_id = tenant_id ∧
      record.record_type ∈ CanonicalRecordType.all) records calls

theorem adapterRecord_of_record {b : ClosingBalance} {r : RawRecord Empty}
    (h : b.record? raw_xml source_message_id = some r) (tenant_id : UUID) (fresh : Fresh) :
    ∃ e, adapterRecord tenant_id fresh r = .error e := by
  obtain ⟨iban, amount, _, _, rfl⟩ := record?_eq_some h
  exact ⟨_, rfl⟩

/-- The runner publishes all of a file's records exactly when the file states no closing balance. -/
theorem publishesAll_iff (hroot : fromstring raw_xml = .ok root)
    (hparse : parse_balances fromstring raw_xml source_message_id = .ok records)
    (publisher : PublisherPort Empty π) (tenant_id : UUID) (fresh : ℕ → Fresh) (s : π) :
    PublishesAll publisher tenant_id fresh records s ↔ closingBalances root = [] := by
  have hrel := parse_balances_ok hroot hparse
  generalize closingBalances root = bs at hrel ⊢
  cases hrel with
  | nil =>
    refine ⟨fun _ => rfl, fun _ => ⟨s, [], rfl, List.Forall₂.nil⟩⟩
  | @cons b r bs rs hbr hrest =>
    refine ⟨?_, fun h => by cases h⟩
    rintro ⟨t, calls, hrun, _⟩
    rw [run_adapter_eq _ _ _ _ rfl] at hrun
    obtain ⟨e, he⟩ := adapterRecord_of_record hbr tenant_id (fresh 0)
    have hfirst : publishRaw (Delivery.recorded publisher) tenant_id fresh (r, 0) (s, []) =
        .error e (s, []) := by
      rw [publishRaw, he]
      rfl
    rw [List.zipIdx_cons, Delivery.deliver_fail hfirst rfl] at hrun
    cases hrun

/-- An opening balance, and one that is available at the close. -/
def otherBalances : Element := branch "Document" [statementOf "S1" "FR7630006000011234567890189"
  [balance "OPBD" "900.00", balance "CLAV" "1250.50"]]

def otherBalancesXml : List UInt8 :=
  documentXml (statementOfXml "S1" "FR7630006000011234567890189" (balanceXml "OPBD" "900.00" ++ balanceXml "CLAV" "1250.50"))

theorem otherBalances_publishesAll : ∃ records,
    parse_balances (parserOf otherBalancesXml otherBalances) otherBalancesXml none = .ok records ∧
      PublishesAll acceptAll ⟨7⟩ (fun _ => someFresh) records () := by
  have hroot := parserOf_self otherBalancesXml otherBalances
  have hparse : parse_balances (parserOf otherBalancesXml otherBalances) otherBalancesXml none = .ok [] := by
    rw [parse_balances, hroot]
    rfl
  exact ⟨_, hparse, (publishesAll_iff hroot hparse acceptAll ⟨7⟩ (fun _ => someFresh) ()).mpr rfl⟩

/-- The record of a single statement is refused, although the publisher accepts everything. -/
theorem oneStatement_not_published : ∃ records,
    parse_balances (parserOf oneStatementXml oneStatement) oneStatementXml none = .ok records ∧
      ¬ PublishesAll acceptAll ⟨7⟩ (fun _ => someFresh) records () := by
  refine ⟨_, parse_oneStatement, ?_⟩
  rintro ⟨t, calls, hrun, _⟩
  cases hrun

end Camt053
end AtlasConnectors
