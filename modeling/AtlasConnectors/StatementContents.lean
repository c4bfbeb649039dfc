import AtlasConnectors.StatementFile

/-! What the records of a statement file say of its statements: whether they guess at a missing
piece, and whether they show the sign of a balance. -/
namespace AtlasConnectors
namespace Camt053

variable {raw_xml raw_xml' : List UInt8} {source_message_id source_message_id' : Option String}
  {fromstring : List UInt8 → Except PyExc Element} {root root' stmt : Element} {b : ClosingBalance}
  {records : List (RawRecord Empty)}

/-- A closing balance without an IBAN or an amount. -/
def ClosingBalance.Unstated (b : ClosingBalance) : Prop := b.iban = none ∨ b.amount = none

theorem record?_eq_none_iff : b.record? raw_xml source_message_id = none ↔ b.Unstated := by
  rw [ClosingBalance.record?, ClosingBalance.Unstated]
  cases b.iban <;> cases b.amount <;> simp

theorem unstated_of_foldlM {body : List (RawRecord Empty) → Element → Except PyExc (List (RawRecord Empty))}
    {states : Element → List ClosingBalance}
    (hbody : ∀ el records e, body records el = .error e → ∃ b ∈ states el, b.Unstated) (els : List Element)
    {e : PyExc} (h : els.foldlM body records = .error e) : ∃ b ∈ els.flatMap states, b.Unstated := by
  induction els generalizing records with
  | nil => cases h
  | cons el els ih =>
    rw [List.foldlM_cons] at h
    rw [List.flatMap_cons]
    cases hel : body records el with
    | error e' =>
      obtain ⟨b, hb, hunstated⟩ := hbody el records e' hel
      exact ⟨b, List.mem_append_left _ hb, hunstated⟩
    | ok mid =>
      rw [hel] at h
      obtain ⟨b, hb, hunstated⟩ := ih h
      exact ⟨b, List.mem_append_right _ hb, hunstated⟩

theorem parseBalance_error {bal : Element} {e : PyExc}
    (h : parseBalance raw_xml source_message_id stmt records bal = .error e) :
    ∃ b ∈ (if isClosing bal then [closingBalance stmt bal] else []), b.Unstated := by
  by_cases hcode : findText bal ["Tp", "CdOrPrtry", "Cd"] = some "CLBD"
  · have hclosing : isClosing bal = true := by simp [isClosing, hcode]
    rw [if_pos hclosing]
    refine ⟨closingBalance stmt bal, List.mem_singleton_self _, ?_⟩
    rw [parseBalance, if_neg (not_not.mpr hcode)] at h
    rw [ClosingBalance.Unstated, closingBalance, findText]
    cases hamt : bal.find ["Amt"] with
    | none => exact Or.inr rfl
    | some amt =>
      cases hiban : iban stmt with
      | none => exact Or.inl rfl
      | some iban =>
        rw [hamt, hiban] at h
        cases htext : amt.text with
        | none => exact Or.inr htext
        | some amount =>
          simp only [htext] at h
          cases h
  · rw [parseBalance, if_pos hcode] at h
    cases h

theorem parseStatement_error {e : PyExc}
    (h : parseStatement raw_xml source_message_id records stmt = .error e) :
    ∃ b ∈ closingBalancesOf stmt, b.Unstated :=
  unstated_of_foldlM (fun _ _ _ hbal => parseBalance_error hbal) _ h

variable (source_message_id) in
/-- The parser raises exactly when a closing balance lacks an IBAN or an amount. -/
theorem parse_balances_raises_iff (hroot : fromstring raw_xml = .ok root) :
    (∃ e, parse_balances fromstring raw_xml source_message_id = .error e) ↔
      ∃ b ∈ closingBalances root, b.Unstated := by
  constructor
  · rintro ⟨e, h⟩
    rw [parse_balances, hroot] at h
    exact unstated_of_foldlM (fun _ _ _ hstmt => parseStatement_error hstmt) _ h
  · rintro ⟨b, hb, hunstated⟩
    cases hparse : parse_balances fromstring raw_xml source_message_id with
    | error e => exact ⟨e, rfl⟩
    | ok records =>
      obtain ⟨r, _, hr⟩ := Raising.exists_of_mem_left (parse_balances_ok hroot hparse) hb
      rw [record?_eq_none_iff.mpr hunstated] at hr
      cases hr

/-- The statement has one closing balance, and every piece of it is there. -/
structure Complete (stmt bal : Element) (iban amount currency statement_id : String) : Prop where
  balance : (stmt.findall ["Bal"]).filter isClosing = [bal]
  iban_text : Camt053.iban stmt = some iban
  amount_text : findText bal ["Amt"] = some amount
  currency_text : ((bal.find ["Amt"]).bind fun amt => amt.get "Ccy") = some currency
  id_text : findText stmt ["Id"] = some statement_id
  nonempty : iban ≠ "" ∧ amount ≠ "" ∧ currency ≠ "" ∧ statement_id ≠ ""
  decimal : (NumberText.decimalValue amount).isSome = true

def IsComplete (stmt : Element) : Prop :=
  ∃ bal iban amount currency statement_id, Complete stmt bal iban amount currency statement_id

/-- The record states what the statement says. -/
def Faithful (stmt : Element) (r : RawRecord Empty) : Prop :=
  ∃ bal iban amount currency statement_id, Complete stmt bal iban amount currency statement_id ∧
    r.payload.lookup "iban" = some (.str iban) ∧ r.payload.lookup "amount" = some (.str amount) ∧
    r.payload.lookup "currency" = some (.str currency) ∧
    r.payload.lookup "statement_id" = some (.str statement_id)

/-- An outcome of the parser that raises, or has one faithful record for each statement, in order. -/
def NeverGuesses (root : Element) (out : Except PyExc (List (RawRecord Empty))) : Prop :=
  ∀ records, out = .ok records → List.Forall₂ Faithful (root.findallBelow "Stmt") records

theorem closingBalancesOf_eq_map (stmt : Element) :
    closingBalancesOf stmt = ((stmt.findall ["Bal"]).filter isClosing).map (closingBalance stmt) := by
  rw [closingBalancesOf]
  induction stmt.findall ["Bal"] with
  | nil => rfl
  | cons bal bals ih =>
    rw [List.flatMap_cons, ih]
    cases hclosing : isClosing bal <;> simp [hclosing]

theorem Complete.closingBalancesOf {bal : Element} {iban amount currency statement_id : String}
    (h : Complete stmt bal iban amount currency statement_id) :
    closingBalancesOf stmt = [⟨statement_id, some iban, some amount, some currency⟩] := by
  have hid : statementId stmt = statement_id := by
    rw [statementId, h.id_text]
    exact if_neg h.nonempty.2.2.2
  rw [closingBalancesOf_eq_map, h.balance, List.map_singleton, closingBalance, hid, h.iban_text, h.amount_text,
    h.currency_text]

theorem forall₂_faithful {stmts : List Element} (hcomplete : ∀ stmt ∈ stmts, IsComplete stmt)
    (h : List.Forall₂ (fun b r => b.record? raw_xml source_message_id = some r)
      (stmts.flatMap closingBalancesOf) records) : List.Forall₂ Faithful stmts records := by
  induction stmts generalizing records with
  | nil =>
    cases h
    exact .nil
  | cons stmt stmts ih =>
    obtain ⟨bal, iban, amount, currency, statement_id, hstmt⟩ := hcomplete stmt List.mem_cons_self
    rw [List.flatMap_cons, hstmt.closingBalancesOf, List.singleton_append] at h
    cases h with
    | cons hr hrest =>
      refine .cons ?_ (ih (fun s hs => hcomplete s (List.mem_cons_of_mem _ hs)) hrest)
      cases hr
      exact ⟨bal, iban, amount, currency, statement_id, hstmt, rfl, rfl, rfl, rfl⟩

/-- The parser guesses unless it raises or every statement is complete. -/
theorem neverGuesses_iff (hroot : fromstring raw_xml = .ok root) :
    NeverGuesses root (parse_balances fromstring raw_xml source_message_id) ↔
      (∃ b ∈ closingBalances root, b.Unstated) ∨ ∀ stmt ∈ root.findallBelow "Stmt", IsComplete stmt := by
  rw [← parse_balances_raises_iff source_message_id hroot]
  constructor
  · intro h
    cases hparse : parse_balances fromstring raw_xml source_message_id with
    | error e => exact Or.inl ⟨e, rfl⟩
    | ok records =>
      refine Or.inr fun stmt hstmt => ?_
      obtain ⟨r, _, bal, iban, amount, currency, statement_id, hcomplete, _⟩ :=
        Raising.exists_of_mem_left (h records hparse) hstmt
      exact ⟨bal, iban, amount, currency, statement_id, hcomplete⟩
  · rintro (⟨e, he⟩ | hcomplete) records hparse
    · cases he.symm.trans hparse
    · exact forall₂_faithful hcomplete (parse_balances_ok hroot hparse)

theorem oneStatement_neverGuesses : NeverGuesses oneStatement
    (parse_balances (parserOf oneStatementXml oneStatement) oneStatementXml none) := by
  apply (neverGuesses_iff (parserOf_self oneStatementXml oneStatement)).mpr
  right
  intro stmt hstmt
  have hone : oneStatement.findallBelow "Stmt" = [statement "S1" "FR7630006000011234567890189" "1250.50"] := rfl
  rw [hone, List.mem_singleton] at hstmt
  subst hstmt
  exact ⟨closingBal "1250.50", "FR7630006000011234567890189", "1250.50", "EUR", "S1", rfl, rfl, rfl, rfl, rfl,
    by decide, by decide⟩

def anonymousStatement : Element := branch "Document"
  [branch "Stmt" [branch "Acct" [branch "Id" [leaf "IBAN" "FR7630006000011234567890189"]], closingBal "1250.50"]]

def anonymousStatementXml : List UInt8 :=
  documentXml ("<Stmt><Acct><Id><IBAN>FR7630006000011234567890189</IBAN></Id></Acct>" ++
    "<Bal><Tp><CdOrPrtry><Cd>CLBD</Cd></CdOrPrtry></Tp><Amt Ccy=\"EUR\">1250.50</Amt></Bal></Stmt>")

/-- The identification that the statement does not have is made up. -/
theorem anonymousStatement_guessed :
    parse_balances (parserOf anonymousStatementXml anonymousStatement) anonymousStatementXml none =
      .ok [balanceRecord anonymousStatementXml none "unknown-stmt" "FR7630006000011234567890189" "1250.50"
        (some "EUR")] ∧
    ¬NeverGuesses anonymousStatement
      (parse_balances (parserOf anonymousStatementXml anonymousStatement) anonymousStatementXml none) := by
  have hparse : parse_balances (parserOf anonymousStatementXml anonymousStatement) anonymousStatementXml none =
      .ok [balanceRecord anonymousStatementXml none "unknown-stmt" "FR7630006000011234567890189" "1250.50"
        (some "EUR")] := by
    rw [parse_balances, parserOf_self]
    rfl
  refine ⟨hparse, ?_⟩
  intro h
  cases h _ hparse with
  | cons hfaithful _ =>
    obtain ⟨_, _, _, _, _, hcomplete, _⟩ := hfaithful
    cases hcomplete.id_text

mutual

/-- The element without the texts of its credit and debit indicators. -/
def unsigned : Element → Element
  | .node namespaceUri name attrib text children =>
    .node namespaceUri name attrib (if name = "CdtDbtInd" then none else text) (unsignedAll children)

def unsignedAll : List Element → List Element
  | [] => []
  | el :: els => unsigned el :: unsignedAll els

end

theorem unsignedAll_eq_map (els : List Element) : unsignedAll els = els.map unsigned := by
  induction els with
  | nil => rw [unsignedAll, List.map_nil]
  | cons el els ih => rw [unsignedAll, ih, List.map_cons]

@[simp] theorem localName_unsigned (el : Element) : (unsigned el).localName = el.localName := by
  cases el
  rw [unsigned]
  rfl

@[simp] theorem get_unsigned (el : Element) (key : String) : (unsigned el).get key = el.get key := by
  cases el
  rw [unsigned]
  rfl

@[simp] theorem children_unsigned (el : Element) : (unsigned el).children = el.children.map unsigned := by
  cases el
  rw [unsigned, unsignedAll_eq_map]
  rfl

theorem text_unsigned {el : Element} (h : el.localName ≠ "CdtDbtInd") : (unsigned el).text = el.text := by
  cases el with
  | node namespaceUri name attrib text children =>
    change name ≠ "CdtDbtInd" at h
    rw [unsigned, if_neg h]
    rfl

mutual

theorem descendants_unsigned : ∀ el : Element, (unsigned el).descendants = el.descendants.map unsigned
  | .node namespaceUri name attrib text children => by
    rw [unsigned, Element.descendants, Element.descendants, forest_unsigned children]

theorem forest_unsigned : ∀ els : List Element,
    Element.forest (unsignedAll els) = (Element.forest els).map unsigned
  | [] => by rw [unsignedAll, Element.forest, List.map_nil]
  | el :: els => by
    rw [unsignedAll, Element.forest, Element.forest, descendants_unsigned el, forest_unsigned els, List.map_cons,
      List.map_append]

end

theorem filter_localName_unsigned (els : List Element) (name : String) :
    (els.map unsigned).filter (fun e => e.localName == name) =
      (els.filter fun e => e.localName == name).map unsigned := by
  rw [List.filter_map]
  congr 2
  funext el
  simp

theorem findall_unsigned (el : Element) (path : List String) :
    (unsigned el).findall path = (el.findall path).map unsigned := by
  have hfound : ∀ found : List Element, path.foldl (fun found name => found.flatMap fun e =>
      e.children.filter fun c => c.localName == name) (found.map unsigned) =
        (path.foldl (fun found name => found.flatMap fun e =>
          e.children.filter fun c => c.localName == name) found).map unsigned := by
    induction path with
    | nil => intro found; rfl
    | cons name path ih =>
      intro found
      rw [List.foldl_cons, List.foldl_cons, ← ih, List.flatMap_map, List.map_flatMap]
      simp only [children_unsigned, filter_localName_unsigned]
  exact hfound [el]

theorem find_unsigned (el : Element) (path : List String) :
    (unsigned el).find path = (el.find path).map unsigned := by
  rw [Element.find, findall_unsigned, List.head?_map]
  rfl

theorem localName_of_mem_findall {el found : Element} {path : List String} {name : String}
    (h : found ∈ el.findall (path ++ [name])) : found.localName = name := by
  rw [Element.findall, List.foldl_append, List.foldl_cons, List.foldl_nil] at h
  obtain ⟨_, _, hfound⟩ := List.mem_flatMap.mp h
  simpa using List.of_mem_filter hfound

theorem findText_unsigned (el : Element) (path : List String) (name : String) (hname : name ≠ "CdtDbtInd") :
    findText (unsigned el) (path ++ [name]) = findText el (path ++ [name]) := by
  rw [findText, findText, find_unsigned]
  cases hfind : el.find (path ++ [name]) with
  | none => rfl
  | some found =>
    apply text_unsigned
    rw [localName_of_mem_findall (List.mem_of_mem_head? hfind)]
    exact hname

theorem isClosing_unsigned (bal : Element) : isClosing (unsigned bal) = isClosing bal :=
  congrArg (· == some "CLBD") (findText_unsigned bal ["Tp", "CdOrPrtry"] "Cd" (by decide))

theorem closingBalance_unsigned (stmt bal : Element) :
    closingBalance (unsigned stmt) (unsigned bal) = closingBalance stmt bal := by
  have hid := findText_unsigned stmt [] "Id" (by decide)
  have hiban := findText_unsigned stmt ["Acct", "Id"] "IBAN" (by decide)
  have hamount := findText_unsigned bal [] "Amt" (by decide)
  have hcurrency : ((unsigned bal).find ["Amt"]).bind (fun amt => amt.get "Ccy") =
      (bal.find ["Amt"]).bind fun amt => amt.get "Ccy" := by
    rw [find_unsigned]
    cases bal.find ["Amt"] <;> simp
  rw [List.nil_append] at hid hamount
  rw [closingBalance, closingBalance, statementId, statementId, iban, iban, hid, hamount, hcurrency]
  exact congrArg (ClosingBalance.mk _ · _ _) hiban

/-- What a document states of its closing balances does not depend on their signs. -/
theorem closingBalances_unsigned (root : Element) : closingBalances (unsigned root) = closingBalances root := by
  have hstmt : ∀ stmt, closingBalancesOf (unsigned stmt) = closingBalancesOf stmt := by
    intro stmt
    rw [closingBalancesOf_eq_map, closingBalancesOf_eq_map, findall_unsigned, List.filter_map, List.map_map]
    have hclosing : isClosing ∘ unsigned = isClosing := funext isClosing_unsigned
    rw [hclosing]
    apply List.map_congr_left
    intro bal _
    exact closingBalance_unsigned stmt bal
  rw [closingBalances, Element.findallBelow, descendants_unsigned, filter_localName_unsigned, List.flatMap_map]
  simp only [hstmt]
  rfl

def closingIndicators (root : Element) : List (Option String) :=
  (root.findallBelow "Stmt").flatMap fun stmt =>
    ((stmt.findall ["Bal"]).filter isClosing).map fun bal => findText bal ["CdtDbtInd"]

/-- The documents agree but for the signs of balances, and the closing balance at `k` is a credit in
the one and a debit in the other. -/
structure Reversed (root root' : Element) (k : ℕ) : Prop where
  same : unsigned root = unsigned root'
  credit : (closingIndicators root)[k]? = some (some "CRDT")
  debit : (closingIndicators root')[k]? = some (some "DBIT")

/-- The parser raises on the second document, or the payloads at `k` differ. -/
def ShowsSign (out out' : Except PyExc (List (RawRecord Empty))) (k : ℕ) : Prop :=
  ∀ records', out' = .ok records' → ∃ records r r', out = .ok records ∧ records[k]? = some r ∧
    records'[k]? = some r' ∧ r.payload ≠ r'.payload

theorem payload_of_record? {r r' : RawRecord Empty} (h : b.record? raw_xml source_message_id = some r)
    (h' : b.record? raw_xml' source_message_id' = some r') : r.payload = r'.payload := by
  obtain ⟨iban, amount, hiban, hamount, rfl⟩ := record?_eq_some h
  obtain ⟨iban', amount', hiban', hamount', rfl⟩ := record?_eq_some h'
  cases hiban.symm.trans hiban'
  cases hamount.symm.trans hamount'
  rfl

/-- The payloads show no sign, so only a raise keeps a debit from being reported as a credit. -/
theorem showsSign_iff {k : ℕ} (hroot : fromstring raw_xml = .ok root) (hroot' : fromstring raw_xml' = .ok root')
    (h : Reversed root root' k) :
    ShowsSign (parse_balances fromstring raw_xml source_message_id)
      (parse_balances fromstring raw_xml' source_message_id') k ↔ ∃ b ∈ closingBalances root, b.Unstated := by
  have hsame : closingBalances root = closingBalances root' := by
    rw [← closingBalances_unsigned root, h.same, closingBalances_unsigned]
  constructor
  · intro hshows
    cases hparse' : parse_balances fromstring raw_xml' source_message_id' with
    | error e =>
      rw [hsame]
      exact (parse_balances_raises_iff source_message_id' hroot').mp ⟨e, hparse'⟩
    | ok records' =>
      obtain ⟨records, r, r', hparse, hr, hr', hne⟩ := hshows records' hparse'
      have hrecords := parse_balances_ok hroot hparse
      have hrecords' := parse_balances_ok hroot' hparse'
      rw [← hsame] at hrecords'
      obtain ⟨hk, rfl⟩ := List.getElem?_eq_some_iff.mp hr
      obtain ⟨hk', rfl⟩ := List.getElem?_eq_some_iff.mp hr'
      have hb : k < (closingBalances root).length := hrecords.length_eq ▸ hk
      exact absurd (payload_of_record? (hrecords.get hb hk) (hrecords'.get hb hk')) hne
  · intro hunstated records' hparse'
    rw [hsame, ← parse_balances_raises_iff source_message_id' hroot'] at hunstated
    obtain ⟨e, he⟩ := hunstated
    cases he.symm.trans hparse'

def signedDocument (account : List Element) (indicator : String) : Element :=
  branch "Document" [branch "Stmt" (leaf "Id" "S1" :: (account ++
    [branch "Bal" [branch "Tp" [branch "CdOrPrtry" [leaf "Cd" "CLBD"]],
      .node none "Amt" [("Ccy", "EUR")] (some "1250.50") [], leaf "CdtDbtInd" indicator]]))]

def signedXml (account indicator : String) : List UInt8 :=
  documentXml ("<Stmt><Id>S1</Id>" ++ account ++ "<Bal><Tp><CdOrPrtry><Cd>CLBD</Cd></CdOrPrtry></Tp>" ++
    "<Amt Ccy=\"EUR\">1250.50</Amt><CdtDbtInd>" ++ indicator ++ "</CdtDbtInd></Bal></Stmt>")

def signedParser (account : List Element) (accountXml : String) (bytes : List UInt8) : Except PyExc Element :=
  if bytes = signedXml accountXml "DBIT" then .ok (signedDocument account "DBIT")
  else parserOf (signedXml accountXml "CRDT") (signedDocument account "CRDT") bytes

def account : List Element := [branch "Acct" [branch "Id" [leaf "IBAN" "FR7630006000011234567890189"]]]

def accountXml : String := "<Acct><Id><IBAN>FR7630006000011234567890189</IBAN></Id></Acct>"

theorem signedParser_debit (account : List Element) (accountXml : String) :
    signedParser account accountXml (signedXml accountXml "DBIT") = .ok (signedDocument account "DBIT") :=
  if_pos rfl

theorem signedXml_ne (accountXml : String) : signedXml accountXml "CRDT" ≠ signedXml accountXml "DBIT" := by
  intro h
  have htext := Json.utf8_injective h
  simp [← String.append_assoc] at htext

theorem signedParser_credit (account : List Element) (accountXml : String) :
    signedParser account accountXml (signedXml accountXml "CRDT") = .ok (signedDocument account "CRDT") := by
  rw [signedParser, if_neg (signedXml_ne accountXml), parserOf_self]

/-- Without an IBAN both documents are refused. -/
theorem unnamedAccount_showsSign : ShowsSign
    (parse_balances (signedParser [] "") (signedXml "" "CRDT") none)
    (parse_balances (signedParser [] "") (signedXml "" "DBIT") none) 0 :=
  (showsSign_iff (signedParser_credit [] "") (signedParser_debit [] "") ⟨rfl, rfl, rfl⟩).mpr
    ⟨_, List.mem_singleton_self _, Or.inl rfl⟩

/-- An overdrawn account is reported like one in credit. -/
theorem overdrawn_reported : Reversed (signedDocument account "CRDT") (signedDocument account "DBIT") 0 ∧
    ¬ShowsSign (parse_balances (signedParser account accountXml) (signedXml accountXml "CRDT") none)
      (parse_balances (signedParser account accountXml) (signedXml accountXml "DBIT") none) 0 := by
  have hcredit : signedParser account accountXml (signedXml accountXml "CRDT") =
      .ok (signedDocument account "CRDT") := signedParser_credit account accountXml
  have hparse : parse_balances (signedParser account accountXml) (signedXml accountXml "CRDT") none =
      .ok [firstRecord (signedXml accountXml "CRDT")] := by
    rw [parse_balances, hcredit]
    rfl
  have hparse' : parse_balances (signedParser account accountXml) (signedXml accountXml "DBIT") none =
      .ok [firstRecord (signedXml accountXml "DBIT")] := by
    rw [parse_balances, signedParser_debit]
    rfl
  refine ⟨⟨rfl, rfl, rfl⟩, ?_⟩
  intro h
  obtain ⟨records, r, r', hrecords, hr, hr', hne⟩ := h _ hparse'
  cases hparse.symm.trans hrecords
  cases hr
  cases hr'
  have hpayload : ∀ raw raw', (firstRecord raw).payload = (firstRecord raw').payload := fun _ _ => rfl
  exact hne (hpayload _ _)

end Camt053
end AtlasConnectors
