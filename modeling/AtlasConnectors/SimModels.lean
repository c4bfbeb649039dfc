import AtlasConnectors.Kernel

/-! The models of simulated records: the contract of manual mode and the shape that
generators emit. A model's fields carry what its validation checked. -/
namespace AtlasConnectors

/-- A validation, which reports every field it refuses. -/
inductive Checked (α : Type)
  | ok (a : α)
  | errors (es : List FieldError)

namespace Checked

variable {α β : Type}

def seq (f : Checked (α → β)) (x : Unit → Checked α) : Checked β :=
  match f, x () with
  | .ok g, .ok a => .ok (g a)
  | .ok _, .errors es => .errors es
  | .errors es, .ok _ => .errors es
  | .errors es, .errors fs => .errors (es ++ fs)

instance : Applicative Checked where
  pure := ok
  seq := seq

theorem seq_eq_ok {f : Checked (α → β)} {x : Checked α} {b : β} :
    (f <*> x) = .ok b ↔ ∃ g a, f = .ok g ∧ x = .ok a ∧ g a = b := by
  change seq f (fun _ => x) = .ok b ↔ _
  cases f <;> cases x <;> simp [seq]

theorem map_eq_ok {f : α → β} {x : Checked α} {b : β} :
    (f <$> x) = .ok b ↔ ∃ a, x = .ok a ∧ f a = b := by
  change seq (ok f) (fun _ => x) = .ok b ↔ _
  cases x <;> simp [seq]

/-- A check on what another one returned. -/
def andThen (x : Checked α) (f : α → Checked β) : Checked β :=
  match x with
  | .ok a => f a
  | .errors es => .errors es

/-- Raise a `ValidationError` when a field was refused. -/
def raise : Checked α → Except PyExc α
  | .ok a => .ok a
  | .errors es => .error (.validationError es)

theorem raise_eq_ok {x : Checked α} {a : α} : x.raise = .ok a ↔ x = .ok a := by
  cases x <;> simp [raise]

end Checked

def inRange (lo hi : Char) (c : Char) : Bool := lo.toNat ≤ c.toNat && c.toNat ≤ hi.toNat

/-- `^[A-Z]{2}[0-9A-Z]{12,30}$`. -/
def ibanPattern (s : String) : Bool :=
  let cs := s.toList
  14 ≤ cs.length && cs.length ≤ 32 && (cs.take 2).all (inRange 'A' 'Z') &&
    (cs.drop 2).all fun c => inRange '0' '9' c || inRange 'A' 'Z' c

/-- `^[A-Z]{3}$`. -/
def currencyPattern (s : String) : Bool := s.toList.length == 3 && s.toList.all (inRange 'A' 'Z')

abbrev Iban := {s : String // ibanPattern s = true}

abbrev CurrencyCode := {s : String // currencyPattern s = true}

/-- A text that `Decimal` accepts. -/
abbrev DecimalText := {s : String // (NumberText.decimalKind s).isSome = true}

def escapeRepr (quote c : Char) : List Char :=
  if c = quote ∨ c = '\\' then ['\\', c]
  else if c = '\n' then ['\\', 'n']
  else if c = '\r' then ['\\', 'r']
  else if c = '\t' then ['\\', 't']
  else if c.toNat < 32 ∨ c.toNat = 127 then
    ['\\', 'x', Nat.digitChar (c.toNat / 16), Nat.digitChar (c.toNat % 16)]
  else [c]

/-- `repr(s)` of a text whose characters outside ASCII are printable. -/
def reprText (s : String) : String :=
  let single := Char.ofNat 39
  let quote := if s.toList.contains single && !s.toList.contains '"' then '"' else single
  String.ofList (quote :: (s.toList.flatMap (escapeRepr quote) ++ [quote]))

/-- `_require_decimal`. -/
def require_decimal (value : String) (signed : Bool) : Except PyExc String :=
  match NumberText.decimalKind value with
  | none => .error (.valueError ("not a decimal string: " ++ reprText value))
  | some _ =>
    if !signed && (NumberText.strip value.toList).head? == some '-' then
      .error (.valueError ("must not be negative: " ++ reprText value))
    else .ok value

theorem require_decimal_ok {value out : String} {signed : Bool}
    (h : require_decimal value signed = .ok out) :
    out = value ∧ (NumberText.decimalKind value).isSome = true := by
  cases hkind : NumberText.decimalKind value with
  | none =>
    rw [require_decimal, hkind] at h
    cases h
  | some k =>
    simp only [require_decimal, hkind] at h
    split_ifs at h
    cases h
    exact ⟨rfl, rfl⟩

theorem require_decimal_signed {value : String} (h : (NumberText.decimalKind value).isSome = true) :
    require_decimal value true = .ok value := by
  obtain ⟨k, hk⟩ := Option.isSome_iff_exists.mp h
  simp [require_decimal, hk]

def checkIban (loc s : String) : Checked Iban :=
  if h : ibanPattern s = true then .ok ⟨s, h⟩
  else .errors [⟨loc, "string_pattern_mismatch",
    "String should match pattern '^[A-Z]\x7b2\x7d[0-9A-Z]\x7b12,30\x7d$'", .str s⟩]

def checkCurrency (s : String) : Checked CurrencyCode :=
  if h : currencyPattern s = true then .ok ⟨s, h⟩
  else .errors [⟨"currency", "string_pattern_mismatch",
    "String should match pattern '^[A-Z]\x7b3\x7d$'", .str s⟩]

/-- The field validators `_balance_decimal` and `_amount_decimal`. -/
def checkDecimal (loc s : String) : Checked DecimalText :=
  match h : require_decimal s true with
  | .ok out => .ok ⟨out, by
      obtain ⟨rfl, hsome⟩ := require_decimal_ok h
      exact hsome⟩
  | .error (.valueError msg) => .errors [⟨loc, "value_error", "Value error, " ++ msg, .str s⟩]
  | .error _ => .errors [⟨loc, "value_error", "Value error", .str s⟩]

theorem checkIban_ok {loc s : String} {x : Iban} (h : checkIban loc s = .ok x) : x.1 = s := by
  unfold checkIban at h
  split_ifs at h
  cases h
  rfl

theorem checkCurrency_ok {s : String} {x : CurrencyCode} (h : checkCurrency s = .ok x) :
    x.1 = s := by
  unfold checkCurrency at h
  split_ifs at h
  cases h
  rfl

theorem checkDecimal_ok {loc s : String} {x : DecimalText} (h : checkDecimal loc s = .ok x) :
    x.1 = s := by
  unfold checkDecimal at h
  split at h
  · rename_i out hout
    cases h
    exact (require_decimal_ok hout).1
  · cases h
  · cases h

def required {α : Type} (payload : Payload PyFloat) (loc : String)
    (check : Json PyFloat → Checked α) : Checked α :=
  match payload.lookup loc with
  | some v => check v
  | none => .errors [⟨loc, "missing", "Field required", .obj payload⟩]

/-- A field of type `T | None` whose default is `None`. -/
def optional {α : Type} (payload : Payload PyFloat) (loc : String)
    (check : Json PyFloat → Checked α) : Checked (Option α) :=
  match payload.lookup loc with
  | none => .ok none
  | some .null => .ok none
  | some v => some <$> check v

def checkText (loc : String) : Json PyFloat → Checked String
  | .str s => .ok s
  | v => .errors [⟨loc, "string_type", "Input should be a valid string", v⟩]

/-- A text field with a further check. -/
def checkTextWith {α : Type} (loc : String) (check : String → Checked α) (v : Json PyFloat) :
    Checked α :=
  (checkText loc v).andThen check

theorem checkTextWith_ok {α : Type} {loc : String} {check : String → Checked α} {v : Json PyFloat}
    {a : α} (h : checkTextWith loc check v = .ok a) : ∃ s, v = .str s ∧ check s = .ok a := by
  cases v with
  | str s => exact ⟨s, rfl, h⟩
  | _ => cases h

theorem required_ok {α : Type} {payload : Payload PyFloat} {loc : String}
    {check : Json PyFloat → Checked α} {a : α} (h : required payload loc check = .ok a) :
    ∃ v, payload.lookup loc = some v ∧ check v = .ok a := by
  unfold required at h
  cases hv : payload.lookup loc with
  | none =>
    rw [hv] at h
    cases h
  | some v =>
    rw [hv] at h
    exact ⟨v, rfl, h⟩

inductive Direction
  | credit | debit
  deriving DecidableEq, Repr

def Direction.text : Direction → String
  | credit => "credit"
  | debit => "debit"

def checkDirection : Json PyFloat → Checked Direction
  | .str "credit" => .ok .credit
  | .str "debit" => .ok .debit
  | v => .errors [⟨"direction", "literal_error", "Input should be 'credit' or 'debit'", v⟩]

/-- pydantic's parsers of dates and times; an error is its type and its text. -/
structure DateParsers where
  date : Json PyFloat → Except (String × String) Date
  datetime : Json PyFloat → Except (String × String) DateTime

def checkParsed {α : Type} (parse : Json PyFloat → Except (String × String) α) (loc : String)
    (v : Json PyFloat) : Checked α :=
  match parse v with
  | .ok a => .ok a
  | .error (type, msg) => .errors [⟨loc, type, msg, v⟩]

def optionText : Option String → Json Empty
  | some s => .str s
  | none => .null

/-- A synthetic bank account under a synthetic entity. -/
structure SimBankAccount where
  iban : Iban
  label : String
  currency : CurrencyCode
  entity : String
  balance : DecimalText

namespace SimBankAccount

def create (iban label currency entity balance : String) : Except PyExc SimBankAccount :=
  Checked.raise ((fun iban currency balance => ⟨iban, label, currency, entity, balance⟩) <$>
    checkIban "iban" iban <*> checkCurrency currency <*> checkDecimal "balance" balance)

def model_validate (payload : Payload PyFloat) : Checked SimBankAccount :=
  SimBankAccount.mk <$>
    required payload "iban" (checkTextWith "iban" (checkIban "iban")) <*>
    required payload "label" (checkText "label") <*>
    required payload "currency" (checkTextWith "currency" checkCurrency) <*>
    required payload "entity" (checkText "entity") <*>
    required payload "balance" (checkTextWith "balance" (checkDecimal "balance"))

/-- `model_dump(mode="json")`. -/
def model_dump (a : SimBankAccount) : Payload Empty :=
  [("iban", .str a.iban), ("label", .str a.label), ("currency", .str a.currency),
    ("entity", .str a.entity), ("balance", .str a.balance)]

theorem create_ok {iban label currency entity balance : String} {a : SimBankAccount}
    (h : create iban label currency entity balance = .ok a) : a.iban.1 = iban ∧ a.label = label ∧
      a.currency.1 = currency ∧ a.entity = entity ∧ a.balance.1 = balance := by
  have hok := Checked.raise_eq_ok.mp h
  simp only [Checked.seq_eq_ok, Checked.map_eq_ok] at hok
  obtain ⟨_, b, ⟨_, c, ⟨i, hi, rfl⟩, hc, rfl⟩, hb, rfl⟩ := hok
  exact ⟨checkIban_ok hi, rfl, checkCurrency_ok hc, rfl, checkDecimal_ok hb⟩

theorem create_eq {iban label currency entity balance : String} {a : SimBankAccount}
    (h : create iban label currency entity balance = .ok a) :
    ∃ hiban hcurrency hbalance, a = ⟨⟨iban, hiban⟩, label, ⟨currency, hcurrency⟩, entity, ⟨balance, hbalance⟩⟩ := by
  have hok := Checked.raise_eq_ok.mp h
  simp only [Checked.seq_eq_ok, Checked.map_eq_ok] at hok
  obtain ⟨_, b, ⟨_, c, ⟨i, hi, rfl⟩, hc, rfl⟩, hb, rfl⟩ := hok
  cases checkIban_ok hi
  cases checkCurrency_ok hc
  cases checkDecimal_ok hb
  exact ⟨i.2, c.2, b.2, rfl⟩

theorem model_validate_balance {payload : Payload PyFloat} {a : SimBankAccount}
    (h : model_validate payload = .ok a) : payload.lookup "balance" = some (.str a.balance.1) := by
  simp only [model_validate, Checked.seq_eq_ok, Checked.map_eq_ok] at h
  obtain ⟨_, b, ⟨_, _, ⟨_, _, ⟨_, _, ⟨_, _, rfl⟩, _, rfl⟩, _, rfl⟩, _, rfl⟩, hb, rfl⟩ := h
  obtain ⟨v, hv, hcheck⟩ := required_ok hb
  obtain ⟨s, rfl, hs⟩ := checkTextWith_ok hcheck
  rw [hv, checkDecimal_ok hs]

end SimBankAccount

/-- One bank cash flow. -/
structure SimCashFlow where
  account_iban : Iban
  amount : DecimalText
  currency : CurrencyCode
  value_date : Date
  booked_at : Option DateTime
  direction : Direction
  counterparty : String
  label : String
  ref : Option String
  category_hint : Option String

namespace SimCashFlow

def create (account_iban amount currency : String) (value_date : Date) (booked_at : Option DateTime)
    (direction : Direction) (counterparty label : String) (ref category_hint : Option String) :
    Except PyExc SimCashFlow :=
  Checked.raise ((fun account_iban amount currency => ⟨account_iban, amount, currency, value_date,
      booked_at, direction, counterparty, label, ref, category_hint⟩) <$>
    checkIban "account_iban" account_iban <*> checkDecimal "amount" amount <*>
      checkCurrency currency)

def model_validate (parsers : DateParsers) (payload : Payload PyFloat) : Checked SimCashFlow :=
  SimCashFlow.mk <$>
    required payload "account_iban" (checkTextWith "account_iban" (checkIban "account_iban")) <*>
    required payload "amount" (checkTextWith "amount" (checkDecimal "amount")) <*>
    required payload "currency" (checkTextWith "currency" checkCurrency) <*>
    required payload "value_date" (checkParsed parsers.date "value_date") <*>
    optional payload "booked_at" (checkParsed parsers.datetime "booked_at") <*>
    required payload "direction" checkDirection <*>
    required payload "counterparty" (checkText "counterparty") <*>
    required payload "label" (checkText "label") <*>
    optional payload "ref" (checkText "ref") <*>
    optional payload "category_hint" (checkText "category_hint")

/-- `model_dump(mode="json")`. -/
def model_dump (f : SimCashFlow) : Payload Empty :=
  [("account_iban", .str f.account_iban), ("amount", .str f.amount), ("currency", .str f.currency),
    ("value_date", .str f.value_date.isoformat),
    ("booked_at", optionText (f.booked_at.map DateTime.isoformat)),
    ("direction", .str f.direction.text), ("counterparty", .str f.counterparty),
    ("label", .str f.label), ("ref", optionText f.ref),
    ("category_hint", optionText f.category_hint)]

theorem create_ok {account_iban amount currency : String} {value_date : Date}
    {booked_at : Option DateTime} {direction : Direction} {counterparty label : String}
    {ref category_hint : Option String} {f : SimCashFlow}
    (h : create account_iban amount currency value_date booked_at direction counterparty label ref
      category_hint = .ok f) :
    f.account_iban.1 = account_iban ∧ f.amount.1 = amount ∧ f.currency.1 = currency ∧
      f.value_date = value_date ∧ f.booked_at = booked_at ∧ f.ref = ref := by
  have hok := Checked.raise_eq_ok.mp h
  simp only [Checked.seq_eq_ok, Checked.map_eq_ok] at hok
  obtain ⟨_, c, ⟨_, a, ⟨i, hi, rfl⟩, ha, rfl⟩, hc, rfl⟩ := hok
  exact ⟨checkIban_ok hi, checkDecimal_ok ha, checkCurrency_ok hc, rfl, rfl, rfl⟩

theorem create_eq {account_iban amount currency : String} {value_date : Date}
    {booked_at : Option DateTime} {direction : Direction} {counterparty label : String}
    {ref category_hint : Option String} {f : SimCashFlow}
    (h : create account_iban amount currency value_date booked_at direction counterparty label ref
      category_hint = .ok f) :
    ∃ hiban hamount hcurrency, f = ⟨⟨account_iban, hiban⟩, ⟨amount, hamount⟩, ⟨currency, hcurrency⟩,
      value_date, booked_at, direction, counterparty, label, ref, category_hint⟩ := by
  have hok := Checked.raise_eq_ok.mp h
  simp only [Checked.seq_eq_ok, Checked.map_eq_ok] at hok
  obtain ⟨_, c, ⟨_, a, ⟨i, hi, rfl⟩, ha, rfl⟩, hc, rfl⟩ := hok
  cases checkIban_ok hi
  cases checkDecimal_ok ha
  cases checkCurrency_ok hc
  exact ⟨i.2, a.2, c.2, rfl⟩

theorem model_validate_amount {parsers : DateParsers} {payload : Payload PyFloat} {f : SimCashFlow}
    (h : model_validate parsers payload = .ok f) :
    payload.lookup "amount" = some (.str f.amount.1) := by
  simp only [model_validate, Checked.seq_eq_ok, Checked.map_eq_ok] at h
  obtain ⟨_, _, ⟨_, _, ⟨_, _, ⟨_, _, ⟨_, _, ⟨_, _, ⟨_, _, ⟨_, _, ⟨_, a, ⟨_, _, rfl⟩, ha, rfl⟩, _, rfl⟩, _, rfl⟩,
    _, rfl⟩, _, rfl⟩, _, rfl⟩, _, rfl⟩, _, rfl⟩, _, rfl⟩ := h
  obtain ⟨v, hv, hcheck⟩ := required_ok ha
  obtain ⟨s, rfl, hs⟩ := checkTextWith_ok hcheck
  rw [hv, checkDecimal_ok hs]

end SimCashFlow

/-- One leg of an ERP book entry. -/
structure SimErpEntry where
  ref : String
  amount : DecimalText
  currency : CurrencyCode
  entry_date : Date
  label : String
  matches_iban : Option String

namespace SimErpEntry

def create (ref amount currency : String) (entry_date : Date) (label : String)
    (matches_iban : Option String) : Except PyExc SimErpEntry :=
  Checked.raise ((fun amount currency => ⟨ref, amount, currency, entry_date, label,
      matches_iban⟩) <$> checkDecimal "amount" amount <*> checkCurrency currency)

def model_validate (parsers : DateParsers) (payload : Payload PyFloat) : Checked SimErpEntry :=
  SimErpEntry.mk <$>
    required payload "ref" (checkText "ref") <*>
    required payload "amount" (checkTextWith "amount" (checkDecimal "amount")) <*>
    required payload "currency" (checkTextWith "currency" checkCurrency) <*>
    required payload "entry_date" (checkParsed parsers.date "entry_date") <*>
    required payload "label" (checkText "label") <*>
    optional payload "matches_iban" (checkText "matches_iban")

/-- `model_dump(mode="json")`. -/
def model_dump (e : SimErpEntry) : Payload Empty :=
  [("ref", .str e.ref), ("amount", .str e.amount), ("currency", .str e.currency),
    ("entry_date", .str e.entry_date.isoformat), ("label", .str e.label),
    ("matches_iban", optionText e.matches_iban)]

theorem create_ok {ref amount currency : String} {entry_date : Date} {label : String}
    {matches_iban : Option String} {e : SimErpEntry}
    (h : create ref amount currency entry_date label matches_iban = .ok e) :
    e.ref = ref ∧ e.amount.1 = amount := by
  have hok := Checked.raise_eq_ok.mp h
  simp only [Checked.seq_eq_ok, Checked.map_eq_ok] at hok
  obtain ⟨_, c, ⟨a, ha, rfl⟩, hc, rfl⟩ := hok
  exact ⟨rfl, checkDecimal_ok ha⟩

theorem create_eq {ref amount currency : String} {entry_date : Date} {label : String}
    {matches_iban : Option String} {e : SimErpEntry}
    (h : create ref amount currency entry_date label matches_iban = .ok e) : ∃ hamount hcurrency,
      e = ⟨ref, ⟨amount, hamount⟩, ⟨currency, hcurrency⟩, entry_date, label, matches_iban⟩ := by
  have hok := Checked.raise_eq_ok.mp h
  simp only [Checked.seq_eq_ok, Checked.map_eq_ok] at hok
  obtain ⟨_, c, ⟨a, ha, rfl⟩, hc, rfl⟩ := hok
  cases checkDecimal_ok ha
  cases checkCurrency_ok hc
  exact ⟨a.2, c.2, rfl⟩

theorem model_validate_amount {parsers : DateParsers} {payload : Payload PyFloat} {e : SimErpEntry}
    (h : model_validate parsers payload = .ok e) :
    payload.lookup "amount" = some (.str e.amount.1) := by
  simp only [model_validate, Checked.seq_eq_ok, Checked.map_eq_ok] at h
  obtain ⟨_, _, ⟨_, _, ⟨_, _, ⟨_, _, ⟨_, a, ⟨_, _, rfl⟩, ha, rfl⟩, _, rfl⟩, _, rfl⟩, _, rfl⟩, _, rfl⟩ := h
  obtain ⟨v, hv, hcheck⟩ := required_ok ha
  obtain ⟨s, rfl, hs⟩ := checkTextWith_ok hcheck
  rw [hv, checkDecimal_ok hs]

end SimErpEntry

/-- The validation and JSON dump of one model, as manual mode uses it. -/
abbrev SimModel := Payload PyFloat → Checked (Payload Empty)

structure SimModels where
  bank_account : SimModel
  cash_flow : SimModel
  financial_transaction : SimModel

def SimModels.table (models : SimModels) : Dict String SimModel :=
  [("bank_account", models.bank_account), ("cash_flow", models.cash_flow),
    ("financial_transaction", models.financial_transaction)]

def SIM_MODELS (parsers : DateParsers) : SimModels where
  bank_account payload := SimBankAccount.model_dump <$> SimBankAccount.model_validate payload
  cash_flow payload := SimCashFlow.model_dump <$> SimCashFlow.model_validate parsers payload
  financial_transaction payload :=
    SimErpEntry.model_dump <$> SimErpEntry.model_validate parsers payload

abbrev SimRecord := String × Payload Empty

/-- What every generator returns. -/
structure GeneratedBatch where
  records : List SimRecord
  ground_truth : Payload PyFloat
  source_format : String

def SimBankAccount.record (a : SimBankAccount) : SimRecord := ("bank_account", a.model_dump)

def SimCashFlow.record (f : SimCashFlow) : SimRecord := ("cash_flow", f.model_dump)

def SimErpEntry.record (e : SimErpEntry) : SimRecord := ("financial_transaction", e.model_dump)

theorem isScalar_optionText (o : Option String) : Json.IsScalar (optionText o) := by
  cases o <;> trivial

/-- A record of a known type whose payload has exactly the telling keys of that type. -/
structure Typed (r : SimRecord) : Prop where
  flat : Json.Flat r.2
  known : r.1 = "bank_account" ∨ r.1 = "cash_flow" ∨ r.1 = "financial_transaction"
  account_iban : (r.2.lookup "account_iban").isSome = true ↔ r.1 = "cash_flow"
  entry_date : (r.2.lookup "entry_date").isSome = true ↔ r.1 = "financial_transaction"

theorem Typed.type_eq {r r' : SimRecord} (h : Typed r) (h' : Typed r')
    (hlook : ∀ k, r.2.lookup k = r'.2.lookup k) : r.1 = r'.1 := by
  have hcash : r.1 = "cash_flow" ↔ r'.1 = "cash_flow" := by
    rw [← h.account_iban, ← h'.account_iban, hlook]
  have herp : r.1 = "financial_transaction" ↔ r'.1 = "financial_transaction" := by
    rw [← h.entry_date, ← h'.entry_date, hlook]
  rcases h.known with hr | hr | hr
  · rcases h'.known with hr' | hr' | hr'
    · rw [hr, hr']
    · exact absurd (hcash.mpr hr') (by simp [hr])
    · exact absurd (herp.mpr hr') (by simp [hr])
  · exact hr.trans (hcash.mp hr).symm
  · exact hr.trans (herp.mp hr).symm

theorem SimBankAccount.flat (a : SimBankAccount) : Json.Flat a.model_dump := by
  refine ⟨by simp [Dict.keys, model_dump], ?_⟩
  simp [model_dump]

theorem SimCashFlow.flat (f : SimCashFlow) : Json.Flat f.model_dump := by
  refine ⟨by simp [Dict.keys, model_dump], ?_⟩
  simp [model_dump, isScalar_optionText]

theorem SimErpEntry.flat (e : SimErpEntry) : Json.Flat e.model_dump := by
  refine ⟨by simp [Dict.keys, model_dump], ?_⟩
  simp [model_dump, isScalar_optionText]

theorem SimBankAccount.typed (a : SimBankAccount) : Typed a.record :=
  ⟨a.flat, Or.inl rfl, by simp [record, model_dump, Dict.lookup_cons],
    by simp [record, model_dump, Dict.lookup_cons]⟩

theorem SimCashFlow.typed (f : SimCashFlow) : Typed f.record :=
  ⟨f.flat, Or.inr (Or.inl rfl), by simp [record, model_dump],
    by simp [record, model_dump, Dict.lookup_cons]⟩

theorem SimErpEntry.typed (e : SimErpEntry) : Typed e.record :=
  ⟨e.flat, Or.inr (Or.inr rfl), by simp [record, model_dump, Dict.lookup_cons],
    by simp [record, model_dump, Dict.lookup_cons]⟩

end AtlasConnectors
