import AtlasConnectors.Publishing

/-! The camt.053 adapter: closing-booked balances of a bank statement file. -/
namespace AtlasConnectors

/-- An element of a parsed XML document; a tag is a namespace and a local name. -/
inductive Element
  | node (namespaceUri : Option String) (localName : String) (attrib : Dict String String)
      (text : Option String) (children : List Element)

namespace Element

def localName : Element → String
  | node _ name _ _ _ => name

def text : Element → Option String
  | node _ _ _ text _ => text

def children : Element → List Element
  | node _ _ _ _ children => children

/-- `el.get(key)`. -/
def get : Element → String → Option String
  | node _ _ attrib _ _, key => attrib.lookup key

mutual

def descendants : Element → List Element
  | node _ _ _ _ children => forest children

def forest : List Element → List Element
  | [] => []
  | el :: els => el :: (descendants el ++ forest els)

end

/-- `el.findall` of the path `{*}a/{*}b/…`, which matches local names in any namespace. -/
def findall (el : Element) (path : List String) : List Element :=
  path.foldl (fun found name => found.flatMap fun e => e.children.filter fun c =>
    c.localName == name) [el]

def find (el : Element) (path : List String) : Option Element := (el.findall path).head?

/-- `el.findall(".//{*}name")`. -/
def findallBelow (el : Element) (name : String) : List Element :=
  el.descendants.filter fun e => e.localName == name

end Element

namespace Camt053

def findText (el : Element) (path : List String) : Option String := (el.find path).bind Element.text

/-- `value or default` on an optional string. -/
def orElse (value : Option String) (default : String) : String :=
  match value with
  | some s => if s = "" then default else s
  | none => default

def statementId (stmt : Element) : String := orElse (findText stmt ["Id"]) "unknown-stmt"

def iban (stmt : Element) : Option String := findText stmt ["Acct", "Id", "IBAN"]

def optionalText (s : Option String) : Json Empty :=
  match s with
  | some s => .str s
  | none => .null

def balanceRecord (raw_xml : List UInt8) (source_message_id : Option String) (stmt_id iban amount : String)
    (currency : Option String) : RawRecord Empty where
  source_system := "camt053"
  source_message_id := orElse source_message_id stmt_id
  record_type := "bank_balance"
  payload := [("iban", .str iban), ("amount", .str amount), ("currency", optionalText currency),
    ("balance_type", .str "closing_booked"), ("statement_id", .str stmt_id)]
  raw_bytes := raw_xml

def missingError (stmt : Element) : PyExc :=
  .valueError ("camt.053 statement " ++ statementId stmt ++ ": missing IBAN or CLBD amount")

/-- The body of the inner loop: one balance of a statement. -/
def parseBalance (raw_xml : List UInt8) (source_message_id : Option String) (stmt : Element)
    (records : List (RawRecord Empty)) (bal : Element) : Except PyExc (List (RawRecord Empty)) :=
  if findText bal ["Tp", "CdOrPrtry", "Cd"] ≠ some "CLBD" then .ok records
  else
    match bal.find ["Amt"], iban stmt with
    | some amt, some iban =>
      match amt.text with
      | some amount => .ok (records ++
          [balanceRecord raw_xml source_message_id (statementId stmt) iban amount (amt.get "Ccy")])
      | none => .error (missingError stmt)
    | _, _ => .error (missingError stmt)

/-- The body of the outer loop: the balances of one statement. -/
def parseStatement (raw_xml : List UInt8) (source_message_id : Option String)
    (records : List (RawRecord Empty)) (stmt : Element) : Except PyExc (List (RawRecord Empty)) :=
  (stmt.findall ["Bal"]).foldlM (parseBalance raw_xml source_message_id stmt) records

/-- Parse the closing-booked balances of a document; `fromstring` is the XML parser. -/
def parse_balances (fromstring : List UInt8 → Except PyExc Element) (raw_xml : List UInt8)
    (source_message_id : Option String) : Except PyExc (List (RawRecord Empty)) := do
  let root ← fromstring raw_xml
  (root.findallBelow "Stmt").foldlM (parseStatement raw_xml source_message_id) []

/-- What one closing balance states. -/
structure ClosingBalance where
  statement_id : String
  iban : Option String
  amount : Option String
  currency : Option String
  deriving DecidableEq

def isClosing (bal : Element) : Bool := findText bal ["Tp", "CdOrPrtry", "Cd"] == some "CLBD"

def closingBalance (stmt bal : Element) : ClosingBalance where
  statement_id := statementId stmt
  iban := iban stmt
  amount := findText bal ["Amt"]
  currency := (bal.find ["Amt"]).bind fun amt => amt.get "Ccy"

def closingBalancesOf (stmt : Element) : List ClosingBalance :=
  (stmt.findall ["Bal"]).flatMap fun bal =>
    if isClosing bal then [closingBalance stmt bal] else []

def closingBalances (root : Element) : List ClosingBalance :=
  (root.findallBelow "Stmt").flatMap closingBalancesOf

/-- The record that states a closing balance, `none` when an IBAN or an amount is missing. -/
def ClosingBalance.record? (raw_xml : List UInt8) (source_message_id : Option String)
    (b : ClosingBalance) : Option (RawRecord Empty) :=
  match b.iban, b.amount with
  | some iban, some amount =>
    some (balanceRecord raw_xml source_message_id b.statement_id iban amount b.currency)
  | _, _ => none

/-- A run that appends, to the records so far, those of a list of closing balances. -/
def Extends (raw_xml : List UInt8) (source_message_id : Option String) (bs : List ClosingBalance)
    (records out : List (RawRecord Empty)) : Prop :=
  ∃ new, out = records ++ new ∧
    List.Forall₂ (fun b r => b.record? raw_xml source_message_id = some r) bs new

section Loops

variable {raw_xml : List UInt8} {source_message_id : Option String}
  {records mid out : List (RawRecord Empty)}

theorem Extends.refl : Extends raw_xml source_message_id [] records records :=
  ⟨[], (List.append_nil _).symm, List.Forall₂.nil⟩

theorem Extends.append {bs cs : List ClosingBalance}
    (h : Extends raw_xml source_message_id bs records mid)
    (h' : Extends raw_xml source_message_id cs mid out) :
    Extends raw_xml source_message_id (bs ++ cs) records out := by
  obtain ⟨new, rfl, hnew⟩ := h
  obtain ⟨new', rfl, hnew'⟩ := h'
  exact ⟨new ++ new', by rw [List.append_assoc], List.rel_append hnew hnew'⟩

theorem Extends.foldlM {body : List (RawRecord Empty) → Element → Except PyExc (List (RawRecord Empty))}
    {states : Element → List ClosingBalance}
    (hbody : ∀ el records out, body records el = .ok out →
      Extends raw_xml source_message_id (states el) records out) (els : List Element)
    (h : els.foldlM body records = .ok out) :
    Extends raw_xml source_message_id (els.flatMap states) records out := by
  induction els generalizing records with
  | nil =>
    cases h
    exact Extends.refl
  | cons el els ih =>
    rw [List.foldlM_cons] at h
    cases hel : body records el with
    | error e =>
      rw [hel] at h
      cases h
    | ok mid =>
      rw [hel] at h
      exact (hbody el records mid hel).append (ih h)

theorem parseBalance_ok {stmt bal : Element}
    (h : parseBalance raw_xml source_message_id stmt records bal = .ok out) :
    Extends raw_xml source_message_id (if isClosing bal then [closingBalance stmt bal] else [])
      records out := by
  by_cases hcode : findText bal ["Tp", "CdOrPrtry", "Cd"] = some "CLBD"
  · have hclosing : isClosing bal = true := by simp [isClosing, hcode]
    rw [if_pos hclosing]
    simp only [parseBalance, hcode, ne_eq, not_true, if_false] at h
    cases hamt : bal.find ["Amt"] with
    | none =>
      rw [hamt] at h
      cases h
    | some amt =>
      cases hiban : iban stmt with
      | none =>
        rw [hamt, hiban] at h
        cases h
      | some iban =>
        cases htext : amt.text with
        | none =>
          simp only [hamt, hiban, htext] at h
          cases h
        | some amount =>
          simp only [hamt, hiban, htext] at h
          cases h
          refine ⟨_, rfl, List.Forall₂.cons ?_ List.Forall₂.nil⟩
          simp [ClosingBalance.record?, closingBalance, findText, hamt, hiban, htext]
  · have hclosing : isClosing bal = false := by simp [isClosing, hcode]
    simp only [parseBalance, hcode, ne_eq, not_false_iff, if_true] at h
    cases h
    simpa [hclosing] using Extends.refl

theorem parseStatement_ok {stmt : Element}
    (h : parseStatement raw_xml source_message_id records stmt = .ok out) :
    Extends raw_xml source_message_id (closingBalancesOf stmt) records out :=
  Extends.foldlM (fun _ _ _ hbal => parseBalance_ok hbal) _ h

/-- What the parser returns are the records of the document's closing balances, in order. -/
theorem parse_balances_ok {fromstring : List UInt8 → Except PyExc Element} {root : Element}
    (hroot : fromstring raw_xml = .ok root)
    (h : parse_balances fromstring raw_xml source_message_id = .ok out) :
    List.Forall₂ (fun b r => b.record? raw_xml source_message_id = some r) (closingBalances root)
      out := by
  rw [parse_balances, hroot] at h
  obtain ⟨new, hout, hnew⟩ := Extends.foldlM (fun _ _ _ hstmt => parseStatement_ok hstmt) _ h
  rw [List.nil_append] at hout
  rw [hout]
  exact hnew

end Loops
end Camt053
end AtlasConnectors
