import AtlasConnectors.Wire

/-! The trace middleware: the identifiers that a header may spell, and what is echoed of them. -/
namespace AtlasConnectors

namespace UUID

/-- `text.replace(word, "")`: the occurrences from left to right, `skip` characters of the last one to go. -/
def removeWord (word : List Char) : ℕ → List Char → List Char
  | _, [] => []
  | skip + 1, _ :: cs => removeWord word skip cs
  | 0, c :: cs =>
    if word.isPrefixOf (c :: cs) then removeWord word (word.length - 1) cs else c :: removeWord word 0 cs

def isBrace (c : Char) : Bool := c == '\x7b' || c == '\x7d'

def hexText (text : String) : List Char :=
  (NumberText.stripOf isBrace (removeWord ['u', 'u', 'i', 'd', ':'] 0 (removeWord ['u', 'r', 'n', ':'] 0 text.toList))).filter
    (· ≠ '-')

/-- Without the prefix of base 16, after which one underscore may stand. -/
def dropBasePrefix : List Char → List Char
  | '0' :: x :: cs =>
    if x = 'x' ∨ x = 'X' then
      match cs with
      | '_' :: cs => cs
      | cs => cs
    else '0' :: x :: cs
  | cs => cs

def isHexDigit (c : Char) : Bool := (Json.hexVal? c).isSome

/-- Remove underscores, each of which must stand between two digits. -/
def dropUnderscores (afterDigit : Bool) : List Char → Option (List Char)
  | [] => some []
  | '_' :: cs =>
    match cs with
    | c :: _ => if afterDigit && isHexDigit c then dropUnderscores false cs else none
    | [] => none
  | c :: cs => (dropUnderscores (isHexDigit c) cs).map (c :: ·)

def ofBase (b : ℕ) (ds : List ℕ) : ℕ := ds.foldl (fun n d => b * n + d) 0

/-- `int(text, 16)`, `none` for a ValueError. -/
def readBase16 (cs : List Char) : Option ℤ :=
  let signed := NumberText.splitSign ((NumberText.stripOf NumberText.isIntSpace cs).map NumberText.asciiDigit)
  match dropUnderscores false (dropBasePrefix signed.2) with
  | none => none
  | some [] => none
  | some ds => (ds.mapM Json.hexVal?).map fun ds => if signed.1 then -(ofBase 16 ds : ℤ) else (ofBase 16 ds : ℤ)

/-- `UUID(text)`, `none` for a ValueError. -/
def read (text : String) : Option UUID :=
  if (hexText text).length = 32 then
    match readBase16 (hexText text) with
    | some n => if 0 ≤ n ∧ n < 2 ^ 128 then some ⟨BitVec.ofInt 128 n⟩ else none
    | none => none
  else none

theorem ofBase_append (b : ℕ) (ds : List ℕ) (d : ℕ) : ofBase b (ds ++ [d]) = b * ofBase b ds + d := by
  simp [ofBase]

theorem ofBase_digits (b w n : ℕ) : ofBase b ((List.range w).map fun i => n / b ^ (w - 1 - i) % b) = n % b ^ w := by
  induction w generalizing n with
  | zero => simp [ofBase, Nat.mod_one]
  | succ w ih =>
    have hhigh : ((List.range w).map fun i => n / b ^ (w + 1 - 1 - i) % b) =
        (List.range w).map fun i => n / b / b ^ (w - 1 - i) % b := by
      refine List.map_congr_left fun i hi => ?_
      have hpow : w + 1 - 1 - i = (w - 1 - i) + 1 := by
        have hlt := List.mem_range.mp hi
        omega
      rw [hpow, pow_succ', Nat.div_div_eq_div_mul]
    rw [List.range_succ, List.map_append, List.map_singleton, ofBase_append, hhigh, ih]
    simp only [Nat.add_sub_cancel, Nat.sub_self, pow_zero, Nat.div_one]
    rw [pow_succ', Nat.mod_mul, Nat.add_comm]

def digitValues (u : UUID) : List ℕ := (List.range 32).map fun i => u.value.toNat / 16 ^ (31 - i) % 16

theorem hexDigits_eq (u : UUID) : u.hexDigits = u.digitValues.map Nat.digitChar := by
  rw [hexDigits, digitValues, List.map_map]
  rfl

theorem ofBase_digitValues (u : UUID) : ofBase 16 u.digitValues = u.value.toNat := by
  have hlt : u.value.toNat < 16 ^ 32 := u.value.isLt
  have hdigits := ofBase_digits 16 32 u.value.toNat
  rwa [Nat.mod_eq_of_lt hlt] at hdigits

theorem map_hexVal?_hexDigits (u : UUID) : u.hexDigits.map Json.hexVal? = u.digitValues.map some := by
  rw [hexDigits_eq, List.map_map, digitValues, List.map_map, List.map_map]
  exact List.map_congr_left fun i _ => Json.hexVal?_digitChar (Nat.mod_lt _ (by norm_num))

def HEX_DIGITS : List Char :=
  ['0', '1', '2', '3', '4', '5', '6', '7', '8', '9', 'a', 'b', 'c', 'd', 'e', 'f', 'A', 'B', 'C', 'D', 'E', 'F']

theorem mem_of_isHexDigit {c : Char} (h : isHexDigit c = true) : c ∈ HEX_DIGITS := by
  have hrange : (48 ≤ c.toNat ∧ c.toNat ≤ 57) ∨ (97 ≤ c.toNat ∧ c.toNat ≤ 102) ∨
      (65 ≤ c.toNat ∧ c.toNat ≤ 70) := by
    unfold isHexDigit Json.hexVal? at h
    split_ifs at h with hdigit hlower hupper
    · left
      simpa [Char.isDigit, UInt32.le_iff_toNat_le] using hdigit
    · exact Or.inr (Or.inl hlower)
    · exact Or.inr (Or.inr hupper)
    · cases h
  rw [← Char.ofNat_toNat c]
  generalize c.toNat = n at hrange
  rcases hrange with ⟨hlo, hhi⟩ | ⟨hlo, hhi⟩ | ⟨hlo, hhi⟩ <;> interval_cases n <;> decide

/-- Neither whitespace nor one of the signs that are left out, and its own ASCII counterpart. -/
def Inert (c : Char) : Prop :=
  NumberText.isIntSpace c = false ∧ NumberText.asciiDigit c = c ∧ isBrace c = false ∧
    c ∉ ['_', '-', '+', 'x', 'X', 'u']

instance : DecidablePred Inert := fun _ => inferInstanceAs (Decidable (_ ∧ _))

theorem inert_of_isHexDigit {c : Char} (h : isHexDigit c = true) : Inert c := by
  have hall : (HEX_DIGITS.all fun c => decide (Inert c)) = true := by decide +kernel
  rw [List.all_eq_true] at hall
  exact of_decide_eq_true (hall c (mem_of_isHexDigit h))

theorem Inert.ne {c d : Char} (h : Inert c) (hd : d ∈ ['_', '-', '+', 'x', 'X', 'u']) : c ≠ d := by
  rintro rfl
  exact h.2.2.2 hd

theorem dropUnderscores_self {cs : List Char} (h : ∀ c ∈ cs, Inert c) (afterDigit : Bool) :
    dropUnderscores afterDigit cs = some cs := by
  induction cs generalizing afterDigit with
  | nil => rfl
  | cons c cs ih =>
    obtain ⟨hc, hcs⟩ := List.forall_mem_cons.mp h
    have hne : c ≠ '_' := hc.ne (by simp)
    rw [dropUnderscores.eq_def]
    split
    · rename_i heq
      cases heq
    · rename_i heq
      exact absurd (List.cons_eq_cons.mp heq).1 hne
    · rename_i heq
      obtain ⟨rfl, rfl⟩ := List.cons_eq_cons.mp heq
      rw [ih hcs, Option.map_some]

theorem dropBasePrefix_self {cs : List Char} (h : ∀ c ∈ cs, Inert c) : dropBasePrefix cs = cs := by
  unfold dropBasePrefix
  split
  · rename_i x rest
    have hx : Inert x := h x (by simp)
    rw [if_neg (by simp [hx.ne])]
  · rfl

theorem splitSign_self {cs : List Char} (h : ∀ c ∈ cs, Inert c) : NumberText.splitSign cs = (false, cs) := by
  unfold NumberText.splitSign
  split
  · exact absurd rfl ((h '-' List.mem_cons_self).ne (by simp))
  · exact absurd rfl ((h '+' List.mem_cons_self).ne (by simp))
  · rfl

theorem mapM_hexVal? {cs : List Char} {ds : List ℕ} (h : cs.map Json.hexVal? = ds.map some) :
    cs.mapM Json.hexVal? = some ds := by
  induction cs generalizing ds with
  | nil =>
    cases ds with
    | nil => rfl
    | cons d ds => cases h
  | cons c cs ih =>
    cases ds with
    | nil => cases h
    | cons d ds =>
      obtain ⟨hc, hcs⟩ := List.cons_eq_cons.mp h
      rw [List.mapM_cons, hc, ih hcs]
      rfl

theorem isHexDigit_of_map {cs : List Char} {ds : List ℕ} (h : cs.map Json.hexVal? = ds.map some) :
    ∀ c ∈ cs, isHexDigit c = true := by
  intro c hc
  have hmem : Json.hexVal? c ∈ ds.map some := h ▸ List.mem_map_of_mem hc
  obtain ⟨d, _, hd⟩ := List.mem_map.mp hmem
  rw [isHexDigit, ← hd]
  rfl

theorem readBase16_digits {cs : List Char} {ds : List ℕ} (h : cs.map Json.hexVal? = ds.map some) (hne : ds ≠ []) :
    readBase16 cs = some (ofBase 16 ds : ℤ) := by
  have hinert : ∀ c ∈ cs, Inert c := fun c hc => inert_of_isHexDigit (isHexDigit_of_map h c hc)
  have hascii : cs.map NumberText.asciiDigit = cs :=
    (List.map_congr_left fun c hc => (hinert c hc).2.1).trans (List.map_id _)
  have hcs : cs ≠ [] := by
    rintro rfl
    exact hne (List.map_eq_nil_iff.mp h.symm)
  obtain ⟨c, rest, rfl⟩ := List.exists_cons_of_ne_nil hcs
  simp only [readBase16, NumberText.stripOf_self fun c hc => (hinert c hc).1, hascii, splitSign_self hinert,
    dropBasePrefix_self hinert, dropUnderscores_self hinert, mapM_hexVal? h]
  rfl

theorem removeWord_self {w : Char} {ws cs : List Char} (h : w ∉ cs) : removeWord (w :: ws) 0 cs = cs := by
  induction cs with
  | nil => rfl
  | cons c cs ih =>
    obtain ⟨hne, hcs⟩ := List.ne_and_not_mem_of_not_mem_cons h
    have hprefix : (w :: ws).isPrefixOf (c :: cs) = false := by
      rw [List.isPrefixOf_cons_cons, Bool.and_eq_false_iff]
      exact Or.inl (beq_false_of_ne hne)
    rw [removeWord, hprefix, if_neg Bool.false_ne_true, ih hcs]

def PREFIXES : List (List Char) :=
  [[], ['u', 'r', 'n', ':'], ['u', 'u', 'i', 'd', ':'], ['u', 'r', 'n', ':', 'u', 'u', 'i', 'd', ':']]

theorem removeWord_prefix {pre cs : List Char} (hpre : pre ∈ PREFIXES) (h : 'u' ∉ cs) :
    removeWord ['u', 'u', 'i', 'd', ':'] 0 (removeWord ['u', 'r', 'n', ':'] 0 (pre ++ cs)) = cs := by
  have hurn : removeWord ['u', 'r', 'n', ':'] 0 cs = cs := removeWord_self h
  have huuid : removeWord ['u', 'u', 'i', 'd', ':'] 0 cs = cs := removeWord_self h
  simp only [PREFIXES, List.mem_cons, List.not_mem_nil, or_false] at hpre
  rcases hpre with rfl | rfl | rfl | rfl <;>
    simp [removeWord, List.isPrefixOf, hurn, huuid]

/-- A spelling of a UUID: its digits in either case with hyphens anywhere, in braces or not,
and behind the words of a resource name or not. -/
structure Spelling (u : UUID) where
  pre : List Char
  opening : List Char
  body : List Char
  closing : List Char
  pre_mem : pre ∈ PREFIXES
  opening_brace : ∀ c ∈ opening, isBrace c = true
  closing_brace : ∀ c ∈ closing, isBrace c = true
  digits : (body.filter (· ≠ '-')).map Json.hexVal? = u.hexDigits.map Json.hexVal?

namespace Spelling

variable {u : UUID} (s : Spelling u)

def text : String := String.ofList (s.pre ++ (s.opening ++ (s.body ++ s.closing)))

theorem digit_values : (s.body.filter (· ≠ '-')).map Json.hexVal? = u.digitValues.map some :=
  s.digits.trans (map_hexVal?_hexDigits u)

theorem body_cases {c : Char} (h : c ∈ s.body) : c = '-' ∨ isHexDigit c = true := by
  by_cases hc : c = '-'
  · exact Or.inl hc
  · exact Or.inr (isHexDigit_of_map s.digit_values c (List.mem_filter.mpr ⟨h, by simpa using hc⟩))

theorem body_not_brace : ∀ c ∈ s.body, isBrace c = false := by
  intro c hc
  rcases s.body_cases hc with rfl | hdigit
  · decide
  · exact (inert_of_isHexDigit hdigit).2.2.1

theorem u_notMem : 'u' ∉ s.opening ++ (s.body ++ s.closing) := by
  intro hmem
  rcases List.mem_append.mp hmem with hmem | hmem
  · exact absurd (s.opening_brace _ hmem) (by decide)
  · rcases List.mem_append.mp hmem with hmem | hmem
    · rcases s.body_cases hmem with heq | hdigit
      · exact absurd heq (by decide)
      · exact absurd hdigit (by decide)
    · exact absurd (s.closing_brace _ hmem) (by decide)

theorem hexText_eq : hexText s.text = s.body.filter (· ≠ '-') := by
  rw [hexText, text, String.toList_ofList, removeWord_prefix s.pre_mem s.u_notMem,
    NumberText.stripOf_append s.opening_brace s.body_not_brace s.closing_brace]

/-- Every spelling is read as the UUID. -/
theorem read_eq : read s.text = some u := by
  have hlength : (s.body.filter (· ≠ '-')).length = 32 := by
    have hcongr := congrArg List.length s.digit_values
    simpa [digitValues] using hcongr
  have hne : u.digitValues ≠ [] := by simp [digitValues]
  have hlt : u.value.toNat < 2 ^ 128 := u.value.isLt
  have hvalue : BitVec.ofInt 128 (u.value.toNat : ℤ) = u.value := by simp
  rw [read, s.hexText_eq, if_pos hlength, readBase16_digits s.digit_values hne, ofBase_digitValues]
  dsimp only
  rw [if_pos ⟨by omega, by exact_mod_cast hlt⟩, hvalue]

example : UUID.read "urn:uuid:\x7b0000000A-0000-0000-0000-00000000000B\x7d" = some ⟨0xa00000000000000000000000b⟩ := by
  decide +kernel

end Spelling

theorem filter_str (u : UUID) : u.str.toList.filter (· ≠ '-') = u.hexDigits := by
  have hplain : ∀ c ∈ u.hexDigits, c ≠ '-' := by
    intro c hc
    exact (inert_of_isHexDigit (isHexDigit_of_map (map_hexVal?_hexDigits u) c hc)).ne (by simp)
  have hkeep : ∀ cs : List Char, cs ⊆ u.hexDigits → cs.filter (· ≠ '-') = cs := by
    intro cs hcs
    exact List.filter_eq_self.mpr fun c hc => by simpa using hplain c (hcs hc)
  have hdrop : ∀ n, u.hexDigits.drop n ⊆ u.hexDigits := fun n => List.drop_subset n _
  have htake : ∀ n m, (u.hexDigits.drop n).take m ⊆ u.hexDigits :=
    fun n m => List.Subset.trans (List.take_subset m _) (hdrop n)
  have hfirst : u.hexDigits.take 8 ⊆ u.hexDigits := List.take_subset 8 _
  have hpieces : u.hexDigits.take 8 ++ ((u.hexDigits.drop 8).take 4 ++ ((u.hexDigits.drop 12).take 4 ++
      ((u.hexDigits.drop 16).take 4 ++ u.hexDigits.drop 20))) = u.hexDigits := by
    have hjoin : ∀ n m, (u.hexDigits.drop n).take m ++ u.hexDigits.drop (n + m) = u.hexDigits.drop n := by
      intro n m
      rw [← List.drop_drop, List.take_append_drop]
    rw [hjoin 16 4, hjoin 12 4, hjoin 8 4, List.take_append_drop]
  rw [str, String.toList_ofList]
  simp only [List.append_assoc, List.cons_append, List.filter_append, List.filter_cons, hkeep _ (hdrop 20),
    hkeep _ (htake 8 4), hkeep _ (htake 12 4), hkeep _ (htake 16 4), hkeep _ hfirst]
  simpa using hpieces

def plainSpelling (u : UUID) : Spelling u where
  pre := []
  opening := []
  body := u.str.toList
  closing := []
  pre_mem := List.mem_cons_self
  opening_brace := by simp
  closing_brace := by simp
  digits := by rw [filter_str]

theorem read_str (u : UUID) : read u.str = some u := by
  have hread := u.plainSpelling.read_eq
  simpa [Spelling.text, plainSpelling] using hread

end UUID

/-- A request: its headers under their names in lower case, and `request.state.trace_id`. -/
structure Request (β : Type) where
  headers : Dict String String
  trace_id : Option String
  body : β

structure Response (β : Type) where
  headers : Dict String String
  body : β

variable {β γ ε σ : Type}

/-- `_trace_id_of`; `minted` is what `uuid4` gives. -/
def trace_id_of (minted : UUID) (headers : Dict String String) : String :=
  match UUID.read ((headers.lookup "x-trace-id").getD "") with
  | some u => u.str
  | none => minted.str

def trace_middleware (minted : UUID) (call_next : Request β → EStateM ε σ (Response γ)) (request : Request β) :
    EStateM ε σ (Response γ) := do
  let trace_id := trace_id_of minted request.headers
  let response ← call_next { request with trace_id := some trace_id }
  pure { response with headers := response.headers.set "x-trace-id" trace_id }

/-- The UUID that a request is traced under. -/
def tracedUnder (minted : UUID) (headers : Dict String String) : UUID :=
  (UUID.read ((headers.lookup "x-trace-id").getD "")).getD minted

theorem trace_id_of_eq (minted : UUID) (headers : Dict String String) :
    trace_id_of minted headers = (tracedUnder minted headers).str := by
  unfold trace_id_of tracedUnder
  cases UUID.read ((headers.lookup "x-trace-id").getD "") <;> rfl

theorem tracedUnder_spelling (minted : UUID) {headers : Dict String String} {u : UUID} (s : u.Spelling)
    (h : headers.lookup "x-trace-id" = some s.text) : tracedUnder minted headers = u := by
  rw [tracedUnder, h, Option.getD_some, s.read_eq, Option.getD_some]

theorem tracedUnder_str (minted : UUID) {headers : Dict String String} {u : UUID}
    (h : headers.lookup "x-trace-id" = some u.str) : tracedUnder minted headers = u := by
  rw [tracedUnder, h, Option.getD_some, UUID.read_str, Option.getD_some]

/-- The identifiers of a request that is passed from service to service, each of which sends on
the identifier that it traces the request under. -/
def trail : List UUID → Dict String String → List String
  | [], _ => []
  | minted :: rest, headers =>
    trace_id_of minted headers :: trail rest (headers.set "x-trace-id" (trace_id_of minted headers))

theorem trail_constant {u : UUID} (minted : List UUID) {headers : Dict String String}
    (h : headers.lookup "x-trace-id" = some u.str) : ∀ t ∈ trail minted headers, t = u.str := by
  induction minted generalizing headers with
  | nil => exact fun t ht => absurd ht List.not_mem_nil
  | cons m minted ih =>
    have hid : trace_id_of m headers = u.str := by rw [trace_id_of_eq, tracedUnder_str m h]
    refine List.forall_mem_cons.mpr ⟨hid, ih ?_⟩
    rw [Dict.lookup_set, if_pos rfl, hid]

/-- A request is traced under one UUID: that which its header spells, else the minted one. The
handler sees its text and the answer carries it, and it stays the same on every hop after that. -/
theorem middleware_traces (minted : UUID) (call_next : Request β → EStateM ε σ (Response γ)) (request : Request β) :
    ∃ u : UUID, (∀ v (s : UUID.Spelling v), request.headers.lookup "x-trace-id" = some s.text → u = v) ∧
      (UUID.read ((request.headers.lookup "x-trace-id").getD "") = none → u = minted) ∧
      (∀ s, trace_middleware minted call_next request s =
        match call_next { request with trace_id := some u.str } s with
        | .ok response t => .ok { response with headers := response.headers.set "x-trace-id" u.str } t
        | .error e t => .error e t) ∧
      ∀ rest, ∀ t ∈ trail (minted :: rest) request.headers, t = u.str := by
  refine ⟨tracedUnder minted request.headers, ?_, ?_, ?_, ?_⟩
  · exact fun v s h => tracedUnder_spelling minted s h
  · intro h
    rw [tracedUnder, h, Option.getD_none]
  · intro s
    have hid := trace_id_of_eq minted request.headers
    change EStateM.bind (call_next { request with trace_id := some (trace_id_of minted request.headers) }) _ s = _
    rw [EStateM.bind, hid]
    cases call_next { request with trace_id := some (tracedUnder minted request.headers).str } s <;> rfl
  · intro rest
    refine List.forall_mem_cons.mpr ⟨trace_id_of_eq minted request.headers, trail_constant rest ?_⟩
    rw [Dict.lookup_set, if_pos rfl, trace_id_of_eq]

/-- The identifier that an attribute of a push envelope spells. -/
def attributeUUID (name : String) (envelope : Json Empty) : Option UUID :=
  match envelope.path? ["message", "attributes", name] with
  | some (.str text) => UUID.read text
  | _ => none

/-- The receiver of a post takes the record to be of this trace and this tenant, and traces the push
under it. -/
structure PostedUnder (trace_id tenant_id : UUID) (post : Post) : Prop where
  traced : ∀ minted, tracedUnder minted [("x-trace-id", post.traceHeader)] = trace_id
  trace_id : attributeUUID "trace_id" post.json = some trace_id
  tenant_id : attributeUUID "tenant_id" post.json = some tenant_id

/-- Publishing the record, by push or to the topic, sends one message, whose receiver takes it to be of
this trace and this tenant. -/
structure SentUnder (trace_id tenant_id : UUID) (cr : CanonicalRecord Empty) : Prop where
  posted : ∀ push : HttpPushPublisher Empty, ∃ post, Delivery.Sends push.publish cr post ∧
    PostedUnder trace_id tenant_id post
  messaged : ∀ pubsub : PubSubPublisher Empty, ∃ message, Delivery.Sends pubsub.publish cr message ∧
    UUID.read message.trace_id = some trace_id ∧ UUID.read message.tenant_id = some tenant_id

theorem sentUnder_own (cr : CanonicalRecord Empty) : SentUnder cr.trace_id cr.tenant_id cr where
  posted := fun push => ⟨push.request cr, push.sends_request cr, fun minted => tracedUnder_str minted rfl,
    UUID.read_str cr.trace_id, UUID.read_str cr.tenant_id⟩
  messaged := fun pubsub => ⟨pubsub.message cr, pubsub.sends_message cr, UUID.read_str cr.trace_id,
    UUID.read_str cr.tenant_id⟩

/-- Whatever a dispatch publishes, and however the publisher answers, it is sent under the trace and
the tenant of the request's body. -/
theorem dispatched_traced (svc : SimService) {π : Type}
    (construct : PublisherBinding → Except PyExc (PublisherPort Empty π)) (settings : SimSettings)
    (request : DispatchRequest) (s : π) :
    ∀ cr ∈ calls svc construct settings request s, SentUnder request.trace_id request.tenant_id cr := by
  intro cr hcr
  rcases calls_cases svc construct settings request s with hnone | ⟨batch, publisher, built, h, hpub, hbuilt⟩
  · rw [hnone] at hcr
    cases hcr
  · have hchecked := allChecked_of_admitted h hbuilt
      (Delivery.attempted_isPrefix publisher PyExc.isPoisonRecordError built s)
    rw [← calls_admitted h hpub hbuilt] at hchecked
    rw [← hchecked.trace_id cr hcr, ← hchecked.tenant_id cr hcr]
    exact sentUnder_own cr

theorem manualAccount_traced : SentUnder (manualRequest [manualAccount]).trace_id
    (manualRequest [manualAccount]).tenant_id manualRecord := by
  have hcalls : calls leastService (fun _ => .ok acceptAll) openSettings (manualRequest [manualAccount]) () =
      [manualRecord] := by
    rw [calls_admitted manualBatch_admitted rfl manualBatch_built]
    rfl
  exact dispatched_traced leastService (fun _ => .ok acceptAll) openSettings (manualRequest [manualAccount]) ()
    manualRecord (by rw [hcalls]; exact List.mem_singleton_self manualRecord)

end AtlasConnectors
