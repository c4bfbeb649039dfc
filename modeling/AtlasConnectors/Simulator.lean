import AtlasConnectors.PoisonStream

/-! The command line simulator: balances made up one by one, and published as they are made. -/
namespace AtlasConnectors

open Raising

/-- `repr` of a dictionary of texts. -/
def reprDict (d : Dict String String) : List Char :=
  '\x7b' :: [',', ' '].intercalate (d.map fun p => (reprText p.1).toList ++ ':' :: ' ' :: (reprText p.2).toList) ++
    ['\x7d']

/-- What a sample takes from `random.uniform` and `uuid4`. -/
structure SampleDraws where
  amount : PyFloat
  statement : UUID
  amount_range : ∃ q, amount.val? = some q ∧ 1000 ≤ q ∧ q ≤ 250000

namespace Simulator

def sampleIban (i : ℕ) : String := "FR76300060000112345678" ++ NumberText.zfill 3 i

def statement_id (d : SampleDraws) : String := "SIM-" ++ String.ofList (d.statement.hexDigits.take 12)

def samplePayload (i : ℕ) (d : SampleDraws) : Dict String String :=
  [("iban", sampleIban i), ("amount", NumberText.fixed2 d.amount), ("currency", "EUR"),
    ("balance_type", "closing_booked"), ("statement_id", statement_id d)]

/-- `_sample_record`. -/
def sample_record (i : ℕ) (d : SampleDraws) : RawRecord Empty where
  source_system := "simulator"
  source_message_id := statement_id d
  record_type := "bank_balance"
  payload := (samplePayload i d).map fun p => (p.1, .str p.2)
  raw_bytes := Json.utf8 (reprDict (samplePayload i d))

def CANONICAL_TYPE : Dict String CanonicalRecordType := [("bank_balance", .bank_account)]

def canonicalSample (tenant_id : UUID) (fresh : Fresh) (raw : RawRecord Empty) :
    Except PyExc (CanonicalRecord Empty) :=
  match CANONICAL_TYPE.lookup raw.record_type with
  | none => .error (.keyError raw.record_type)
  | some record_type =>
    .ok { event_id := fresh.event_id, tenant_id := tenant_id, record_type := record_type,
          payload := raw.payload, source_metadata := stamp raw fresh.ingested_at,
          trace_id := fresh.trace_id, occurred_at := fresh.occurred_at }

variable {π : Type}

/-- The range of a negative count is empty, and the count is returned as it is. -/
def simulate (publisher : PublisherPort Empty π) (tenant_id : UUID) (draws : ℕ → SampleDraws)
    (fresh : ℕ → Fresh) (count : ℤ) : EStateM PyExc π ℤ := do
  (List.range count.toNat).forM fun i => do
    let record ← fromExcept (canonicalSample tenant_id (fresh i) (sample_record i (draws i)))
    publisher record
  pure count

variable (tenant_id : UUID) (draws : ℕ → SampleDraws) (fresh : ℕ → Fresh)

def sampleMessage (i : ℕ) : CanonicalRecord Empty where
  event_id := (fresh i).event_id
  tenant_id := tenant_id
  record_type := .bank_account
  payload := (sample_record i (draws i)).payload
  source_metadata := stamp (sample_record i (draws i)) (fresh i).ingested_at
  trace_id := (fresh i).trace_id
  occurred_at := (fresh i).occurred_at

def messages (count : ℤ) : List (CanonicalRecord Empty) :=
  (List.range count.toNat).map (sampleMessage tenant_id draws fresh)

theorem simulate_eq (publisher : PublisherPort Empty π) (count : ℤ) (s : π) :
    simulate publisher tenant_id draws fresh count s =
      match (Delivery.deliver publisher (fun _ => false) (messages tenant_id draws fresh count) s).1.failure with
      | none => .ok count (Delivery.deliver publisher (fun _ => false) (messages tenant_id draws fresh count) s).2
      | some e => .error e
          (Delivery.deliver publisher (fun _ => false) (messages tenant_id draws fresh count) s).2 := by
  have hloop : ((List.range count.toNat).forM fun i => do
      let record ← fromExcept (canonicalSample tenant_id (fresh i) (sample_record i (draws i)))
      publisher record : EStateM PyExc π PUnit) = (messages tenant_id draws fresh count).forM publisher := by
    simp only [messages, List.forM_eq_forM, List.forM_map]
    rfl
  rw [simulate, hloop]
  change EStateM.bind ((messages tenant_id draws fresh count).forM publisher) (fun _ => pure count) s = _
  rw [EStateM.bind, Delivery.forM_eq]
  cases (Delivery.deliver publisher (fun _ => false) (messages tenant_id draws fresh count) s).1.failure <;> rfl

def Unescaped (c : Char) : Prop := c ≠ Char.ofNat 39 ∧ c ≠ '\\' ∧ 32 ≤ c.toNat ∧ c.toNat ≠ 127

instance : DecidablePred Unescaped := fun _ => inferInstanceAs (Decidable (_ ∧ _))

theorem escapeRepr_unescaped {c : Char} (h : Unescaped c) : escapeRepr (Char.ofNat 39) c = [c] := by
  obtain ⟨hquote, hslash, hlo, hdel⟩ := h
  have hcode : ∀ d : Char, d.toNat < 32 → c ≠ d := by
    rintro d hd rfl
    omega
  unfold escapeRepr
  rw [if_neg (by simp [hquote, hslash]), if_neg (hcode _ (by decide)), if_neg (hcode _ (by decide)),
    if_neg (hcode _ (by decide)), if_neg (by omega)]

theorem reprText_unescaped {s : String} (h : ∀ c ∈ s.toList, Unescaped c) :
    (reprText s).toList = Char.ofNat 39 :: (s.toList ++ [Char.ofNat 39]) := by
  have hquote : s.toList.contains (Char.ofNat 39) = false := by
    rw [Bool.eq_false_iff, ne_eq, List.contains_iff_mem]
    exact fun hmem => (h _ hmem).1 rfl
  have hflat : ∀ cs : List Char, (∀ c ∈ cs, Unescaped c) → cs.flatMap (escapeRepr (Char.ofNat 39)) = cs := by
    intro cs hcs
    induction cs with
    | nil => rfl
    | cons c cs ih =>
      obtain ⟨hc, hrest⟩ := List.forall_mem_cons.mp hcs
      rw [List.flatMap_cons, escapeRepr_unescaped hc, ih hrest, List.singleton_append]
  simp only [reprText, hquote, Bool.false_and, Bool.false_eq_true, if_false, String.toList_ofList, hflat _ h]

theorem unescaped_of_isDigit {c : Char} (h : c.isDigit = true) : Unescaped c := by
  have hrange : 48 ≤ c.toNat ∧ c.toNat ≤ 57 := by
    simpa [Char.isDigit, UInt32.le_iff_toNat_le] using h
  refine ⟨?_, ?_, by omega, by omega⟩
  · rintro rfl
    exact absurd hrange.1 (by decide)
  · rintro rfl
    exact absurd hrange.2 (by decide)

theorem unescaped_append {s t : String} (hs : ∀ c ∈ s.toList, Unescaped c) (ht : ∀ c ∈ t.toList, Unescaped c) :
    ∀ c ∈ (s ++ t).toList, Unescaped c := by
  intro c hc
  rw [String.toList_append, List.mem_append] at hc
  exact hc.elim (hs c) (ht c)

theorem sampleIban_unescaped (i : ℕ) : ∀ c ∈ (sampleIban i).toList, Unescaped c := by
  have hbegins : ("FR76300060000112345678".toList.all fun c => decide (Unescaped c)) = true := by decide +kernel
  rw [List.all_eq_true] at hbegins
  exact unescaped_append (fun c hc => of_decide_eq_true (hbegins c hc))
    fun c hc => unescaped_of_isDigit (NumberText.isDigit_of_mem_zfill hc)

theorem exists_reprDict (k s t : String) (p : String × String) (d : Dict String String)
    (h : ∀ c ∈ (s ++ t).toList, Unescaped c) : ∃ rest, reprDict ((k, s ++ t) :: p :: d) =
      ('\x7b' :: ((reprText k).toList ++ ':' :: ' ' :: Char.ofNat 39 :: s.toList)) ++
        (t.toList ++ Char.ofNat 39 :: rest) := by
  have hvalue := reprText_unescaped h
  rw [String.toList_append] at hvalue
  refine ⟨[',', ' '] ++ ([',', ' '].intercalate ((p :: d).map fun p => (reprText p.1).toList ++
    ':' :: ' ' :: (reprText p.2).toList) ++ ['\x7d']), ?_⟩
  rw [reprDict, List.map_cons, List.map_cons, List.intercalate_cons_cons, hvalue]
  simp only [List.cons_append, List.append_assoc, List.nil_append]

theorem exists_sampleText (i : ℕ) (d : SampleDraws) : ∃ rest, reprDict (samplePayload i d) =
    ('\x7b' :: ((reprText "iban").toList ++ ':' :: ' ' :: Char.ofNat 39 :: "FR76300060000112345678".toList)) ++
      ((NumberText.zfill 3 i).toList ++ Char.ofNat 39 :: rest) :=
  exists_reprDict "iban" "FR76300060000112345678" (NumberText.zfill 3 i) _ _ (sampleIban_unescaped i)

theorem raw_bytes_ne {i j : ℕ} (h : i ≠ j) (d d' : SampleDraws) :
    (sample_record i d).raw_bytes ≠ (sample_record j d').raw_bytes := by
  intro hbytes
  have htext : reprDict (samplePayload i d) = reprDict (samplePayload j d') := Json.utf8_injective hbytes
  obtain ⟨rest, hi⟩ := exists_sampleText i d
  obtain ⟨rest', hj⟩ := exists_sampleText j d'
  rw [hi, hj, List.append_cancel_left_eq] at htext
  have hdigit : ∀ (k : ℕ), ∀ c ∈ (NumberText.zfill 3 k).toList, c.isDigit = true :=
    fun k c hc => NumberText.isDigit_of_mem_zfill hc
  have hstop : ∀ cs : List Char, ∀ c ∈ (Char.ofNat 39 :: cs).head?, c.isDigit = false := by
    intro cs c hc
    cases hc
    decide
  -- the digits end at the quote
  have htake := congrArg (List.takeWhile Char.isDigit) htext
  rw [NumberText.takeWhile_isDigit_append (hdigit i) (hstop rest),
    NumberText.takeWhile_isDigit_append (hdigit j) (hstop rest')] at htake
  exact h (NumberText.zfill_injective 3 (String.toList_inj.mp htake))

/-- A message of the simulator. -/
structure Sampled (tenant_id : UUID) (cr : CanonicalRecord Empty) : Prop where
  tenant_id : cr.tenant_id = tenant_id
  record_type : cr.record_type = .bank_account
  source_system : cr.source_metadata.source_system = "simulator"
  message_id : cr.payload.lookup "statement_id" = some (.str cr.source_metadata.source_message_id)
  amount : ∃ text x, cr.payload.lookup "amount" = some (.str text) ∧
    NumberText.decimalValue text = some x ∧ 1000 ≤ x ∧ x ≤ 250000

theorem sampled (i : ℕ) : Sampled tenant_id (sampleMessage tenant_id draws fresh i) where
  tenant_id := rfl
  record_type := rfl
  source_system := rfl
  message_id := rfl
  amount := by
    obtain ⟨q, hq, hlo, hhi⟩ := (draws i).amount_range
    refine ⟨_, _, rfl, NumberText.decimalValue_fixed2 hq, ?_, ?_⟩
    · have hmono := NumberText.roundCents_mono hlo
      have hround : NumberText.roundCents 1000 = 1000 := by exact_mod_cast NumberText.roundCents_intCast 1000
      rwa [hround] at hmono
    · have hmono := NumberText.roundCents_mono hhi
      have hround : NumberText.roundCents 250000 = 250000 := by exact_mod_cast NumberText.roundCents_intCast 250000
      rwa [hround] at hmono

def hashedSamples (draws : ℕ → SampleDraws) (count : ℤ) : Set (List UInt8) :=
  {bytes | ∃ i < count.toNat, bytes = (sample_record i (draws i)).raw_bytes}

theorem hashes_nodup {count : ℤ} (hinj : Set.InjOn source_hash (hashedSamples draws count)) :
    ((messages tenant_id draws fresh count).map fun cr => cr.source_metadata.source_hash).Nodup := by
  rw [messages, List.map_map]
  refine List.Nodup.map_on ?_ List.nodup_range
  intro i hi j hj hhash
  have hbytes := hinj ⟨i, List.mem_range.mp hi, rfl⟩ ⟨j, List.mem_range.mp hj, rfl⟩ hhash
  by_contra hne
  exact raw_bytes_ne hne _ _ hbytes

theorem run_adapter_refuses (publisher : PublisherPort Empty π) {count : ℤ} (hcount : 0 < count) (s : π) :
    ∃ errors, run_adapter publisher tenant_id fresh
      ⟨"simulator", (List.range count.toNat).map fun i => sample_record i (draws i), none⟩ s =
        .error (.validationError errors) s := by
  obtain ⟨n, hn⟩ : ∃ n, count.toNat = n + 1 := ⟨count.toNat - 1, by omega⟩
  obtain ⟨errors, hraise⟩ : ∃ errors, publishRaw publisher tenant_id fresh (sample_record 0 (draws 0), 0) s =
      .error (.validationError errors) s := ⟨_, rfl⟩
  refine ⟨errors, ?_⟩
  rw [run_adapter_eq _ _ _ _ rfl, hn, List.range_succ_eq_map, List.map_cons, List.zipIdx_cons,
    Delivery.deliver_fail hraise rfl]
  rfl

/-- A sample as an adapter hands it over, under its canonical type. -/
def typedSample (i : ℕ) (d : SampleDraws) : RawRecord Empty :=
  { sample_record i d with record_type := CanonicalRecordType.bank_account.name }

/-- The runner on typed samples does what the simulator does. -/
theorem run_adapter_typed (publisher : PublisherPort Empty π) {count : ℤ} (hcount : 0 ≤ count) (s : π) :
    (Int.ofNat <$> run_adapter publisher tenant_id fresh
      ⟨"simulator", (List.range count.toNat).map fun i => typedSample i (draws i), none⟩) s =
        simulate publisher tenant_id draws fresh count s := by
  have hitems : ((List.range count.toNat).map fun i => typedSample i (draws i)).zipIdx =
      (List.range count.toNat).map fun i => (typedSample i (draws i), i) := by
    apply List.ext_getElem
    · simp
    · intro i hi hi'
      simp
  have hrecords : List.Forall₂
      (fun item record => adapterRecord tenant_id (fresh item.2) item.1 = .ok record)
      ((List.range count.toNat).map fun i => typedSample i (draws i)).zipIdx
      (messages tenant_id draws fresh count) := by
    rw [hitems, messages, List.forall₂_map_left_iff, List.forall₂_map_right_iff, List.forall₂_same]
    exact fun i _ => rfl
  have hlength : (messages tenant_id draws fresh count).length = count.toNat := by simp [messages]
  change EStateM.map Int.ofNat (run_adapter publisher tenant_id fresh _) s = _
  rw [EStateM.map, run_adapter_delivers rfl hrecords, simulate_eq, Delivery.counted]
  cases hfail : (Delivery.deliver publisher (fun _ => false) (messages tenant_id draws fresh count) s).1.failure with
  | some e => rfl
  | none =>
    have hcounts := (Delivery.complete_of_failure_eq_none publisher _ hfail).2
    rw [Delivery.rejected_of_intolerant, Nat.add_zero, hlength] at hcounts
    simp only [hcounts, Nat.zero_add]
    exact congrArg (EStateM.Result.ok · _) (Int.toNat_of_nonneg hcount)

/-- What the calls of a run were: all messages of the stream, or those up to the one that raised. -/
inductive Ended (publisher : PublisherPort Empty π) (stream : List (CanonicalRecord Empty)) (count : ℤ) (s : π) :
    EStateM.Result PyExc (π × List (CanonicalRecord Empty)) ℤ → Prop
  | complete (t : π) (hreturned : Delivery.Returned publisher stream s t) :
      Ended publisher stream count s (.ok count (t, stream))
  | raised (before : List (CanonicalRecord Empty)) (cr : CanonicalRecord Empty) (t u : π) (e : PyExc)
      (hbegins : before ++ [cr] <+: stream) (hreturned : Delivery.Returned publisher before s t)
      (hraised : publisher cr t = .error e u) : Ended publisher stream count s (.error e (u, before ++ [cr]))

theorem simulate_ended (publisher : PublisherPort Empty π) (count : ℤ) (s : π) :
    Ended publisher (messages tenant_id draws fresh count) count s
      (simulate (Delivery.recorded publisher) tenant_id draws fresh count (s, [])) := by
  rw [simulate_eq, Delivery.deliver_recorded]
  cases hfail : (Delivery.deliver publisher (fun _ => false) (messages tenant_id draws fresh count) s).1.failure with
  | none =>
    rw [(Delivery.complete_of_failure_eq_none publisher _ hfail).1]
    exact .complete _ (Delivery.returned_of_failure_eq_none publisher hfail)
  | some e =>
    obtain ⟨before, cr, t, hattempted, hreturned, hraised⟩ := Delivery.exists_stopped publisher hfail
    have hbegins := Delivery.attempted_isPrefix publisher (fun _ => false) (messages tenant_id draws fresh count) s
    rw [hattempted] at hbegins ⊢
    exact .raised before cr t _ e hbegins hreturned hraised

/-- The simulator stands in for the adapters: its messages are canonical balances of the tenant,
each with a hash of its own, and it publishes them in order, all of them or up to the first that
raises. The runner does the same with its samples under their canonical type, and would refuse them
as they are before it publishes one. -/
theorem simulator_stands_in (count : ℤ) (hinj : Set.InjOn source_hash (hashedSamples draws count)) :
    (messages tenant_id draws fresh count).length = count.toNat ∧
    (∀ cr ∈ messages tenant_id draws fresh count, Sampled tenant_id cr) ∧
    ((messages tenant_id draws fresh count).map fun cr => cr.source_metadata.source_hash).Nodup ∧
    ∀ (π : Type) (publisher : PublisherPort Empty π) (s : π),
      Ended publisher (messages tenant_id draws fresh count) count s
        (simulate (Delivery.recorded publisher) tenant_id draws fresh count (s, [])) ∧
      (0 ≤ count → (Int.ofNat <$> run_adapter publisher tenant_id fresh
        ⟨"simulator", (List.range count.toNat).map fun i => typedSample i (draws i), none⟩) s =
          simulate publisher tenant_id draws fresh count s) ∧
      (0 < count → ∃ errors, run_adapter publisher tenant_id fresh
        ⟨"simulator", (List.range count.toNat).map fun i => sample_record i (draws i), none⟩ s =
          .error (.validationError errors) s) := by
  refine ⟨by simp [messages], ?_, hashes_nodup tenant_id draws fresh hinj, fun π publisher s => ?_⟩
  · intro cr hcr
    obtain ⟨i, _, rfl⟩ := List.mem_map.mp hcr
    exact sampled tenant_id draws fresh i
  · exact ⟨simulate_ended tenant_id draws fresh publisher count s,
      fun hcount => run_adapter_typed tenant_id draws fresh publisher hcount s,
      fun hcount => run_adapter_refuses tenant_id draws fresh publisher hcount s⟩

def someDraws (i : ℕ) : SampleDraws where
  amount := .num 1500
  statement := ⟨BitVec.ofNat 128 i⟩
  amount_range := ⟨1500, rfl, by norm_num, by norm_num⟩

theorem twoSamples_injOn : Set.InjOn source_hash (hashedSamples someDraws 2) := by
  have hdecided : ∀ i < 2, ∀ j < 2,
      source_hash (sample_record i (someDraws i)).raw_bytes = source_hash (sample_record j (someDraws j)).raw_bytes →
        i = j := by
    decide +kernel
  rintro _ ⟨i, hi, rfl⟩ _ ⟨j, hj, rfl⟩ h
  rw [hdecided i hi j hj h]

theorem twoSamples_stand_in :
    ((messages ⟨7⟩ someDraws (fun _ => someFresh) 2).map fun cr => cr.source_metadata.source_hash).Nodup ∧
    Ended acceptAll (messages ⟨7⟩ someDraws (fun _ => someFresh) 2) 2 ()
      (simulate (Delivery.recorded acceptAll) ⟨7⟩ someDraws (fun _ => someFresh) 2 ((), [])) := by
  obtain ⟨_, _, hnodup, hruns⟩ := simulator_stands_in ⟨7⟩ someDraws (fun _ => someFresh) 2 twoSamples_injOn
  exact ⟨hnodup, (hruns Unit acceptAll ()).1⟩

end Simulator
end AtlasConnectors
