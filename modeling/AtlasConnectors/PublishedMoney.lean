import AtlasConnectors.CheckedDispatch

/-! The money that a dispatch publishes: when every text of it is a finite number. -/
namespace AtlasConnectors

def moneyKey (record_type : String) : String :=
  if record_type = "bank_account" then "balance" else "amount"

def FiniteMoney (r : SimRecord) : Prop :=
  ∃ text, r.2.lookup (moneyKey r.1) = some (.str text) ∧ NumberText.decimalKind text = some .finite

/-- No publisher is handed a record whose money is no finite number. -/
def PublishesNumbers (svc : SimService) (settings : SimSettings) (request : DispatchRequest) : Prop :=
  ∀ (π : Type) (construct : PublisherBinding → Except PyExc (PublisherPort Empty π)) (s : π),
    ∀ cr ∈ calls svc construct settings request s, FiniteMoney (cr.record_type.name, cr.payload)

/-- The request asks for numbers: a forecast has numeric parameters, and no submitted balance or
amount is a special value of `Decimal`. -/
def NumericRequest (rt : PyRuntime) (request : DispatchRequest) : Prop :=
  (request.mode = .auto → request.preset_id = some "finhub.forecasting.v1" →
    FinhubForecasting.NumericParams rt request.params) ∧
  (request.mode = .manual → ∀ items, request.payload = some items → ∀ item ∈ items, ∀ text,
    item.payload.lookup (moneyKey item.record_type) = some (.str text) →
      NumberText.decimalKind text ≠ some .infinite ∧ NumberText.decimalKind text ≠ some .nan)

theorem finiteMoney_bank_account (a : SimBankAccount) :
    FiniteMoney a.record ↔ NumberText.decimalKind a.balance.1 = some .finite := by
  simp [FiniteMoney, moneyKey, SimBankAccount.record, SimBankAccount.model_dump, Dict.lookup_cons]

theorem finiteMoney_cash_flow (f : SimCashFlow) :
    FiniteMoney f.record ↔ NumberText.decimalKind f.amount.1 = some .finite := by
  simp [FiniteMoney, moneyKey, SimCashFlow.record, SimCashFlow.model_dump, Dict.lookup_cons]

theorem finiteMoney_financial_transaction (e : SimErpEntry) :
    FiniteMoney e.record ↔ NumberText.decimalKind e.amount.1 = some .finite := by
  simp [FiniteMoney, moneyKey, SimErpEntry.record, SimErpEntry.model_dump, Dict.lookup_cons]

theorem decimalKind_money {x : PyFloat} (h : IsFinite x) :
    NumberText.decimalKind (money x) = some .finite := by
  obtain ⟨q, hq⟩ := h
  rw [money, NumberText.decimalKind_fixed2]
  cases x <;> simp_all

theorem Fabricated.finiteMoney {r : SimRecord} (h : Fabricated IsFinite r) : FiniteMoney r := by
  cases h with
  | bank_account a x ha hx => exact (finiteMoney_bank_account a).mpr (ha ▸ decimalKind_money hx)
  | cash_flow f x hf hx => exact (finiteMoney_cash_flow f).mpr (hf ▸ decimalKind_money hx)
  | financial_transaction e x he hx =>
    exact (finiteMoney_financial_transaction e).mpr (he ▸ decimalKind_money hx)

theorem finiteMoney_of_checkItem {parsers : DateParsers} {item : ManualRecord} {r : SimRecord}
    (h : checkItem (SIM_MODELS parsers) item = .ok r) : ∃ text,
      item.payload.lookup (moneyKey item.record_type) = some (.str text) ∧
      (NumberText.decimalKind text).isSome = true ∧
      (FiniteMoney r ↔ NumberText.decimalKind text = some .finite) := by
  obtain ⟨htype, model, hmodel, hdump⟩ := checkItem_ok h
  obtain ⟨record_type, payload⟩ := r
  simp only at htype hdump
  subst htype
  rcases table_cases hmodel with ⟨hname, rfl⟩ | ⟨hname, rfl⟩ | ⟨hname, rfl⟩
  · obtain ⟨a, ha, rfl⟩ := Checked.map_eq_ok.mp hdump
    rw [hname]
    exact ⟨a.balance.1, SimBankAccount.model_validate_balance ha, a.balance.2, finiteMoney_bank_account a⟩
  · obtain ⟨f, hf, rfl⟩ := Checked.map_eq_ok.mp hdump
    rw [hname]
    exact ⟨f.amount.1, SimCashFlow.model_validate_amount hf, f.amount.2, finiteMoney_cash_flow f⟩
  · obtain ⟨e, he, rfl⟩ := Checked.map_eq_ok.mp hdump
    rw [hname]
    exact ⟨e.amount.1, SimErpEntry.model_validate_amount he, e.amount.2,
      finiteMoney_financial_transaction e⟩

theorem finite_iff_not_special {text : String} (h : (NumberText.decimalKind text).isSome = true) :
    NumberText.decimalKind text = some .finite ↔
      NumberText.decimalKind text ≠ some .infinite ∧ NumberText.decimalKind text ≠ some .nan := by
  obtain ⟨kind, hkind⟩ := Option.isSome_iff_exists.mp h
  rw [hkind]
  cases kind <;> simp

section Admitted

variable {rt : PyRuntime} {parsers : DateParsers} {today : Date} {fresh : ℕ → Fresh}
  {settings : SimSettings} {request : DispatchRequest} {batch : GeneratedBatch}

theorem publishesNumbers_iff_records
    (h : Admitted (SimService.standard rt parsers today fresh) settings request batch)
    (hconf : (publisherBinding settings).isSome = true) :
    PublishesNumbers (SimService.standard rt parsers today fresh) settings request ↔
      ∀ r ∈ batch.records, FiniteMoney r := by
  have htyped := standard_typed h.requested
  have hbuilt : build_canonical_records request.context fresh batch = .ok _ :=
    build_canonical_records_eq fun r hr => (htyped r hr).known_type
  have hshown := (build_ok_shown hbuilt).1
  generalize batch.records.zipIdx.map (builtRecord request.context fresh batch) = built at hbuilt hshown
  constructor
  · intro hnumbers r hr
    have hpub : get_publisher (fun _ => .ok acceptAll) settings = .ok (some acceptAll) := by
      obtain ⟨binding, hbinding⟩ := Option.isSome_iff_exists.mp hconf
      rw [get_publisher, hbinding]
      rfl
    have hall := hnumbers Unit (fun _ => .ok acceptAll) ()
    rw [calls_admitted h hpub hbuilt] at hall
    have hfail := Delivery.failure_eq_none_of_ok acceptAll PyExc.isPoisonRecordError
      (fun _ _ => ⟨(), rfl⟩) built ()
    rw [(Delivery.complete_of_failure_eq_none _ _ hfail).1] at hall
    rw [← hshown] at hr
    obtain ⟨cr, hcr, rfl⟩ := List.mem_map.mp hr
    exact hall cr hcr
  · intro hrecords π construct s cr hcr
    rcases calls_cases (SimService.standard rt parsers today fresh) construct settings request s with
      hnone | ⟨batch', publisher, built', h', hpub, hbuilt'⟩
    · rw [hnone] at hcr
      cases hcr
    · cases h.requested.symm.trans h'.requested
      cases hbuilt.symm.trans hbuilt'
      rw [calls_admitted h hpub hbuilt] at hcr
      have hmem := (Delivery.attempted_isPrefix publisher PyExc.isPoisonRecordError built s).subset hcr
      apply hrecords
      rw [← hshown]
      exact List.mem_map_of_mem hmem

theorem exists_not_finiteMoney {params : Params} {seed : ℤ} {target_label : String} {b : GeneratedBatch}
    (hb : FinhubForecasting.generate rt params seed target_label today = .ok b)
    (hnum : ¬FinhubForecasting.NumericParams rt params) : ∃ r ∈ b.records, ¬FiniteMoney r := by
  obtain ⟨f, hf, hamount⟩ := FinhubForecasting.generate_nan hb hnum
  refine ⟨f.record, hf, ?_⟩
  rw [finiteMoney_cash_flow, hamount, money, NumberText.decimalKind_fixed2]
  simp

theorem records_finiteMoney_iff
    (h : requestedBatch (SimService.standard rt parsers today fresh) request = .ok batch)
    (hfirewall : request.mode = .auto → request.preset_id ≠ some "connect.firewall.v1") :
    (∀ r ∈ batch.records, FiniteMoney r) ↔ NumericRequest rt request := by
  cases acceptedBatch_of_ok h with
  | auto hmode preset_id gen hid hgen hphase hbatch =>
    obtain ⟨hmem, hname⟩ := mem_generators_of_lookup hgen
    constructor
    · intro hfinite
      refine ⟨fun _ hforecast => ?_, fun hmanual => ?_⟩
      · by_contra hnum
        cases hid.symm.trans hforecast
        have hforecasting : (REGISTRY rt).lookup "finhub.forecasting.v1" =
            some (FinhubForecasting.generator rt) := rfl
        cases hforecasting.symm.trans hgen
        obtain ⟨r, hr, hnot⟩ := exists_not_finiteMoney hbatch hnum
        exact hnot (hfinite r hr)
      · rw [hmode] at hmanual
        cases hmanual
    · rintro ⟨hnum, _⟩ r hr
      have hpreset : gen.preset_id ≠ "connect.firewall.v1" := by
        intro hname'
        exact hfirewall hmode (by rw [hid, ← hname, hname'])
      have hforecast : gen.preset_id = "finhub.forecasting.v1" →
          FinhubForecasting.NumericParams rt request.params := by
        intro hname'
        exact hnum hmode (by rw [hid, ← hname, hname'])
      exact (preset_fabricated hmem hpreset hforecast hbatch r hr).finiteMoney
  | manual hmode items hpayload hne hvalid hrecords =>
    constructor
    · intro hfinite
      refine ⟨fun hauto => ?_, fun _ items' hitems' item hitem text htext => ?_⟩
      · rw [hmode] at hauto
        cases hauto
      · cases hpayload.symm.trans hitems'
        obtain ⟨r, hr, hcheck⟩ := Raising.exists_of_mem_left hrecords hitem
        obtain ⟨text', htext', hkind, hiff⟩ := finiteMoney_of_checkItem hcheck
        cases htext.symm.trans htext'
        exact (finite_iff_not_special hkind).mp (hiff.mp (hfinite r hr))
    · rintro ⟨_, hspecial⟩ r hr
      obtain ⟨item, hitem, hcheck⟩ := Raising.exists_of_mem_right hrecords hr
      obtain ⟨text, htext, hkind, hiff⟩ := finiteMoney_of_checkItem hcheck
      exact hiff.mpr ((finite_iff_not_special hkind).mpr
        (hspecial hmode items hpayload item hitem text htext))

/-- A dispatch publishes numbers only exactly when the request asks for numbers. -/
theorem publishesNumbers_iff
    (h : Admitted (SimService.standard rt parsers today fresh) settings request batch)
    (hconf : (publisherBinding settings).isSome = true)
    (hfirewall : request.mode = .auto → request.preset_id ≠ some "connect.firewall.v1") :
    PublishesNumbers (SimService.standard rt parsers today fresh) settings request ↔
      NumericRequest rt request := by
  rw [publishesNumbers_iff_records h hconf]
  exact records_finiteMoney_iff h.requested hfirewall

end Admitted

theorem manualAccount_admitted : ∃ batch,
    Admitted leastService openSettings (manualRequest [manualAccount]) batch :=
  ⟨_, rfl, rfl, by decide, rfl⟩

theorem manualAccount_publishesNumbers :
    PublishesNumbers leastService openSettings (manualRequest [manualAccount]) := by
  obtain ⟨batch, h⟩ := manualAccount_admitted
  apply (publishesNumbers_iff h (by decide) (by simp [manualRequest])).mpr
  refine ⟨by simp [manualRequest], ?_⟩
  intro _ items hitems item hitem text htext
  cases hitems
  rw [List.mem_singleton.mp hitem] at htext
  cases htext
  decide

def nanAccount : ManualRecord :=
  { manualAccount with payload := manualAccount.payload.set "balance" (.str "NaN") }

theorem nanAccount_published : ∃ batch,
    Admitted leastService openSettings (manualRequest [nanAccount]) batch ∧
      ¬PublishesNumbers leastService openSettings (manualRequest [nanAccount]) := by
  have hadmitted : Admitted leastService openSettings (manualRequest [nanAccount]) _ :=
    ⟨rfl, rfl, by decide, rfl⟩
  refine ⟨_, hadmitted, ?_⟩
  intro hnumbers
  have hrecords := (publishesNumbers_iff_records hadmitted (by decide)).mp hnumbers
  obtain ⟨text, htext, hkind⟩ := hrecords _ List.mem_cons_self
  cases htext
  exact absurd hkind (by decide)

end AtlasConnectors
