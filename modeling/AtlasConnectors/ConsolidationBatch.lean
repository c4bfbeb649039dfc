import AtlasConnectors.ConsistentBatch
import AtlasConnectors.ExactArithmetic

/-! The manifest of the consolidation preset against its batch: it is true as long as every entity
has a label of its own. -/
namespace AtlasConnectors

open Raising NumberText

namespace FinhubConsolidation

def accountRecords (records : List SimRecord) : List SimRecord := records.filter fun r => r.1 = "bank_account"

def entityCount (records : List SimRecord) : ℕ :=
  ((accountRecords records).map fun r => textAt "entity" r.2).dedup.length

def exactRates : Dict String ℚ := [("EUR", 1), ("USD", 92 / 100), ("GBP", 117 / 100), ("CHF", 105 / 100)]

/-- The emitted balance of an account at the rate of its currency. -/
def euroValue (r : SimRecord) : Option ℚ := do
  let balance ← (textAt "balance" r.2).bind decimalValue
  let rate ← (textAt "currency" r.2).bind fun currency => exactRates.lookup currency
  pure (balance * rate)

/-- Each account is followed by five flows on its number and in its currency, and no more. -/
def FollowedByFlows (records : List SimRecord) : Prop :=
  ∀ (i : ℕ) account, records[i]? = some account → account.1 = "bank_account" →
    (∀ k < FLOWS_PER_ACCOUNT, ∃ flow, records[i + 1 + k]? = some flow ∧ flow.1 = "cash_flow" ∧
      textAt "account_iban" flow.2 = textAt "iban" account.2 ∧
      textAt "currency" flow.2 = textAt "currency" account.2) ∧
    ∀ next, records[i + 1 + FLOWS_PER_ACCOUNT]? = some next → next.1 = "bank_account"

structure ManifestTrue (rt : PyRuntime) (b : GeneratedBatch) : Prop where
  entities : intAt "expected_entities" b.ground_truth = some (entityCount b.records : ℤ)
  accounts : intAt "expected_accounts" b.ground_truth = some ((accountRecords b.records).length : ℤ)
  flows : FollowedByFlows b.records
  /-- Binary floats carry an error of their own, so the total is compared in exact arithmetic. -/
  total : rt.fmt = FloatFormat.exact → ∃ x values, floatAt "expected_total_eur_approx" b.ground_truth = some x ∧
    List.Forall₂ (fun r value => euroValue r = some value) (accountRecords b.records) values ∧
    x.val? = some (roundCents values.sum)

theorem accountRecords_blocks (blocks : List Block) :
    accountRecords (blocks.flatMap Block.records) = blocks.map fun block => block.account.record := by
  have hflows : ∀ flows : List SimCashFlow, accountRecords (flows.map SimCashFlow.record) = [] := by
    intro flows
    apply List.filter_eq_nil_iff.mpr
    intro r hr
    obtain ⟨f, _, rfl⟩ := List.mem_map.mp hr
    simp [SimCashFlow.record]
  induction blocks with
  | nil => rfl
  | cons block blocks ih =>
    have hblock : accountRecords block.records = [block.account.record] :=
      congrArg (block.account.record :: ·) (hflows block.flows)
    rw [List.flatMap_cons, List.map_cons, accountRecords, List.filter_append]
    change accountRecords block.records ++ accountRecords (blocks.flatMap Block.records) = _
    rw [hblock, ih, List.singleton_append]

variable {rt : PyRuntime} {params p : Params} {target_label : String} {today : Date}
  {n_entities per_entity : ℤ} {blocks : List Block} {b : GeneratedBatch}

theorem entity_label_mod (target_label : String) (e : ℕ) :
    entity_label target_label (e % 5) = entity_label target_label e := by
  rw [entity_label, entity_label, Nat.mod_mod]

theorem entity_label_injOn (target_label : String) :
    Set.InjOn (entity_label target_label) (Finset.range 5 : Set ℕ) := by
  intro i hi j hj h
  have hsuffix : ["Holding", "Filiale Nord", "Filiale Sud", "Filiale Export", "Filiale Services"].getD (i % 5) "" =
      ["Holding", "Filiale Nord", "Filiale Sud", "Filiale Export", "Filiale Services"].getD (j % 5) "" := by
    simpa [entity_label, String.append_assoc] using h
  have hi' : i < 5 := by simpa using hi
  have hj' : j < 5 := by simpa using hj
  interval_cases i <;> interval_cases j <;> first | rfl | exact absurd hsuffix (by decide)

theorem card_labels (target_label : String) (n : ℕ) :
    ((Finset.range n).image (entity_label target_label)).card = min n 5 := by
  have hmod : (Finset.range n).image (entity_label target_label) =
      (Finset.range (min n 5)).image (entity_label target_label) := by
    ext label
    simp only [Finset.mem_image, Finset.mem_range]
    constructor
    · rintro ⟨e, he, rfl⟩
      exact ⟨e % 5, by omega, entity_label_mod target_label e⟩
    · rintro ⟨e, he, rfl⟩
      exact ⟨e, by omega, rfl⟩
  rw [hmod, Finset.card_image_of_injOn, Finset.card_range]
  apply (entity_label_injOn target_label).mono
  intro e he
  simp only [Finset.coe_range, Set.mem_Iio] at he ⊢
  omega

theorem toFinset_entityLabels (target_label : String) (n : ℕ) {m : ℕ} (hm : 1 ≤ m) :
    (entityLabels target_label n m).toFinset = (Finset.range n).image (entity_label target_label) := by
  ext label
  simp only [entityLabels, List.mem_toFinset, List.mem_flatMap, List.mem_range, List.mem_replicate,
    Finset.mem_image, Finset.mem_range]
  constructor
  · rintro ⟨e, he, _, rfl⟩
    exact ⟨e, he, rfl⟩
  · rintro ⟨e, he, rfl⟩
    exact ⟨e, he, by omega, rfl⟩

section Consolidated

variable (h : Consolidated rt p target_label today n_entities per_entity blocks b)

include h

theorem Consolidated.entities : blocks.map (fun block => block.account.entity) =
    entityLabels target_label n_entities.toNat per_entity.toNat := by
  obtain ⟨_, _, hblocks⟩ := h.exists_currencies
  rw [← List.zipIdx_map_fst 0 (entityLabels target_label n_entities.toNat per_entity.toNat),
    ← List.forall₂_eq_eq_eq, List.forall₂_map_left_iff, List.forall₂_map_right_iff]
  exact hblocks.flip.imp fun _ _ hof => hof.entity

variable (hp : coerce_params rt.fmt param_schema params = .ok p)

include hp

theorem Consolidated.entityCount : entityCount b.records = min n_entities.toNat 5 := by
  obtain ⟨_, hper, _⟩ := h.bounds hp
  have htexts : (accountRecords b.records).map (fun r => textAt "entity" r.2) =
      (entityLabels target_label n_entities.toNat per_entity.toNat).map some := by
    rw [h.records, accountRecords_blocks, ← h.entities, List.map_map, List.map_map]
    rfl
  have hsome : ((entityLabels target_label n_entities.toNat per_entity.toNat).map some).toFinset =
      ((Finset.range n_entities.toNat).image (entity_label target_label)).image some := by
    rw [← toFinset_entityLabels target_label n_entities.toNat (show 1 ≤ per_entity.toNat by omega)]
    ext label
    simp
  rw [FinhubConsolidation.entityCount, htexts, ← List.card_toFinset, hsome,
    Finset.card_image_of_injective _ (Option.some_injective _), card_labels]

theorem Consolidated.accountCount : ((accountRecords b.records).length : ℤ) = n_entities * per_entity := by
  obtain ⟨⟨hentities, _⟩, hper, _⟩ := h.bounds hp
  rw [h.records, accountRecords_blocks, List.length_map, h.length]
  push_cast
  rw [Int.toNat_of_nonneg (by omega), Int.toNat_of_nonneg (by omega)]

end Consolidated

theorem followedByFlows_cons {currencies : List String} {entity : String} {index : ℕ} {block : Block}
    (hblock : BlockOf rt today currencies entity index block) {rest : List SimRecord}
    (hrest : FollowedByFlows rest) (hnext : ∀ next, rest[0]? = some next → next.1 = "bank_account") :
    FollowedByFlows (block.records ++ rest) := by
  have hlength : (block.flows.map SimCashFlow.record).length = FLOWS_PER_ACCOUNT := by
    rw [List.length_map, hblock.length]
  intro i account hi htype
  rw [Block.records, List.cons_append] at hi ⊢
  cases i with
  | zero =>
    cases hi
    constructor
    · intro k hk
      have hflow : k < block.flows.length := by rwa [hblock.length]
      have hposted := hblock.posted _ (List.getElem_mem hflow)
      refine ⟨block.flows[k].record, ?_, rfl, ?_, ?_⟩
      · rw [Nat.zero_add, Nat.add_comm, List.getElem?_cons_succ, List.getElem?_append_left (by omega),
          List.getElem?_map, List.getElem?_eq_getElem hflow]
        rfl
      · exact congrArg some hposted.account_iban
      · exact congrArg some hposted.currency
    · intro next hnext'
      rw [Nat.zero_add, Nat.add_comm, List.getElem?_cons_succ, List.getElem?_append_right (by omega),
        hlength, Nat.sub_self] at hnext'
      exact hnext next hnext'
  | succ j =>
    rw [List.getElem?_cons_succ] at hi
    by_cases hj : j < FLOWS_PER_ACCOUNT
    · -- the record is a flow
      rw [List.getElem?_append_left (by omega), List.getElem?_map, Option.map_eq_some_iff] at hi
      obtain ⟨f, _, rfl⟩ := hi
      exact absurd htype (by simp [SimCashFlow.record])
    · obtain ⟨m, rfl⟩ := Nat.exists_eq_add_of_le (not_lt.mp hj)
      rw [List.getElem?_append_right (by omega), hlength, Nat.add_sub_cancel_left] at hi
      obtain ⟨hflows, hafter⟩ := hrest m account hi htype
      have hshift : ∀ k, (block.account.record :: (block.flows.map SimCashFlow.record ++ rest))[
          FLOWS_PER_ACCOUNT + m + 1 + 1 + k]? = rest[m + 1 + k]? := by
        intro k
        rw [show FLOWS_PER_ACCOUNT + m + 1 + 1 + k = FLOWS_PER_ACCOUNT + (m + 1 + k) + 1 by omega,
          List.getElem?_cons_succ, List.getElem?_append_right (by omega), hlength, Nat.add_sub_cancel_left]
      constructor
      · intro k hk
        rw [hshift]
        exact hflows k hk
      · intro next hnext'
        rw [hshift] at hnext'
        exact hafter next hnext'

theorem followedByFlows_blocks {currencies : List String} {blocks : List Block}
    (h : ∀ block ∈ blocks, ∃ entity index, BlockOf rt today currencies entity index block) :
    FollowedByFlows (blocks.flatMap Block.records) := by
  induction blocks with
  | nil =>
    intro i account hi
    cases hi
  | cons block blocks ih =>
    obtain ⟨entity, index, hblock⟩ := h block List.mem_cons_self
    rw [List.flatMap_cons]
    refine followedByFlows_cons hblock (ih fun other hother => h other (List.mem_cons_of_mem _ hother)) ?_
    intro next hnext
    cases blocks with
    | nil => cases hnext
    | cons other blocks =>
      cases hnext
      rfl

theorem eurRate_exact (hfmt : rt.fmt = FloatFormat.exact) {currency : String} {rate : PyFloat}
    (h : eurRate rt currency = .ok rate) :
    ∃ q, exactRates.lookup currency = some q ∧ rate.val? = some q := by
  have hlit : ∀ q : ℚ, (rt.lit q).val? = some q := by
    intro q
    rw [PyRuntime.lit, hfmt]
    exact PyFloat.val?_ofRat_exact q
  cases hlook : (EUR_RATE rt).lookup currency with
  | none =>
    rw [eurRate, hlook] at h
    cases h
  | some x =>
    rw [eurRate, hlook] at h
    cases h
    have hmem := Dict.mem_of_lookup hlook
    simp only [EUR_RATE, List.mem_cons, Prod.mk.injEq, List.not_mem_nil, or_false] at hmem
    rcases hmem with ⟨rfl, rfl⟩ | ⟨rfl, rfl⟩ | ⟨rfl, rfl⟩ | ⟨rfl, rfl⟩
    · exact ⟨1, rfl, hlit 1⟩
    · exact ⟨92 / 100, rfl, hlit _⟩
    · exact ⟨117 / 100, rfl, hlit _⟩
    · exact ⟨105 / 100, rfl, hlit _⟩

theorem BlockOf.euroValue (hfmt : rt.fmt = FloatFormat.exact) {currencies : List String} {entity : String}
    {index : ℕ} {block : Block} (h : BlockOf rt today currencies entity index block) :
    ∃ q, euroValue block.account.record = some q ∧ block.euros.val? = some q := by
  obtain ⟨x, hbalance, q, hq, _⟩ := h.balance
  obtain ⟨value, rate, hvalue, hrate, heuros⟩ := h.euros
  obtain ⟨r, hlook, hr⟩ := eurRate_exact hfmt hrate
  rw [hfmt] at hvalue heuros
  rw [hbalance] at hvalue
  have hdecimal : decimalValue block.account.balance.1 = some (roundCents q) := by
    rw [hbalance, money, decimalValue_fixed2 hq]
  have htext : textAt "balance" block.account.record.2 = some block.account.balance.1 := rfl
  have htext' : textAt "currency" block.account.record.2 = some block.account.currency.1 := rfl
  refine ⟨roundCents q * r, ?_, ?_⟩
  · rw [FinhubConsolidation.euroValue, htext, htext', Option.bind_some, Option.bind_some, hdecimal, hlook]
    rfl
  · rw [heuros]
    exact PyFloat.val?_mul_exact (val?_pyFloat_money hq hvalue) hr

theorem exists_euroValues (hfmt : rt.fmt = FloatFormat.exact) {currencies : List String} {blocks : List Block}
    (h : ∀ block ∈ blocks, ∃ entity index, BlockOf rt today currencies entity index block) :
    ∃ values, List.Forall₂ (fun r value => euroValue r = some value)
        (blocks.map fun block => block.account.record) values ∧
      List.Forall₂ (fun x q => x.val? = some q) (blocks.map Block.euros) values := by
  induction blocks with
  | nil => exact ⟨[], .nil, .nil⟩
  | cons block blocks ih =>
    obtain ⟨values, hvalues, heuros⟩ := ih fun other hother => h other (List.mem_cons_of_mem _ hother)
    obtain ⟨entity, index, hblock⟩ := h block List.mem_cons_self
    obtain ⟨q, hq, heuro⟩ := hblock.euroValue hfmt
    exact ⟨q :: values, .cons hq hvalues, .cons heuro heuros⟩

/-- The manifest is true of its batch exactly when the entities asked for are no more than the labels
there are. -/
theorem manifestTrue_iff {seed : ℤ} (hp : coerce_params rt.fmt param_schema params = .ok p)
    (hb : generate rt params seed target_label today = .ok b) :
    ManifestTrue rt b ↔ ∃ n, paramInt p "entities" = .ok n ∧ n ≤ 5 := by
  obtain ⟨p', hp', n_entities, per_entity, blocks, h⟩ := generate_consolidated hb
  cases hp.symm.trans hp'
  obtain ⟨⟨hentities, _⟩, hper, _⟩ := h.bounds hp
  have hcount := h.entityCount hp
  have htruth : intAt "expected_entities" b.ground_truth = some n_entities := by
    rw [h.truth]
    rfl
  constructor
  · intro htrue
    refine ⟨n_entities, h.param_entities, ?_⟩
    have hsame := htrue.entities
    rw [htruth, hcount] at hsame
    have := Option.some.inj hsame
    omega
  · rintro ⟨n, hn, hle⟩
    cases hn.symm.trans h.param_entities
    obtain ⟨currencies, _, hblocks⟩ := h.exists_currencies
    have hof : ∀ block ∈ blocks, ∃ entity index, BlockOf rt today currencies entity index block := by
      intro block hblock
      obtain ⟨entity, _, hof⟩ := exists_of_mem_right hblocks hblock
      exact ⟨entity.1, entity.2, hof⟩
    constructor
    · rw [htruth, hcount]
      congr 1
      omega
    · rw [h.accountCount hp, h.truth]
      rfl
    · rw [h.records]
      exact followedByFlows_blocks hof
    · intro hfmt
      obtain ⟨values, hvalues, heuros⟩ := exists_euroValues hfmt hof
      have hsum := PyFloat.val?_foldl_add_exact heuros (show (PyFloat.num 0).val? = some 0 from rfl)
      rw [zero_add] at hsum
      refine ⟨roundPlaces rt.fmt 2 ((blocks.map Block.euros).foldl (.add rt.fmt) (.num 0)), values, ?_, ?_, ?_⟩
      · rw [h.truth]
        rfl
      · rw [h.records, accountRecords_blocks]
        exact hvalues
      · rw [hfmt]
        exact PyFloat.val?_roundCents_exact hsum

def oneAccount : Params := [("entities", .int 1), ("accounts_per_entity", .int 1)]

def oneEntityBatch : GeneratedBatch :=
  (generate exactDraws oneAccount 42 "Société" newYear).toOption.getD ⟨[], [], "json"⟩

theorem oneEntity_true :
    generate exactDraws oneAccount 42 "Société" newYear = .ok oneEntityBatch ∧
      ManifestTrue exactDraws oneEntityBatch := by
  have hb : generate exactDraws oneAccount 42 "Société" newYear = .ok oneEntityBatch :=
    Raising.eq_ok_getD (by decide +kernel) _
  have hp : coerce_params exactDraws.fmt param_schema oneAccount =
      .ok ((coerce_params exactDraws.fmt param_schema oneAccount).toOption.getD []) :=
    Raising.eq_ok_getD (by decide +kernel) _
  exact ⟨hb, (manifestTrue_iff hp hb).mpr ⟨1, Raising.eq_ok_of_toOption (by decide +kernel), by decide⟩⟩

def sixEntityBatch : GeneratedBatch :=
  (generate exactDraws [("entities", .int 6)] 42 "Société" newYear).toOption.getD ⟨[], [], "json"⟩

theorem sixEntities_evaluated :
    (generate exactDraws [("entities", .int 6)] 42 "Société" newYear).toOption.isSome = true ∧
      intAt "expected_entities" sixEntityBatch.ground_truth = some 6 ∧ entityCount sixEntityBatch.records = 5 := by
  decide +kernel

theorem sixEntities_untrue :
    generate exactDraws [("entities", .int 6)] 42 "Société" newYear = .ok sixEntityBatch ∧
      ¬ManifestTrue exactDraws sixEntityBatch := by
  obtain ⟨hsome, hmanifest, hlabels⟩ := sixEntities_evaluated
  refine ⟨Raising.eq_ok_getD hsome _, ?_⟩
  intro htrue
  have hsame := htrue.entities
  rw [hmanifest, hlabels] at hsame
  exact absurd hsame (by decide)

end FinhubConsolidation
end AtlasConnectors
