import AtlasConnectors.GeneratorBase

/-! Batches as ledgers: every flow and every book entry is backed by an account before it. -/
namespace AtlasConnectors

open Raising

section EachAfter

variable {α : Type}

/-- Every element is as `P` says of the elements before it. -/
def EachAfter (P : List α → α → Prop) (xs : List α) : Prop := ∀ i x, xs[i]? = some x → P (xs.take i) x

variable {P : List α → α → Prop}

theorem eachAfter_nil : EachAfter P [] := by
  intro i x h
  cases h

theorem EachAfter.append (hmono : ∀ as bs x, as ⊆ bs → P as x → P bs x) {xs ys : List α}
    (hxs : EachAfter P xs) (hys : ∀ y ∈ ys, P xs y) : EachAfter P (xs ++ ys) := by
  intro i x hx
  by_cases hi : i < xs.length
  · rw [List.getElem?_append_left hi] at hx
    rw [List.take_append_of_le_length hi.le]
    exact hxs i x hx
  · rw [List.getElem?_append_right (by omega)] at hx
    apply hmono xs _ x _ (hys x (List.mem_of_getElem? hx))
    intro y hy
    rw [List.take_append]
    exact List.mem_append_left _ (by rwa [List.take_of_length_le (by omega)])

theorem EachAfter.forall (hmono : ∀ as bs x, as ⊆ bs → P as x → P bs x) {xs : List α}
    (h : EachAfter P xs) : ∀ x ∈ xs, P xs x := by
  intro x hx
  obtain ⟨i, hi⟩ := List.mem_iff_getElem?.mp hx
  exact hmono _ xs x (List.take_subset i xs) (h i x hi)

end EachAfter

theorem flatMap_eq_of_unique {α β : Type} {xs : List α} {f : α → List β} {x : α} (hnodup : xs.Nodup)
    (hx : x ∈ xs) (h : ∀ y ∈ xs, y ≠ x → f y = []) : xs.flatMap f = f x := by
  induction xs with
  | nil => cases hx
  | cons y ys ih =>
    rw [List.nodup_cons] at hnodup
    rw [List.flatMap_cons]
    by_cases hyx : y = x
    · have hrest : ys.flatMap f = [] := by
        apply List.flatMap_eq_nil_iff.mpr
        intro z hz
        apply h z (List.mem_cons_of_mem _ hz)
        rintro rfl
        exact hnodup.1 (hyx ▸ hz)
      rw [hrest, hyx, List.append_nil]
    · have hxs : x ∈ ys := (List.mem_cons.mp hx).resolve_left (Ne.symm hyx)
      rw [h y List.mem_cons_self hyx, List.nil_append]
      exact ih hnodup.2 hxs fun z hz => h z (List.mem_cons_of_mem _ hz)

/-- The amounts that a direction allows. -/
def Direction.Allows : Direction → ℚ → Prop
  | .credit, q => 0 ≤ q
  | .debit, q => q ≤ 0

/-- A date of the last `days` days. -/
structure Recent (today : Date) (days : ℤ) (d : Date) : Prop where
  past : d.toOrdinal ≤ today.toOrdinal
  window : (today.toOrdinal : ℤ) < d.toOrdinal + days

/-- A flow of the account, within the last `days` days. -/
structure Posted (today : Date) (days : ℤ) (account : SimBankAccount) (f : SimCashFlow) : Prop where
  account_iban : f.account_iban.1 = account.iban.1
  currency : f.currency.1 = account.currency.1
  amount : ∃ x q, f.amount.1 = money x ∧ x.val? = some q ∧ f.direction.Allows q
  value_date : Recent today days f.value_date
  booked_at : ∀ t, f.booked_at = some t → t.offset = none

/-- A book entry that matches the account. -/
structure Entered (account : SimBankAccount) (e : SimErpEntry) : Prop where
  matches_iban : e.matches_iban = some account.iban.1
  currency : e.currency.1 = account.currency.1
  amount : ∃ x, e.amount.1 = money x ∧ IsFinite x

/-- A record with what stands behind it among the earlier ones. -/
inductive Backed (today : Date) (days : ℤ) (earlier : List SimRecord) : SimRecord → Prop
  | bank_account (a : SimBankAccount) (ha : ∃ x, a.balance.1 = money x ∧ IsFinite x) :
      Backed today days earlier a.record
  | cash_flow (a : SimBankAccount) (f : SimCashFlow) (ha : a.record ∈ earlier)
      (hf : Posted today days a f) : Backed today days earlier f.record
  | financial_transaction (a : SimBankAccount) (e : SimErpEntry) (ha : a.record ∈ earlier)
      (he : Entered a e) : Backed today days earlier e.record

theorem Backed.mono {today : Date} {days : ℤ} (as bs : List SimRecord) (r : SimRecord) (h : as ⊆ bs)
    (hr : Backed today days as r) : Backed today days bs r := by
  cases hr with
  | bank_account a ha => exact .bank_account a ha
  | cash_flow a f ha hf => exact .cash_flow a f (h ha) hf
  | financial_transaction a e ha he => exact .financial_transaction a e (h ha) he

theorem Backed.fabricated {today : Date} {days : ℤ} {earlier : List SimRecord} {r : SimRecord}
    (h : Backed today days earlier r) : Fabricated IsFinite r := by
  cases h with
  | bank_account a ha =>
    obtain ⟨x, hx, hfin⟩ := ha
    exact .bank_account a x hx hfin
  | cash_flow a f _ hf =>
    obtain ⟨x, q, hx, hq, _⟩ := hf.amount
    exact .cash_flow f x hx ⟨q, hq⟩
  | financial_transaction a e _ he =>
    obtain ⟨x, hx, hfin⟩ := he.amount
    exact .financial_transaction e x hx hfin

/-- The records of a batch, each backed by the records before it. -/
abbrev Ledger (today : Date) (days : ℤ) (records : List SimRecord) : Prop :=
  EachAfter (Backed today days) records

section Ledger

variable {today : Date} {days : ℤ} {records : List SimRecord}

theorem Ledger.fabricated (h : Ledger today days records) : ∀ r ∈ records, Fabricated IsFinite r :=
  fun r hr => (EachAfter.forall Backed.mono h r hr).fabricated

theorem Ledger.open_account (h : Ledger today days records) {a : SimBankAccount}
    (ha : ∃ x, a.balance.1 = money x ∧ IsFinite x) : Ledger today days (records ++ [a.record]) := by
  apply EachAfter.append Backed.mono h
  intro r hr
  rw [List.mem_singleton.mp hr]
  exact .bank_account a ha

theorem Ledger.post (h : Ledger today days records) {flows : List SimCashFlow}
    (hflows : ∀ f ∈ flows, ∃ a : SimBankAccount, a.record ∈ records ∧ Posted today days a f) :
    Ledger today days (records ++ flows.map SimCashFlow.record) := by
  apply EachAfter.append Backed.mono h
  intro r hr
  obtain ⟨f, hf, rfl⟩ := List.mem_map.mp hr
  obtain ⟨a, ha, hposted⟩ := hflows f hf
  exact .cash_flow a f ha hposted

theorem Ledger.enter (h : Ledger today days records) {a : SimBankAccount} {e : SimErpEntry}
    (ha : a.record ∈ records) (he : Entered a e) : Ledger today days (records ++ [e.record]) := by
  apply EachAfter.append Backed.mono h
  intro r hr
  rw [List.mem_singleton.mp hr]
  exact .financial_transaction a e ha he

theorem ledger_of_accounts {accounts : List SimBankAccount} {flows : List SimCashFlow}
    (haccounts : ∀ a ∈ accounts, ∃ x, a.balance.1 = money x ∧ IsFinite x)
    (hflows : ∀ f ∈ flows, ∃ a ∈ accounts, Posted today days a f) :
    Ledger today days (accounts.map SimBankAccount.record ++ flows.map SimCashFlow.record) := by
  have hopen : Ledger today days (accounts.map SimBankAccount.record) := by
    rw [← List.nil_append (accounts.map SimBankAccount.record)]
    apply EachAfter.append Backed.mono eachAfter_nil
    intro r hr
    obtain ⟨a, ha, rfl⟩ := List.mem_map.mp hr
    exact .bank_account a (haccounts a ha)
  apply hopen.post
  intro f hf
  obtain ⟨a, ha, hposted⟩ := hflows f hf
  exact ⟨a, List.mem_map_of_mem ha, hposted⟩

end Ledger

theorem recent_of_shift {today d : Date} {k days : ℤ} (h : today.shift (-k) = some d) (hk : 0 ≤ k)
    (hdays : k < days) : Recent today days d := by
  have hordinal := Date.shift_toOrdinal h
  exact ⟨by omega, by omega⟩

theorem recent_today (today : Date) {days : ℤ} (hdays : 0 < days) : Recent today days today :=
  ⟨le_rfl, by omega⟩

theorem allows_directionOf {x : PyFloat} {q : ℚ} (h : x.val? = some q) : (directionOf x).Allows q := by
  unfold directionOf
  rw [PyFloat.le_eq_of_val? (show (PyFloat.num 0).val? = some 0 from rfl) h]
  by_cases hq : 0 ≤ q
  · simp [hq, Direction.Allows]
  · simp [hq, Direction.Allows, (not_le.mp hq).le]

theorem debit_allows {x : PyFloat} (h : x.NonNeg) : ∃ q, x.neg.val? = some q ∧ Direction.debit.Allows q := by
  obtain ⟨q, hq, hq0⟩ := h
  exact ⟨-q, PyFloat.val?_neg hq, by simpa [Direction.Allows] using hq0⟩

theorem ensures_uniformInt_nonneg {rt : PyRuntime} {lo hi : ℤ} (hle : lo ≤ hi) (hlo : 0 ≤ lo) :
    Ensures (uniformInt lo hi : Gen rt PyFloat) PyFloat.NonNeg := by
  refine (PyRuntime.ensures_uniform rfl rfl (by exact_mod_cast hle)).mono fun x hx => ?_
  obtain ⟨q, hq, hge, _⟩ := hx
  have hlo' : (0 : ℚ) ≤ lo := by exact_mod_cast hlo
  exact ⟨q, hq, hlo'.trans hge⟩

theorem at?_offset {day : Date} {hour minute : ℤ} {t : DateTime} (h : DateTime.at? day hour minute = some t) :
    t.offset = none := by
  unfold DateTime.at? at h
  split_ifs at h
  cases h
  rfl

theorem addSeconds_offset {t u : DateTime} {n : ℕ} (h : t.addSeconds n = some u) : u.offset = t.offset := by
  obtain ⟨d, _, rfl⟩ := Option.map_eq_some_iff.mp h
  rfl

end AtlasConnectors
