import AtlasConnectors.ConsistentBatch
import AtlasConnectors.ExactArithmetic

/-! The forecasting history day by day: which flows it has on each date of its window. -/
namespace AtlasConnectors
namespace FinhubForecasting

open Raising

def cashFlows (records : List SimRecord) : List SimRecord := records.filter fun r => r.1 = "cash_flow"

def labelled (label : String) (records : List SimRecord) : List SimRecord :=
  (cashFlows records).filter fun r => textAt "label" r.2 = some label

def labelledOn (label : String) (d : Date) (records : List SimRecord) : List SimRecord :=
  (labelled label records).filter fun r => textAt "value_date" r.2 = some d.isoformat

def recurringLabel (series : Series) : String := "Récurrent " ++ series.name

def variableLabel : String := "Encaissement variable"

/-- The history of so many days up to today has every flow that is due, once. -/
structure CompleteHistory (today : Date) (days : ℤ) (ratio : PyFloat) (b : GeneratedBatch) : Prop where
  window : ∀ r ∈ cashFlows b.records, ∃ d, textAt "value_date" r.2 = some d.isoformat ∧ Recent today days d
  named : b.ground_truth.lookup "recurring_series" = some (.arr (RECURRING.map fun series => .str series.name))
  recurring : ∀ series ∈ RECURRING, ∀ d, Recent today days d →
    (labelledOn (recurringLabel series) d b.records).length = if d.day = series.dom then 1 else 0
  twice : ∀ series ∈ RECURRING, 2 ≤ (labelled (recurringLabel series) b.records).length
  collected : ∀ d, Recent today days d → (labelledOn variableLabel d b.records).length =
    if d.weekday < 5 ∧ PyFloat.lt ratio (.num 1) = true then 1 else 0
  kinds : ∀ r ∈ cashFlows b.records, textAt "label" r.2 = some variableLabel ∨
    ∃ series ∈ RECURRING, textAt "label" r.2 = some (recurringLabel series)
  refs : ∃ refs : List String, (cashFlows b.records).map (fun r => textAt "ref" r.2) = refs.map some ∧ refs.Nodup
  points : intAt "expected_history_points" b.ground_truth = some ((cashFlows b.records).length : ℤ)

/-- The label, the reference and the date of a flow. -/
structure Entry where
  label : String
  ref : String
  date : Date

def recurringEntry (day : Date) (series : Series) : Entry :=
  ⟨recurringLabel series, "REC-" ++ series.name ++ "-" ++ day.isoformat, day⟩

def variableEntry (day : Date) (offset : ℕ) : Entry :=
  ⟨variableLabel, "VAR-" ++ day.isoformat ++ "-" ++ NumberText.intText offset, day⟩

/-- The entries of the day at an offset: the series due, then the collections. -/
def entriesOf (variable_scale : PyFloat) (day : Date) (offset : ℕ) : List Entry :=
  (RECURRING.filter fun series => day.day = series.dom).map (recurringEntry day) ++
    if Collects variable_scale day then [variableEntry day offset] else []

/-- The flow shows the entry. -/
structure Shows (f : SimCashFlow) (entry : Entry) : Prop where
  label : f.label = entry.label
  ref : f.ref = some entry.ref
  value_date : f.value_date = entry.date

variable {rt : PyRuntime} {params p : Params} {target_label : String} {today start day : Date}
  {accounts : List SimBankAccount} {main : SimBankAccount} {seasonality : String}
  {days : ℤ} {ratio noise recurring_scale variable_scale : PyFloat} {offset : ℕ} {b : GeneratedBatch}

theorem ensures_recurring_shows : ∀ due : List Series,
    Ensures (due.mapM (recurringFlow main recurring_scale day) : Gen rt (List SimCashFlow)) fun flows =>
      List.Forall₂ Shows flows (due.map (recurringEntry day)) := by
  intro due
  have hflow : ∀ series, Ensures (recurringFlow main recurring_scale day series : Gen rt SimCashFlow) fun f =>
      Shows f (recurringEntry day series) := by
    intro series
    refine Ensures.fromExcept fun f hf => ?_
    obtain ⟨_, _, _, rfl⟩ := SimCashFlow.create_eq hf
    exact ⟨rfl, rfl, rfl⟩
  refine (Ensures.mapM fun series _ => hflow series).mono fun flows hflows => ?_
  rw [List.forall₂_map_right_iff]
  exact hflows.flip

theorem ensures_collections_shows :
    Ensures (collections accounts variable_scale noise seasonality day offset : Gen rt (List SimCashFlow))
      fun flows => List.Forall₂ Shows flows
        (if Collects variable_scale day then [variableEntry day offset] else []) := by
  by_cases h : Collects variable_scale day
  · rw [collections, if_pos h, if_pos h]
    refine Ensures.bind' fun account => Ensures.bind' fun u => ?_
    refine Ensures.bind (Ensures.fromExcept fun f hf => SimCashFlow.create_eq hf) fun f hf => ?_
    obtain ⟨_, _, _, rfl⟩ := hf
    exact Ensures.pure (.cons ⟨rfl, rfl, rfl⟩ .nil)
  · rw [collections, if_neg h, if_neg h]
    exact Ensures.pure .nil

/-- The day at an offset shows its entries. -/
def DayShows (start : Date) (variable_scale : PyFloat) (offset : ℕ) (flows : List SimCashFlow) : Prop :=
  ∃ day, start.shift offset = some day ∧ List.Forall₂ Shows flows (entriesOf variable_scale day offset)

theorem ensures_dayFlows_shows :
    Ensures (dayFlows main accounts recurring_scale variable_scale noise seasonality start offset :
      Gen rt (List SimCashFlow)) (DayShows start variable_scale offset) := by
  refine (PyRuntime.ensures_shiftDate start offset).bind fun day hday => ?_
  refine (ensures_recurring_shows _).bind fun recurring hrecurring => ?_
  refine ensures_collections_shows.bind fun collected hcollected => ?_
  exact Ensures.pure ⟨day, hday, List.rel_append hrecurring hcollected⟩

/-- The accounts, then the flows of each day. -/
structure Chronicle (rt : PyRuntime) (p : Params) (today : Date) (days : ℤ) (ratio : PyFloat) (start : Date)
    (accounts : List SimBankAccount) (flows : List (List SimCashFlow)) (b : GeneratedBatch) : Prop where
  param_days : paramInt p "days" = .ok days
  param_ratio : paramFloat p "recurring_ratio" = .ok ratio
  start_eq : today.shift (-(days - 1)) = some start
  shows : List.Forall₂ (DayShows start (variableScale rt ratio)) (List.range days.toNat) flows
  records : b.records = accounts.map SimBankAccount.record ++ flows.flatten.map SimCashFlow.record
  truth : b.ground_truth = [("days", .int days),
    ("recurring_series", .arr (RECURRING.map fun series => .str series.name)),
    ("expected_history_points", .int flows.flatten.length)]

theorem ensures_chronicle : Ensures (batch p target_label today : Gen rt GeneratedBatch) fun b =>
    ∃ days ratio start accounts flows, Chronicle rt p today days ratio start accounts flows b := by
  refine Ensures.bind (Ensures.fromExcept fun _ h => h) fun days hdays => ?_
  refine Ensures.bind' fun n_accounts => Ensures.bind' fun seasonality => ?_
  refine Ensures.bind (Ensures.fromExcept fun _ h => h) fun ratio hratio => ?_
  refine Ensures.bind' fun noise => Ensures.bind' fun accounts => ?_
  refine (PyRuntime.ensures_shiftDate today _).bind fun start hstart => Ensures.bind' fun main => ?_
  refine (Ensures.mapM fun offset _ => ensures_dayFlows_shows).bind fun flows hflows => ?_
  exact Ensures.pure ⟨days, ratio, start, accounts, flows, hdays, hratio, hstart, hflows, rfl, rfl⟩

theorem generate_chronicle {seed : ℤ} (h : generate rt params seed target_label today = .ok b) :
    ∃ p, coerce_params rt.fmt (param_schema rt) params = .ok p ∧
      ∃ days ratio start accounts flows, Chronicle rt p today days ratio start accounts flows b :=
  generateWith_ensures (P := fun b => ∃ p, coerce_params rt.fmt (param_schema rt) params = .ok p ∧
      ∃ days ratio start accounts flows, Chronicle rt p today days ratio start accounts flows b)
    (fun p hp => ensures_chronicle.mono fun _ hb => ⟨p, hp, hb⟩) h

theorem recurringLabel_inj {series other : Series} :
    recurringLabel series = recurringLabel other ↔ series.name = other.name := by
  simp [recurringLabel, ← String.toList_inj]

theorem recurringLabel_ne_variable (series : Series) : recurringLabel series ≠ variableLabel := by
  simp [recurringLabel, variableLabel, ← String.toList_inj]

theorem names_nodup : (RECURRING.map Series.name).Nodup := by decide

theorem eq_of_name {series other : Series} (h : series ∈ RECURRING) (hother : other ∈ RECURRING)
    (hname : series.name = other.name) : series = other :=
  List.inj_on_of_nodup_map names_nodup h hother hname

theorem mem_collected_iff {entry : Entry} :
    entry ∈ (if Collects variable_scale day then [variableEntry day offset] else []) ↔
      Collects variable_scale day ∧ entry = variableEntry day offset := by
  rw [List.mem_ite_nil_right, List.mem_singleton]

theorem mem_entriesOf {entry : Entry} : entry ∈ entriesOf variable_scale day offset ↔
    (∃ series ∈ RECURRING, day.day = series.dom ∧ entry = recurringEntry day series) ∨
      Collects variable_scale day ∧ entry = variableEntry day offset := by
  rw [entriesOf, List.mem_append, mem_collected_iff]
  simp only [List.mem_map, List.mem_filter, decide_eq_true_eq, and_assoc, @eq_comm _ _ entry]

theorem date_of_mem_entriesOf {entry : Entry} (h : entry ∈ entriesOf variable_scale day offset) :
    entry.date = day := by
  rcases mem_entriesOf.mp h with ⟨series, _, _, rfl⟩ | ⟨_, rfl⟩
  · rfl
  · rfl

theorem recurring_mem_labels {series : Series} (hseries : series ∈ RECURRING) :
    recurringLabel series ∈ (entriesOf variable_scale day offset).map Entry.label ↔ day.day = series.dom := by
  rw [List.mem_map]
  constructor
  · rintro ⟨entry, hentry, hlabel⟩
    rcases mem_entriesOf.mp hentry with ⟨other, hother, hdom, rfl⟩ | ⟨_, rfl⟩
    · rwa [← eq_of_name hother hseries (recurringLabel_inj.mp hlabel)]
    · exact absurd hlabel.symm (recurringLabel_ne_variable series)
  · intro hdom
    exact ⟨_, mem_entriesOf.mpr (Or.inl ⟨series, hseries, hdom, rfl⟩), rfl⟩

theorem variable_mem_labels :
    variableLabel ∈ (entriesOf variable_scale day offset).map Entry.label ↔ Collects variable_scale day := by
  rw [List.mem_map]
  constructor
  · rintro ⟨entry, hentry, hlabel⟩
    rcases mem_entriesOf.mp hentry with ⟨other, _, _, rfl⟩ | ⟨hcollects, _⟩
    · exact absurd hlabel (recurringLabel_ne_variable other)
    · exact hcollects
  · intro hcollects
    exact ⟨_, mem_entriesOf.mpr (Or.inr ⟨hcollects, rfl⟩), rfl⟩

/-- A text of the entries that tells the series apart, and these from the collections, occurs once a day. -/
theorem nodup_entriesOf {text : Entry → String}
    (hname : ∀ series other : Series, text (recurringEntry day series) = text (recurringEntry day other) →
      series.name = other.name)
    (hkind : ∀ series, text (recurringEntry day series) ≠ text (variableEntry day offset)) :
    ((entriesOf variable_scale day offset).map text).Nodup := by
  rw [entriesOf, List.map_append, List.map_map]
  apply List.Nodup.append
  · apply List.Nodup.map_on
    · intro series hseries other hother heq
      exact eq_of_name (List.mem_of_mem_filter hseries) (List.mem_of_mem_filter hother) (hname _ _ heq)
    · exact names_nodup.of_map.filter _
  · split_ifs
    · exact List.nodup_singleton _
    · exact List.nodup_nil
  · intro value hrecurring hcollected
    obtain ⟨series, _, rfl⟩ := List.mem_map.mp hrecurring
    obtain ⟨entry, hentry, heq⟩ := List.mem_map.mp hcollected
    rw [(mem_collected_iff.mp hentry).2] at heq
    exact hkind series heq.symm

theorem labels_nodup : ((entriesOf variable_scale day offset).map Entry.label).Nodup :=
  nodup_entriesOf (fun _ _ h => recurringLabel_inj.mp h) fun series => recurringLabel_ne_variable series

theorem recurring_ref_inj {series other : Series} {d e : Date}
    (h : (recurringEntry d series).ref = (recurringEntry e other).ref) : series.name = other.name ∧ d = e := by
  have htext : series.name.toList ++ '-' :: d.isoformat.toList = other.name.toList ++ '-' :: e.isoformat.toList := by
    simpa [recurringEntry, ← String.toList_inj] using h
  have hlength : ('-' :: d.isoformat.toList).length = ('-' :: e.isoformat.toList).length := by
    rw [List.length_cons, List.length_cons, Date.length_isoformat, Date.length_isoformat]
  obtain ⟨hname, hdate⟩ := List.append_inj' htext hlength
  exact ⟨String.toList_inj.mp hname, Date.isoformat_injective (String.toList_inj.mp (List.cons.inj hdate).2)⟩

theorem variable_ref_date {d e : Date} {i j : ℕ} (h : (variableEntry d i).ref = (variableEntry e j).ref) :
    d = e := by
  have htext : d.isoformat.toList ++ '-' :: (NumberText.intText i).toList =
      e.isoformat.toList ++ '-' :: (NumberText.intText j).toList := by
    simpa [variableEntry, ← String.toList_inj] using h
  have hlength := (Date.length_isoformat d).trans (Date.length_isoformat e).symm
  exact Date.isoformat_injective (String.toList_inj.mp (List.append_inj htext hlength).1)

theorem recurring_ref_ne_variable (series : Series) (d e : Date) (i : ℕ) :
    (recurringEntry d series).ref ≠ (variableEntry e i).ref := by
  simp [recurringEntry, variableEntry, ← String.toList_inj]

theorem date_eq_of_ref {d e : Date} {i j : ℕ} {entry other : Entry} (hentry : entry ∈ entriesOf variable_scale d i)
    (hother : other ∈ entriesOf variable_scale e j) (h : entry.ref = other.ref) : d = e := by
  rcases mem_entriesOf.mp hentry with ⟨series, _, _, rfl⟩ | ⟨_, rfl⟩
  · rcases mem_entriesOf.mp hother with ⟨_, _, _, rfl⟩ | ⟨_, rfl⟩
    · exact (recurring_ref_inj h).2
    · exact absurd h (recurring_ref_ne_variable _ _ _ _)
  · rcases mem_entriesOf.mp hother with ⟨_, _, _, rfl⟩ | ⟨_, rfl⟩
    · exact absurd h.symm (recurring_ref_ne_variable _ _ _ _)
    · exact variable_ref_date h

def dayAt (start : Date) (offset : ℕ) : Date := (start.shift offset).getD start

def history (variable_scale : PyFloat) (start : Date) (days : ℕ) : List Entry :=
  (List.range days).flatMap fun offset => entriesOf variable_scale (dayAt start offset) offset

theorem refs_nodup {n : ℕ} (hdays : ∀ i < n, ∀ j < n, dayAt start i = dayAt start j → i = j) :
    ((history variable_scale start n).map Entry.ref).Nodup := by
  rw [history, List.map_flatMap, List.nodup_flatMap]
  constructor
  · intro offset _
    exact nodup_entriesOf (fun _ _ h => (recurring_ref_inj h).1) fun series => recurring_ref_ne_variable series _ _ _
  · apply List.Pairwise.imp_of_mem _ List.nodup_range
    intro i j hi hj hne ref hleft hright
    obtain ⟨entry, hentry, rfl⟩ := List.mem_map.mp hleft
    obtain ⟨other, hother, href⟩ := List.mem_map.mp hright
    exact hne (hdays i (List.mem_range.mp hi) j (List.mem_range.mp hj) (date_eq_of_ref hentry hother href.symm))

theorem history_on {n i : ℕ} {d : Date} (hdays : ∀ i < n, ∀ j < n, dayAt start i = dayAt start j → i = j)
    (hi : i < n) (hd : dayAt start i = d) :
    ((history variable_scale start n).filter fun entry => entry.date = d) = entriesOf variable_scale d i := by
  rw [history, List.filter_flatMap, flatMap_eq_of_unique List.nodup_range (List.mem_range.mpr hi), hd]
  · apply List.filter_eq_self.mpr
    intro entry hentry
    simpa using date_of_mem_entriesOf hentry
  · intro j hj hne
    apply List.filter_eq_nil_iff.mpr
    intro entry hentry
    rw [decide_eq_true_eq, date_of_mem_entriesOf hentry, ← hd]
    exact fun heq => hne (hdays j (List.mem_range.mp hj) i hi heq)

def shown (r : SimRecord) : Option String × Option String × Option String :=
  (textAt "label" r.2, textAt "ref" r.2, textAt "value_date" r.2)

def Entry.shown (entry : Entry) : Option String × Option String × Option String :=
  (some entry.label, some entry.ref, some entry.date.isoformat)

theorem Shows.shown {f : SimCashFlow} {entry : Entry} (h : Shows f entry) :
    FinhubForecasting.shown f.record = entry.shown := by
  have href : textAt "ref" f.record.2 = some entry.ref := by
    have hlook : f.record.2.lookup "ref" = some (optionText f.ref) := rfl
    rw [textAt, hlook, h.ref]
    rfl
  have hlabel : textAt "label" f.record.2 = some f.label := rfl
  have hdate : textAt "value_date" f.record.2 = some f.value_date.isoformat := rfl
  rw [FinhubForecasting.shown, Entry.shown, href, hlabel, hdate, h.label, h.value_date]

theorem cashFlows_append (accounts : List SimBankAccount) (flows : List SimCashFlow) :
    cashFlows (accounts.map SimBankAccount.record ++ flows.map SimCashFlow.record) =
      flows.map SimCashFlow.record := by
  have haccounts : (accounts.map SimBankAccount.record).filter (fun r => r.1 = "cash_flow") = [] := by
    apply List.filter_eq_nil_iff.mpr
    intro r hr
    obtain ⟨a, _, rfl⟩ := List.mem_map.mp hr
    simp [SimBankAccount.record]
  have hflows : (flows.map SimCashFlow.record).filter (fun r => r.1 = "cash_flow") =
      flows.map SimCashFlow.record := by
    apply List.filter_eq_self.mpr
    intro r hr
    obtain ⟨f, _, rfl⟩ := List.mem_map.mp hr
    simp [SimCashFlow.record]
  rw [cashFlows, List.filter_append, haccounts, hflows, List.nil_append]

section Chronicle

variable {flows : List (List SimCashFlow)} (h : Chronicle rt p today days ratio start accounts flows b)

include h

theorem Chronicle.shift_eq {i : ℕ} (hi : i < days.toNat) : start.shift i = some (dayAt start i) := by
  obtain ⟨_, _, day, hday, _⟩ := exists_of_mem_left h.shows (List.mem_range.mpr hi)
  rw [dayAt, hday]
  rfl

theorem Chronicle.toOrdinal_dayAt {i : ℕ} (hi : i < days.toNat) :
    ((dayAt start i).toOrdinal : ℤ) = today.toOrdinal - (days - 1) + i := by
  have hstart := Date.shift_toOrdinal h.start_eq
  have hday := Date.shift_toOrdinal (h.shift_eq hi)
  omega

theorem Chronicle.dayAt_inj : ∀ i < days.toNat, ∀ j < days.toNat, dayAt start i = dayAt start j → i = j := by
  intro i hi j hj heq
  have hleft := h.toOrdinal_dayAt hi
  have hright := h.toOrdinal_dayAt hj
  rw [heq] at hleft
  omega

theorem Chronicle.recent {i : ℕ} (hi : i < days.toNat) : Recent today days (dayAt start i) := by
  have hordinal := h.toOrdinal_dayAt hi
  exact ⟨by omega, by omega⟩

theorem Chronicle.exists_dayAt {d : Date} (hd : Recent today days d) :
    ∃ i < days.toNat, dayAt start i = d := by
  have hpast := hd.past
  have hwindow := hd.window
  have hi : ((d.toOrdinal : ℤ) + (days - 1) - today.toOrdinal).toNat < days.toNat := by omega
  refine ⟨_, hi, ?_⟩
  apply Date.toOrdinal_injective
  have hordinal := h.toOrdinal_dayAt hi
  omega

theorem Chronicle.shown : (cashFlows b.records).map shown =
    (history (variableScale rt ratio) start days.toNat).map Entry.shown := by
  have hdays : List.Forall₂ (fun offset flows => List.Forall₂ Shows flows
      (entriesOf (variableScale rt ratio) (dayAt start offset) offset)) (List.range days.toNat) flows := by
    apply h.shows.imp
    rintro offset flows ⟨day, hday, hshows⟩
    rwa [dayAt, hday, Option.getD_some]
  have hall : List.Forall₂ Shows flows.flatten (history (variableScale rt ratio) start days.toNat) := by
    rw [history, List.flatMap]
    apply List.rel_flatten
    rw [List.forall₂_map_right_iff]
    exact hdays.flip
  rw [h.records, cashFlows_append, List.map_map, ← List.forall₂_eq_eq_eq, List.forall₂_map_left_iff,
    List.forall₂_map_right_iff]
  exact hall.imp fun f entry hshows => hshows.shown

theorem Chronicle.exists_entry {r : SimRecord} (hr : r ∈ cashFlows b.records) : ∃ i < days.toNat,
    ∃ entry ∈ entriesOf (variableScale rt ratio) (dayAt start i) i, FinhubForecasting.shown r = entry.shown := by
  have hmem := List.mem_map_of_mem (f := FinhubForecasting.shown) hr
  rw [h.shown] at hmem
  obtain ⟨entry, hentry, hshown⟩ := List.mem_map.mp hmem
  obtain ⟨i, hi, hentry⟩ := List.mem_flatMap.mp hentry
  exact ⟨i, List.mem_range.mp hi, entry, hentry, hshown.symm⟩

theorem Chronicle.length_labelledOn (label : String) {d : Date} (hd : Recent today days d) : ∃ i,
    (labelledOn label d b.records).length =
      if label ∈ (entriesOf (variableScale rt ratio) d i).map Entry.label then 1 else 0 := by
  obtain ⟨i, hi, hday⟩ := h.exists_dayAt hd
  refine ⟨i, ?_⟩
  have hrecords : (labelledOn label d b.records).map FinhubForecasting.shown =
      (((history (variableScale rt ratio) start days.toNat).filter fun entry => entry.date = d).filter
        fun entry => entry.label = label).map Entry.shown := by
    have hsplit : labelledOn label d b.records = (cashFlows b.records).filter
        ((fun t => decide (t.2.2 = some d.isoformat) && decide (t.1 = some label)) ∘ FinhubForecasting.shown) := by
      rw [labelledOn, labelled, List.filter_filter]
      rfl
    rw [hsplit, ← List.filter_map, h.shown, List.filter_map, List.filter_filter]
    refine congrArg (List.map Entry.shown) (List.filter_congr fun entry _ => ?_)
    simp [Entry.shown, Date.isoformat_injective.eq_iff, Bool.and_comm]
  have hlength := congrArg List.length hrecords
  rw [List.length_map, List.length_map, history_on h.dayAt_inj hi hday] at hlength
  rw [hlength, ← labels_nodup.count, List.count, List.countP_map, List.countP_eq_length_filter]
  rfl

theorem Chronicle.exists_due {k : ℕ} (hk : 1 ≤ k ∧ k ≤ 28) (hdays : 90 ≤ days) :
    ∃ d e, d ≠ e ∧ Recent today days d ∧ Recent today days e ∧ d.day = k ∧ e.day = k := by
  obtain ⟨n, hn, hfirst⟩ := Date.exists_addDays_day start hk
  have hd := h.shift_eq (i := n) (by omega)
  have hnext : start.addDays (n + 1) = some (dayAt start (n + 1)) := h.shift_eq (i := n + 1) (by omega)
  obtain ⟨m, hm, hsecond⟩ := Date.exists_addDays_day (dayAt start (n + 1)) hk
  have he := h.shift_eq (i := n + 1 + m) (by omega)
  have he' : (dayAt start (n + 1)).addDays m = some (dayAt start (n + 1 + m)) := by
    have hadd := Date.addDays_add (n + 1) m start
    rw [hnext, Option.bind_some] at hadd
    rw [← hadd]
    exact he
  refine ⟨dayAt start n, dayAt start (n + 1 + m), ?_, h.recent (by omega), h.recent (by omega), hfirst _ hd,
    hsecond _ he'⟩
  intro heq
  have := h.dayAt_inj n (by omega) (n + 1 + m) (by omega) heq
  omega

end Chronicle

theorem two_le_labelled {label : String} {d e : Date} (hne : d ≠ e) {records : List SimRecord}
    (hd : (labelledOn label d records).length = 1) (he : (labelledOn label e records).length = 1) :
    2 ≤ (labelled label records).length := by
  have hsplit := List.length_eq_length_filter_add (l := labelled label records)
    fun r => decide (textAt "value_date" r.2 = some d.isoformat)
  have hother : List.Sublist (labelledOn label e records) ((labelled label records).filter
      fun r => !decide (textAt "value_date" r.2 = some d.isoformat)) := by
    apply List.monotone_filter_right
    intro r hr
    rw [decide_eq_true_eq] at hr
    simpa [hr, Date.isoformat_injective.eq_iff] using hne.symm
  have hlength := hother.length_le
  rw [labelledOn] at hd
  omega

theorem variableScale_pos_iff_lt (hp : coerce_params rt.fmt (param_schema rt) params = .ok p)
    (hratio : paramFloat p "recurring_ratio" = .ok ratio) :
    PyFloat.lt (.num 0) (variableScale rt ratio) = true ↔ PyFloat.lt ratio (.num 1) = true := by
  rcases coerced_share (clamped_ratio hp hratio) with ⟨_, rfl⟩ | ⟨_, q, hq, hq0, hq1, _⟩
  · rfl
  · rw [variableScale_pos_iff hq hq0 hq1 (ratio_representable hp hratio),
      PyFloat.lt_of_val? hq (PyFloat.val?_num 1), decide_eq_true_iff]

/-- The history of every batch is complete and without duplicates. -/
theorem history_complete {seed : ℤ} (hp : coerce_params rt.fmt (param_schema rt) params = .ok p)
    (hb : generate rt params seed target_label today = .ok b) :
    ∃ days ratio, paramInt p "days" = .ok days ∧ 90 ≤ days ∧ days ≤ 730 ∧
      paramFloat p "recurring_ratio" = .ok ratio ∧ CompleteHistory today days ratio b := by
  obtain ⟨p', hp', days, ratio, start, accounts, flows, h⟩ := generate_chronicle hb
  cases hp.symm.trans hp'
  have hspec : .int "days" 120 90 730 ∈ param_schema rt := by simp [param_schema]
  obtain ⟨hlow, hhigh⟩ := paramInt_bounds (schema_nodup rt) (schema_wellFormed rt) hp hspec h.param_days
  refine ⟨days, ratio, h.param_days, hlow, hhigh, h.param_ratio, ?_⟩
  have hrecurring : ∀ series ∈ RECURRING, ∀ d, Recent today days d →
      (labelledOn (recurringLabel series) d b.records).length = if d.day = series.dom then 1 else 0 := by
    intro series hseries d hd
    obtain ⟨i, hlength⟩ := h.length_labelledOn (recurringLabel series) hd
    simpa only [recurring_mem_labels hseries] using hlength
  constructor
  · intro r hr
    obtain ⟨i, hi, entry, hentry, hshown⟩ := h.exists_entry hr
    refine ⟨dayAt start i, ?_, h.recent hi⟩
    rw [← date_of_mem_entriesOf hentry]
    exact congrArg (fun t => t.2.2) hshown
  · rw [h.truth]
    rfl
  · exact hrecurring
  · intro series hseries
    have hdom : 1 ≤ series.dom ∧ series.dom ≤ 28 := by
      simp only [RECURRING, List.mem_cons, List.not_mem_nil, or_false] at hseries
      rcases hseries with rfl | rfl | rfl | rfl <;> norm_num
    obtain ⟨d, e, hne, hd, he, hday, hday'⟩ := h.exists_due hdom hlow
    apply two_le_labelled hne
    · rw [hrecurring series hseries d hd, if_pos hday]
    · rw [hrecurring series hseries e he, if_pos hday']
  · intro d hd
    obtain ⟨i, hlength⟩ := h.length_labelledOn variableLabel hd
    simpa only [variable_mem_labels, Collects, variableScale_pos_iff_lt hp h.param_ratio] using hlength
  · intro r hr
    obtain ⟨i, _, entry, hentry, hshown⟩ := h.exists_entry hr
    have hlabel : textAt "label" r.2 = some entry.label := congrArg Prod.fst hshown
    rcases mem_entriesOf.mp hentry with ⟨series, hseries, _, rfl⟩ | ⟨_, rfl⟩
    · exact Or.inr ⟨series, hseries, hlabel⟩
    · exact Or.inl hlabel
  · refine ⟨(history (variableScale rt ratio) start days.toNat).map Entry.ref, ?_, refs_nodup h.dayAt_inj⟩
    have hrefs := congrArg (List.map fun t => t.2.1) h.shown
    rw [List.map_map, List.map_map] at hrefs
    rw [List.map_map]
    exact hrefs
  · have hpoints : (cashFlows b.records).length = flows.flatten.length := by
      rw [h.records, cashFlows_append, List.length_map]
    rw [h.truth, hpoints]
    rfl

def ninetyDays : Params := [("days", .int 90), ("accounts", .int 1)]

def ninetyDaysBatch : GeneratedBatch :=
  (generate exactDraws ninetyDays 42 "Société" newYear).toOption.getD ⟨[], [], "json"⟩

theorem ninetyDays_complete : generate exactDraws ninetyDays 42 "Société" newYear = .ok ninetyDaysBatch ∧
    ∃ ratio, CompleteHistory newYear 90 ratio ninetyDaysBatch := by
  have hb : generate exactDraws ninetyDays 42 "Société" newYear = .ok ninetyDaysBatch :=
    Raising.eq_ok_getD (by decide +kernel) _
  have hp : coerce_params exactDraws.fmt (param_schema exactDraws) ninetyDays =
      .ok ((coerce_params exactDraws.fmt (param_schema exactDraws) ninetyDays).toOption.getD []) :=
    Raising.eq_ok_getD (by decide +kernel) _
  obtain ⟨days, ratio, hdays, _, _, _, hcomplete⟩ := history_complete hp hb
  have hninety : (paramInt ((coerce_params exactDraws.fmt (param_schema exactDraws) ninetyDays).toOption.getD [])
      "days").toOption = some 90 := by decide +kernel
  rw [hdays] at hninety
  cases hninety
  exact ⟨hb, ratio, hcomplete⟩

end FinhubForecasting
end AtlasConnectors
