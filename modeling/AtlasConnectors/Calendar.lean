import AtlasConnectors.NumberText

/-! Dates of the proleptic Gregorian calendar, times of day and their ISO texts.
Arithmetic moves one day at a time and fails outside the years 1 to 9999. -/
namespace AtlasConnectors

def isLeap (y : ℕ) : Bool := y % 4 == 0 && (y % 100 != 0 || y % 400 == 0)

def daysInMonth (y m : ℕ) : ℕ :=
  if m = 2 then (if isLeap y then 29 else 28)
  else if m = 4 ∨ m = 6 ∨ m = 9 ∨ m = 11 then 30 else 31

theorem daysInMonth_range (y m : ℕ) : 28 ≤ daysInMonth y m ∧ daysInMonth y m ≤ 31 := by
  unfold daysInMonth
  split_ifs <;> omega

/-- A date that exists, in the range of `datetime.date`. -/
structure Date where
  year : ℕ
  month : ℕ
  day : ℕ
  year_range : 1 ≤ year ∧ year ≤ 9999
  month_range : 1 ≤ month ∧ month ≤ 12
  day_range : 1 ≤ day ∧ day ≤ daysInMonth year month
  deriving DecidableEq

namespace Date

/-- The day after, unless it is past the last year. -/
def next (d : Date) : Option Date :=
  if hd : d.day < daysInMonth d.year d.month then
    some { d with day := d.day + 1, day_range := ⟨by omega, hd⟩ }
  else if hm : d.month < 12 then
    some { d with
      month := d.month + 1
      day := 1
      month_range := ⟨by omega, hm⟩
      day_range := ⟨le_rfl, by have h := daysInMonth_range d.year (d.month + 1); omega⟩ }
  else if hy : d.year < 9999 then
    some { year := d.year + 1, month := 1, day := 1, year_range := ⟨by omega, hy⟩,
           month_range := by omega,
           day_range := ⟨le_rfl, by have h := daysInMonth_range (d.year + 1) 1; omega⟩ }
  else none

/-- The day before, unless it is before the first year. -/
def prev (d : Date) : Option Date :=
  if hd : 1 < d.day then
    some { d with day := d.day - 1, day_range := ⟨by omega, by have h := d.day_range; omega⟩ }
  else if hm : 1 < d.month then
    some { d with
      month := d.month - 1
      day := daysInMonth d.year (d.month - 1)
      month_range := ⟨by omega, by have h := d.month_range; omega⟩
      day_range := ⟨by have h := daysInMonth_range d.year (d.month - 1); omega, le_rfl⟩ }
  else if hy : 1 < d.year then
    some { year := d.year - 1, month := 12, day := 31,
           year_range := ⟨by omega, by have h := d.year_range; omega⟩,
           month_range := by omega,
           day_range := ⟨by omega, by simp [daysInMonth]⟩ }
  else none

def addDays : ℕ → Date → Option Date
  | 0, d => some d
  | n + 1, d => (addDays n d).bind next

def subDays : ℕ → Date → Option Date
  | 0, d => some d
  | n + 1, d => (subDays n d).bind prev

/-- `d + timedelta(days=k)`, `none` for an OverflowError. -/
def shift (d : Date) : ℤ → Option Date
  | .ofNat n => addDays n d
  | .negSucc n => subDays (n + 1) d

def daysBeforeYear (y : ℕ) : ℕ := (y - 1) * 365 + (y - 1) / 4 - (y - 1) / 100 + (y - 1) / 400

def daysBeforeMonth (y : ℕ) : ℕ → ℕ
  | 0 => 0
  | 1 => 0
  | m + 2 => daysBeforeMonth y (m + 1) + daysInMonth y (m + 1)

def toOrdinal (d : Date) : ℕ := daysBeforeYear d.year + daysBeforeMonth d.year d.month + d.day

/-- Monday is 0. -/
def weekday (d : Date) : ℕ := (d.toOrdinal + 6) % 7

def isoformat (d : Date) : String :=
  NumberText.zfill 4 d.year ++ "-" ++ NumberText.zfill 2 d.month ++ "-" ++ NumberText.zfill 2 d.day

theorem daysBeforeMonth_succ (y : ℕ) {m : ℕ} (hm : 1 ≤ m) :
    daysBeforeMonth y (m + 1) = daysBeforeMonth y m + daysInMonth y m := by
  obtain ⟨k, rfl⟩ := Nat.exists_eq_add_of_le' hm
  rfl

theorem daysBeforeMonth_december (y : ℕ) :
    daysBeforeMonth y 12 = 0 + 31 + daysInMonth y 2 + 31 + 30 + 31 + 30 + 31 + 31 + 30 + 31 + 30 := rfl

theorem isLeap_iff (y : ℕ) : isLeap y = true ↔ 4 ∣ y ∧ (¬100 ∣ y ∨ 400 ∣ y) := by
  simp [isLeap, Nat.dvd_iff_mod_eq_zero]

theorem daysBeforeYear_succ {y : ℕ} (hy : 1 ≤ y) :
    daysBeforeYear (y + 1) = daysBeforeYear y + daysBeforeMonth y 12 + 31 := by
  obtain ⟨z, rfl⟩ := Nat.exists_eq_add_of_le' hy
  have hfeb : daysInMonth (z + 1) 2 = if isLeap (z + 1) then 29 else 28 := rfl
  have hle : z / 100 ≤ z / 4 := Nat.div_le_div_left (by norm_num) (by norm_num)
  have h100 : 100 ∣ z + 1 → 4 ∣ z + 1 := Dvd.dvd.trans (by norm_num)
  have h400 : 400 ∣ z + 1 → 100 ∣ z + 1 := Dvd.dvd.trans (by norm_num)
  have hleap := isLeap_iff (z + 1)
  rw [daysBeforeMonth_december, hfeb]
  simp only [daysBeforeYear, Nat.add_sub_cancel, Nat.succ_div]
  generalize z / 4 = a at *
  generalize z / 100 = b at *
  generalize z / 400 = c at *
  -- each divisor divides the next, so four cases remain
  by_cases d4 : 4 ∣ z + 1 <;> by_cases d100 : 100 ∣ z + 1 <;> by_cases d400 : 400 ∣ z + 1 <;>
    cases hl : isLeap (z + 1) <;>
    simp [d4, d100, d400, hl] at hleap h100 h400 ⊢ <;>
    omega

theorem next_toOrdinal {d e : Date} (h : d.next = some e) : e.toOrdinal = d.toOrdinal + 1 := by
  have hd := d.day_range
  have hm := d.month_range
  have hy := d.year_range
  unfold next at h
  split_ifs at h with h1 h2 h3
  · cases h
    simp only [toOrdinal]
    omega
  · cases h
    simp only [toOrdinal, daysBeforeMonth_succ _ hm.1]
    omega
  · cases h
    have h12 : d.month = 12 := by omega
    have h31 : d.day = 31 := by
      rw [h12] at h1 hd
      have hdec : daysInMonth d.year 12 = 31 := rfl
      omega
    have hjan : daysBeforeMonth (d.year + 1) 1 = 0 := rfl
    simp only [toOrdinal, daysBeforeYear_succ hy.1, h12, h31, hjan]

theorem next_weekday {d e : Date} (h : d.next = some e) : e.weekday = (d.weekday + 1) % 7 := by
  unfold weekday
  rw [next_toOrdinal h]
  omega

theorem prev_toOrdinal {d e : Date} (h : d.prev = some e) : d.toOrdinal = e.toOrdinal + 1 := by
  have hd := d.day_range
  have hm := d.month_range
  have hy := d.year_range
  unfold prev at h
  split_ifs at h with h1 h2 h3
  · cases h
    simp only [toOrdinal]
    omega
  · cases h
    have hmonth := daysBeforeMonth_succ d.year (m := d.month - 1) (by omega)
    rw [Nat.sub_add_cancel hm.1] at hmonth
    simp only [toOrdinal, hmonth]
    omega
  · cases h
    have hone : d.month = 1 := by omega
    have hyear := daysBeforeYear_succ (y := d.year - 1) (by omega)
    rw [Nat.sub_add_cancel hy.1] at hyear
    have hjan : daysBeforeMonth d.year 1 = 0 := rfl
    simp only [toOrdinal, hyear, hone, hjan]
    omega

theorem daysBeforeMonth_le (y : ℕ) {m n : ℕ} (hm : 1 ≤ m) (h : m < n) :
    daysBeforeMonth y m + daysInMonth y m ≤ daysBeforeMonth y n := by
  induction n, h using Nat.le_induction with
  | base => exact (daysBeforeMonth_succ y hm).ge
  | succ n hn ih =>
    rw [daysBeforeMonth_succ y (by omega)]
    omega

theorem daysBeforeYear_le {y z : ℕ} (hy : 1 ≤ y) (h : y < z) :
    daysBeforeYear y + daysBeforeMonth y 12 + 31 ≤ daysBeforeYear z := by
  induction z, h using Nat.le_induction with
  | base => exact (daysBeforeYear_succ hy).ge
  | succ z hz ih =>
    rw [daysBeforeYear_succ (by omega)]
    omega

theorem toOrdinal_lt_of_month {d e : Date} (hyear : d.year = e.year) (h : d.month < e.month) :
    d.toOrdinal < e.toOrdinal := by
  have hmonth := daysBeforeMonth_le d.year d.month_range.1 h
  have hd := d.day_range
  have he := e.day_range
  rw [toOrdinal, toOrdinal, ← hyear]
  omega

theorem toOrdinal_lt_of_year {d e : Date} (h : d.year < e.year) : d.toOrdinal < e.toOrdinal := by
  have hyear := daysBeforeYear_le d.year_range.1 h
  have hd := d.day_range
  have he := e.day_range
  have hdays : daysBeforeMonth d.year d.month + d.day ≤ daysBeforeMonth d.year 12 + 31 := by
    have hm := d.month_range
    by_cases hlast : d.month = 12
    · have hdec : daysInMonth d.year 12 = 31 := rfl
      rw [hlast] at hd ⊢
      omega
    · have hmonth := daysBeforeMonth_le d.year hm.1 (n := 12) (by omega)
      omega
  rw [toOrdinal, toOrdinal]
  omega

theorem toOrdinal_injective : Function.Injective toOrdinal := by
  intro d e h
  have hyear : d.year = e.year := by
    rcases lt_trichotomy d.year e.year with hlt | heq | hgt
    · exact absurd h (toOrdinal_lt_of_year hlt).ne
    · exact heq
    · exact absurd h (toOrdinal_lt_of_year hgt).ne'
  have hmonth : d.month = e.month := by
    rcases lt_trichotomy d.month e.month with hlt | heq | hgt
    · exact absurd h (toOrdinal_lt_of_month hyear hlt).ne
    · exact heq
    · exact absurd h (toOrdinal_lt_of_month hyear.symm hgt).ne'
  obtain ⟨y, m, k, _, _, _⟩ := d
  obtain ⟨y', m', k', _, _, _⟩ := e
  simp only at hyear hmonth
  subst hyear hmonth
  have hday : k = k' := Nat.add_left_cancel h
  subst hday
  rfl

theorem shift_toOrdinal {d e : Date} {k : ℤ} (h : d.shift k = some e) :
    (e.toOrdinal : ℤ) = d.toOrdinal + k := by
  cases k with
  | ofNat n =>
    simp only [shift] at h
    induction n generalizing e with
    | zero =>
      cases h
      simp
    | succ n ih =>
      rw [addDays, Option.bind_eq_some_iff] at h
      obtain ⟨c, hc, hce⟩ := h
      have hstep := next_toOrdinal hce
      have hrest := ih hc
      simp only [Int.ofNat_eq_natCast] at hrest ⊢
      omega
  | negSucc n =>
    simp only [shift] at h
    have hsub : ∀ m e, subDays m d = some e → (e.toOrdinal : ℤ) = d.toOrdinal - m := by
      intro m
      induction m with
      | zero =>
        rintro e he
        cases he
        simp
      | succ m ih =>
        intro e he
        rw [subDays, Option.bind_eq_some_iff] at he
        obtain ⟨c, hc, hce⟩ := he
        have hstep := prev_toOrdinal hce
        have hrest := ih c hc
        push_cast
        omega
    have hall := hsub (n + 1) e h
    rw [hall, Int.negSucc_eq]
    push_cast
    ring

/-- `date.max.toordinal()`. -/
def lastOrdinal : ℕ := 3652059

theorem exists_next {d : Date} (h : d.toOrdinal < lastOrdinal) : ∃ e, d.next = some e := by
  have hm := d.month_range
  have hy := d.year_range
  have hd := d.day_range
  unfold next
  split_ifs with h1 h2 h3
  · exact ⟨_, rfl⟩
  · exact ⟨_, rfl⟩
  · exact ⟨_, rfl⟩
  · have hmonth : d.month = 12 := by omega
    have hyear : d.year = 9999 := by omega
    rw [hmonth, hyear] at h1 hd
    have hdec : daysInMonth 9999 12 = 31 := rfl
    have hdays : daysBeforeMonth 9999 12 = 334 := rfl
    have hbefore : daysBeforeYear 9999 = 3651694 := rfl
    rw [toOrdinal, hmonth, hyear, lastOrdinal, hdays, hbefore] at h
    omega

theorem exists_prev {d : Date} (h : 1 < d.toOrdinal) : ∃ e, d.prev = some e := by
  have hm := d.month_range
  have hy := d.year_range
  have hd := d.day_range
  unfold prev
  split_ifs with h1 h2 h3
  · exact ⟨_, rfl⟩
  · exact ⟨_, rfl⟩
  · exact ⟨_, rfl⟩
  · have hmonth : d.month = 1 := by omega
    have hyear : d.year = 1 := by omega
    have hdays : daysBeforeMonth 1 1 = 0 := rfl
    have hbefore : daysBeforeYear 1 = 0 := rfl
    rw [toOrdinal, hmonth, hyear, hdays, hbefore] at h
    omega

theorem exists_shift {d : Date} {k : ℤ} (hlo : 1 ≤ d.toOrdinal + k) (hhi : d.toOrdinal + k ≤ lastOrdinal) :
    ∃ e, d.shift k = some e := by
  cases k with
  | ofNat n =>
    simp only [shift]
    have hadd : ∀ m : ℕ, (d.toOrdinal : ℤ) + m ≤ lastOrdinal → ∃ e, addDays m d = some e ∧
        (e.toOrdinal : ℤ) = d.toOrdinal + m := by
      intro m
      induction m with
      | zero => exact fun _ => ⟨d, rfl, by simp⟩
      | succ m ih =>
        intro hm
        push_cast at hm
        obtain ⟨c, hc, hordinal⟩ := ih (by omega)
        obtain ⟨e, he⟩ := exists_next (d := c) (by omega)
        have hstep := next_toOrdinal he
        refine ⟨e, by rw [addDays, hc, Option.bind_some, he], ?_⟩
        push_cast
        omega
    obtain ⟨e, he, _⟩ := hadd n hhi
    exact ⟨e, he⟩
  | negSucc n =>
    simp only [shift]
    have hsub : ∀ m : ℕ, (1 : ℤ) ≤ d.toOrdinal - m → ∃ e, subDays m d = some e ∧
        (e.toOrdinal : ℤ) = d.toOrdinal - m := by
      intro m
      induction m with
      | zero => exact fun _ => ⟨d, rfl, by simp⟩
      | succ m ih =>
        intro hm
        push_cast at hm
        obtain ⟨c, hc, hordinal⟩ := ih (by omega)
        obtain ⟨e, he⟩ := exists_prev (d := c) (by omega)
        have hstep := prev_toOrdinal he
        refine ⟨e, by rw [subDays, hc, Option.bind_some, he], ?_⟩
        push_cast
        omega
    rw [Int.negSucc_eq] at hlo
    obtain ⟨e, he, _⟩ := hsub (n + 1) (by push_cast; omega)
    exact ⟨e, he⟩

theorem addDays_weekday {n : ℕ} {d e : Date} (h : addDays n d = some e) :
    e.weekday = (d.weekday + n) % 7 := by
  induction n generalizing e with
  | zero =>
    cases h
    unfold weekday
    omega
  | succ n ih =>
    rw [addDays, Option.bind_eq_some_iff] at h
    obtain ⟨c, hc, hce⟩ := h
    rw [next_weekday hce, ih hc]
    omega

theorem addDays_add (m n : ℕ) (d : Date) : addDays (m + n) d = (addDays m d).bind (addDays n) := by
  induction n with
  | zero => exact (Option.bind_fun_some _).symm
  | succ n ih =>
    rw [← Nat.add_assoc, addDays, ih, Option.bind_assoc]
    rfl

theorem addDays_day {n : ℕ} {d e : Date} (h : addDays n d = some e)
    (hn : d.day + n ≤ daysInMonth d.year d.month) :
    e.day = d.day + n ∧ e.month = d.month ∧ e.year = d.year := by
  induction n generalizing e with
  | zero =>
    cases h
    exact ⟨rfl, rfl, rfl⟩
  | succ n ih =>
    rw [addDays, Option.bind_eq_some_iff] at h
    obtain ⟨c, hc, hce⟩ := h
    obtain ⟨hday, hmonth, hyear⟩ := ih hc (by omega)
    have hlt : c.day < daysInMonth c.year c.month := by
      rw [hday, hmonth, hyear]
      omega
    rw [next, dif_pos hlt] at hce
    cases hce
    refine ⟨?_, hmonth, hyear⟩
    change c.day + 1 = d.day + (n + 1)
    omega

theorem next_day_of_last {d e : Date} (h : d.next = some e)
    (hlast : d.day = daysInMonth d.year d.month) : e.day = 1 := by
  unfold next at h
  split_ifs at h with h1 h2 h3
  · omega
  · cases h
    rfl
  · cases h
    rfl

/-- Every day of the month up to the 28th comes again within a month. -/
theorem exists_addDays_day (d : Date) {k : ℕ} (hk : 1 ≤ k ∧ k ≤ 28) :
    ∃ n ≤ 30, ∀ e, addDays n d = some e → e.day = k := by
  have hd := d.day_range
  have hlen := daysInMonth_range d.year d.month
  by_cases hle : d.day ≤ k
  · refine ⟨k - d.day, by omega, ?_⟩
    intro e he
    have hsame := addDays_day he (by omega)
    omega
  · -- through the last day of this month and the first of the next one
    refine ⟨daysInMonth d.year d.month - d.day + 1 + (k - 1), by omega, ?_⟩
    intro e he
    rw [addDays_add, Option.bind_eq_some_iff] at he
    obtain ⟨f, hf, hfe⟩ := he
    rw [addDays, Option.bind_eq_some_iff] at hf
    obtain ⟨c, hc, hcf⟩ := hf
    obtain ⟨hday, hmonth, hyear⟩ := addDays_day hc (by omega)
    have hfirst : f.day = 1 := next_day_of_last hcf (by rw [hday, hmonth, hyear]; omega)
    have hflen := daysInMonth_range f.year f.month
    have hlast := addDays_day hfe (by omega)
    omega

theorem exists_addDays_business (d : Date) :
    ∃ n ≤ 2, ∀ e, addDays n d = some e → e.weekday < 5 := by
  by_cases h : d.weekday < 5
  · refine ⟨0, by omega, ?_⟩
    intro e he
    cases he
    exact h
  · refine ⟨7 - d.weekday, by omega, ?_⟩
    intro e he
    have hlt : d.weekday < 7 := Nat.mod_lt _ (by norm_num)
    rw [addDays_weekday he]
    omega

theorem toList_isoformat (d : Date) : d.isoformat.toList = (NumberText.zfill 4 d.year).toList ++
    '-' :: ((NumberText.zfill 2 d.month).toList ++ '-' :: (NumberText.zfill 2 d.day).toList) := by
  simp [isoformat]

theorem length_isoformat (d : Date) : d.isoformat.toList.length = 10 := by
  have hy := d.year_range
  have hm := d.month_range
  have hd := d.day_range
  have hlen := daysInMonth_range d.year d.month
  rw [toList_isoformat]
  simp only [List.length_append, List.length_cons]
  rw [NumberText.length_zfill (by norm_num) (by omega), NumberText.length_zfill (by norm_num) (by omega),
    NumberText.length_zfill (by norm_num) (by omega)]

theorem isoformat_injective : Function.Injective isoformat := by
  intro d e h
  have htext := congrArg String.toList h
  rw [toList_isoformat, toList_isoformat] at htext
  obtain ⟨hyear, hrest⟩ := NumberText.zfill_dash_inj htext
  obtain ⟨hmonth, hday⟩ := NumberText.zfill_dash_inj hrest
  have hday' := NumberText.zfill_injective 2 (String.toList_inj.mp hday)
  obtain ⟨y, m, k, _, _, _⟩ := d
  obtain ⟨y', m', k', _, _, _⟩ := e
  simp only at hyear hmonth hday'
  subst hyear hmonth hday'
  rfl

end Date

/-- A date and a time of day; the offset from UTC is in minutes, absent when naive. -/
structure DateTime where
  date : Date
  hour : Fin 24
  minute : Fin 60
  second : Fin 60
  microsecond : Fin 1000000
  offset : Option ℤ
  deriving DecidableEq

namespace DateTime

/-- `datetime(d.year, d.month, d.day, hour, minute)`, `none` for a ValueError. -/
def at? (d : Date) (hour minute : ℤ) : Option DateTime :=
  if h : (0 ≤ hour ∧ hour < 24) ∧ 0 ≤ minute ∧ minute < 60 then
    some { date := d, hour := ⟨hour.toNat, by omega⟩, minute := ⟨minute.toNat, by omega⟩,
           second := 0, microsecond := 0, offset := none }
  else none

def midnight (d : Date) (offset : Option ℤ) : DateTime := ⟨d, 0, 0, 0, 0, offset⟩

def secondOfDay (t : DateTime) : ℕ := t.hour * 3600 + t.minute * 60 + t.second

/-- `t + timedelta(seconds=n)`, `none` for an OverflowError. -/
def addSeconds (t : DateTime) (n : ℕ) : Option DateTime :=
  let total := t.secondOfDay + n
  (t.date.addDays (total / 86400)).map fun d =>
    { t with
      date := d
      hour := ⟨total % 86400 / 3600, by omega⟩
      minute := ⟨total % 3600 / 60, by omega⟩
      second := ⟨total % 60, by omega⟩ }

theorem exists_at? (d : Date) {hour minute : ℤ} (hh : 0 ≤ hour ∧ hour < 24)
    (hm : 0 ≤ minute ∧ minute < 60) : ∃ t, at? d hour minute = some t :=
  ⟨_, dif_pos ⟨hh, hm⟩⟩

theorem exists_addSeconds {t : DateTime} {n : ℕ} (h : t.secondOfDay + n < 86400) :
    ∃ u, t.addSeconds n = some u := by
  have hdays : t.date.addDays ((t.secondOfDay + n) / 86400) = some t.date := by
    rw [Nat.div_eq_of_lt h]
    rfl
  simp only [addSeconds, hdays]
  exact ⟨_, rfl⟩

def offsetText : Option ℤ → String
  | none => ""
  | some m =>
    if m = 0 then "Z"
    else (if m < 0 then "-" else "+") ++ NumberText.zfill 2 (m.natAbs / 60) ++ ":" ++
      NumberText.zfill 2 (m.natAbs % 60)

def isoformat (t : DateTime) : String :=
  t.date.isoformat ++ "T" ++ NumberText.zfill 2 t.hour ++ ":" ++ NumberText.zfill 2 t.minute ++ ":" ++
    NumberText.zfill 2 t.second ++
    (if t.microsecond = 0 then "" else "." ++ NumberText.zfill 6 t.microsecond) ++ offsetText t.offset

/-- The hour that an ISO text shows. -/
def isoHour (text : String) : ℕ := Nat.ofDigitChars 10 ((text.toList.drop 11).take 2) 0

theorem isoHour_isoformat (t : DateTime) : isoHour t.isoformat = t.hour := by
  have hdate := t.date.length_isoformat
  have hhour := NumberText.length_zfill (w := 2) (n := t.hour) (by norm_num) (by omega)
  have htext : ∃ rest, t.isoformat.toList =
      t.date.isoformat.toList ++ 'T' :: ((NumberText.zfill 2 t.hour).toList ++ rest) := by
    refine ⟨(":" ++ NumberText.zfill 2 t.minute ++ ":" ++ NumberText.zfill 2 t.second ++
      (if t.microsecond = 0 then "" else "." ++ NumberText.zfill 6 t.microsecond) ++
        offsetText t.offset).toList, ?_⟩
    simp [isoformat]
  obtain ⟨rest, htext⟩ := htext
  have hdrop : t.isoformat.toList.drop 11 = (NumberText.zfill 2 t.hour).toList ++ rest := by
    rw [htext, List.drop_append, hdate, List.drop_of_length_le (by omega)]
    rfl
  rw [isoHour, hdrop, List.take_append_of_le_length (by omega), List.take_of_length_le (by omega),
    NumberText.ofDigitChars_zfill]

end DateTime

example : ((Date.mk 2024 3 1 (by decide) (by decide) (by decide)).shift (-60)).map Date.isoformat =
    some "2024-01-01" := by decide

end AtlasConnectors
