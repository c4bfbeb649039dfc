import AtlasConnectors.Calendar

/-! ISO texts of dates and of naive times are read back to the values they show. -/
namespace AtlasConnectors
namespace IsoText

/-- A number of `w` digits, and what follows it. -/
def readFixed (w : ℕ) (cs : List Char) : Option (ℕ × List Char) :=
  if (cs.take w).length = w ∧ (cs.take w).all Char.isDigit then
    some (Nat.ofDigitChars 10 (cs.take w) 0, cs.drop w)
  else none

theorem readFixed_zfill {w n : ℕ} (hw : 0 < w) (hn : n < 10 ^ w) (rest : List Char) :
    readFixed w ((NumberText.zfill w n).toList ++ rest) = some (n, rest) := by
  have hlen := NumberText.length_zfill hw hn
  have htake : ((NumberText.zfill w n).toList ++ rest).take w = (NumberText.zfill w n).toList :=
    List.take_left' hlen
  have hdigits : (NumberText.zfill w n).toList.all Char.isDigit = true := by
    rw [List.all_eq_true]
    intro c hc
    exact NumberText.isDigit_of_mem_zfill hc
  rw [readFixed, htake, if_pos ⟨hlen, hdigits⟩, NumberText.ofDigitChars_zfill, List.drop_left' hlen]

/-- The separator `c` and a number of `w` digits. -/
def readAfter (c : Char) (w : ℕ) : List Char → Option (ℕ × List Char)
  | [] => none
  | d :: cs => if d = c then readFixed w cs else none

theorem readAfter_zfill {w n : ℕ} (c : Char) (hw : 0 < w) (hn : n < 10 ^ w) (rest : List Char) :
    readAfter c w (c :: ((NumberText.zfill w n).toList ++ rest)) = some (n, rest) := by
  rw [readAfter, if_pos rfl, readFixed_zfill hw hn]

def dateOf (year month day : ℕ) : Option Date :=
  if h : (1 ≤ year ∧ year ≤ 9999) ∧ (1 ≤ month ∧ month ≤ 12) ∧ 1 ≤ day ∧ day ≤ daysInMonth year month then
    some ⟨year, month, day, h.1, h.2.1, h.2.2⟩
  else none

theorem dateOf_fields (d : Date) : dateOf d.year d.month d.day = some d := by
  rw [dateOf, dif_pos ⟨d.year_range, d.month_range, d.day_range⟩]

/-- `YYYY-MM-DD`, and what follows it. -/
def readDate (cs : List Char) : Option (Date × List Char) :=
  match readFixed 4 cs with
  | none => none
  | some (year, cs) =>
    match readAfter '-' 2 cs with
    | none => none
    | some (month, cs) =>
      match readAfter '-' 2 cs with
      | none => none
      | some (day, cs) => (dateOf year month day).map fun d => (d, cs)

theorem readDate_isoformat (d : Date) (rest : List Char) :
    readDate (d.isoformat.toList ++ rest) = some (d, rest) := by
  have hy := d.year_range
  have hm := d.month_range
  have hd := d.day_range
  have hlen := daysInMonth_range d.year d.month
  rw [Date.toList_isoformat]
  simp only [List.append_assoc, List.cons_append, readDate]
  rw [readFixed_zfill (by norm_num) (by omega)]
  dsimp only
  rw [readAfter_zfill '-' (by norm_num) (by omega)]
  dsimp only
  rw [readAfter_zfill '-' (by norm_num) (by omega)]
  dsimp only
  rw [dateOf_fields]
  rfl

def timeOf (d : Date) (hour minute second microsecond : ℕ) : Option DateTime :=
  if h : hour < 24 ∧ minute < 60 ∧ second < 60 ∧ microsecond < 1000000 then
    some ⟨d, ⟨hour, h.1⟩, ⟨minute, h.2.1⟩, ⟨second, h.2.2.1⟩, ⟨microsecond, h.2.2.2⟩, none⟩
  else none

theorem timeOf_fields {t : DateTime} (h : t.offset = none) :
    timeOf t.date t.hour t.minute t.second t.microsecond = some t := by
  rw [timeOf, dif_pos ⟨t.hour.2, t.minute.2, t.second.2, t.microsecond.2⟩]
  obtain ⟨d, hour, minute, second, microsecond, offset⟩ := t
  cases h
  rfl

/-- `.ffffff` or nothing, at the end of the text. -/
def readFraction : List Char → Option ℕ
  | [] => some 0
  | c :: cs =>
    match readAfter '.' 6 (c :: cs) with
    | some (n, []) => some n
    | _ => none

/-- `YYYY-MM-DDTHH:MM:SS` with or without microseconds. -/
def readDateTime (cs : List Char) : Option DateTime :=
  match readDate cs with
  | none => none
  | some (d, cs) =>
    match readAfter 'T' 2 cs with
    | none => none
    | some (hour, cs) =>
      match readAfter ':' 2 cs with
      | none => none
      | some (minute, cs) =>
        match readAfter ':' 2 cs with
        | none => none
        | some (second, cs) => (readFraction cs).bind (timeOf d hour minute second)

theorem readFraction_zfill (n : Fin 1000000) :
    readFraction (if n = 0 then "" else "." ++ NumberText.zfill 6 n).toList = some n.1 := by
  by_cases h0 : n = 0
  · rw [if_pos h0, h0]
    rfl
  · have hread := readAfter_zfill '.' (w := 6) (n := n) (by norm_num) n.2 []
    rw [List.append_nil] at hread
    rw [if_neg h0, String.toList_append]
    change readFraction ('.' :: (NumberText.zfill 6 n).toList) = some n.1
    rw [readFraction, hread]

theorem readDateTime_isoformat {t : DateTime} (h : t.offset = none) :
    readDateTime t.isoformat.toList = some t := by
  have hhour := t.hour.2
  have hminute := t.minute.2
  have hsecond := t.second.2
  have htext : t.isoformat.toList = t.date.isoformat.toList ++ 'T' :: ((NumberText.zfill 2 t.hour).toList ++
      ':' :: ((NumberText.zfill 2 t.minute).toList ++ ':' :: ((NumberText.zfill 2 t.second).toList ++
        (if t.microsecond = 0 then "" else "." ++ NumberText.zfill 6 t.microsecond).toList))) := by
    simp [DateTime.isoformat, h, DateTime.offsetText]
  rw [htext, readDateTime, readDate_isoformat]
  dsimp only
  rw [readAfter_zfill 'T' (by norm_num) (by omega)]
  dsimp only
  rw [readAfter_zfill ':' (by norm_num) (by omega)]
  dsimp only
  rw [readAfter_zfill ':' (by norm_num) (by omega)]
  dsimp only
  rw [readFraction_zfill, Option.bind_some, timeOf_fields h]

end IsoText
end AtlasConnectors
