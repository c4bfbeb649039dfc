import AtlasConnectors.NumberText
import AtlasConnectors.Dict

/-! JSON values and the compact text of `json.dumps` with sorted keys and ASCII escapes.
The text determines the value up to the order of the keys. -/
namespace AtlasConnectors

/-- JSON values whose non-integral numbers are drawn from `φ`. -/
inductive Json (φ : Type)
  | null
  | bool (b : Bool)
  | int (n : ℤ)
  | float (x : φ)
  | str (s : String)
  | arr (xs : List (Json φ))
  | obj (ps : List (String × Json φ))

namespace Json

def hexVal? (c : Char) : Option ℕ :=
  if c.isDigit then some (c.toNat - 48)
  else if 97 ≤ c.toNat ∧ c.toNat ≤ 102 then some (c.toNat - 87)
  else if 65 ≤ c.toNat ∧ c.toNat ≤ 70 then some (c.toNat - 55)
  else none

/-- `\uXXXX` for a 16-bit unit. -/
def unitEscape (n : ℕ) : List Char :=
  ['\\', 'u', Nat.digitChar (n / 4096 % 16), Nat.digitChar (n / 256 % 16),
    Nat.digitChar (n / 16 % 16), Nat.digitChar (n % 16)]

/-- The character of a two-character escape, as a table of the escapes JSON names. -/
def shortEscapes : List (Char × Char) :=
  [('"', '"'), ('\\', '\\'), ('\n', 'n'), ('\r', 'r'), ('\t', 't'), ('\x0c', 'f'), ('\x08', 'b')]

/-- The surrogate pair of a code point above the 16-bit units. -/
def highUnit (n : ℕ) : ℕ := 0xd800 + (n - 0x10000) / 1024

def lowUnit (n : ℕ) : ℕ := 0xdc00 + (n - 0x10000) % 1024

/-- `ensure_ascii`: printable ASCII as it is, the rest as one unit or a surrogate pair. -/
def escape (c : Char) : List Char :=
  match shortEscapes.lookup c with
  | some e => ['\\', e]
  | none =>
    if 32 ≤ c.toNat ∧ c.toNat ≤ 126 then [c]
    else if c.toNat < 0x10000 then unitEscape c.toNat
    else unitEscape (highUnit c.toNat) ++ unitEscape (lowUnit c.toNat)

def readUnit : List Char → Option (ℕ × List Char)
  | a :: b :: c :: d :: r =>
    match hexVal? a, hexVal? b, hexVal? c, hexVal? d with
    | some w, some x, some y, some z => some (w * 4096 + x * 256 + y * 16 + z, r)
    | _, _, _, _ => none
  | _ => none

/-- The low surrogate that must follow the high surrogate `n`. -/
def joinUnits (n : ℕ) : List Char → Option (Char × List Char)
  | '\\' :: 'u' :: r =>
    match readUnit r with
    | some (m, r') =>
      if 0xdc00 ≤ m ∧ m < 0xe000 then
        some (Char.ofNat (0x10000 + (n - 0xd800) * 1024 + (m - 0xdc00)), r')
      else none
    | none => none
  | _ => none

def readUnits (r : List Char) : Option (Char × List Char) :=
  match readUnit r with
  | none => none
  | some (n, r) => if 0xd800 ≤ n ∧ n < 0xdc00 then joinUnits n r else some (Char.ofNat n, r)

/-- One character of a string literal; `none` at the closing quote. -/
def readChar : List Char → Option (Char × List Char)
  | '\\' :: 'u' :: r => readUnits r
  | '\\' :: e :: r => ((shortEscapes.map Prod.swap).lookup e).map fun c => (c, r)
  | '"' :: _ => none
  | c :: r => some (c, r)
  | [] => none

theorem readChar_unitEscape (n : ℕ) (r : List Char) :
    readChar (unitEscape n ++ r) = readUnits ((unitEscape n).drop 2 ++ r) := rfl

theorem hexVal?_digitChar {d : ℕ} (hd : d < 16) : hexVal? (Nat.digitChar d) = some d := by
  interval_cases d <;> rfl

theorem readUnit_unitEscape {n : ℕ} (hn : n < 65536) (r : List Char) :
    readUnit ((unitEscape n).drop 2 ++ r) = some (n, r) := by
  simp only [unitEscape, List.drop_succ_cons, List.drop_zero, List.cons_append, List.nil_append,
    readUnit]
  rw [hexVal?_digitChar (Nat.mod_lt _ (by norm_num)), hexVal?_digitChar (Nat.mod_lt _ (by norm_num)),
    hexVal?_digitChar (Nat.mod_lt _ (by norm_num)), hexVal?_digitChar (Nat.mod_lt _ (by norm_num))]
  simp only [Option.some.injEq, Prod.mk.injEq, and_true]
  omega

theorem readUnits_scalar {n : ℕ} (hn : n < 65536) (hs : n < 0xd800 ∨ 0xe000 ≤ n) (r : List Char) :
    readUnits ((unitEscape n).drop 2 ++ r) = some (Char.ofNat n, r) := by
  have hsur : ¬(0xd800 ≤ n ∧ n < 0xdc00) := by omega
  simp only [readUnits, readUnit_unitEscape hn, if_neg hsur]

theorem joinUnits_low {n l : ℕ} (hl : 0xdc00 ≤ l ∧ l < 0xe000) (r : List Char) :
    joinUnits n (unitEscape l ++ r) =
      some (Char.ofNat (0x10000 + (n - 0xd800) * 1024 + (l - 0xdc00)), r) := by
  have hread := readUnit_unitEscape (n := l) (by omega) r
  change joinUnits n ('\\' :: 'u' :: ((unitEscape l).drop 2 ++ r)) = _
  simp only [joinUnits, hread, if_pos hl]

theorem readUnits_high {h : ℕ} (hh : 0xd800 ≤ h ∧ h < 0xdc00) (r : List Char) :
    readUnits ((unitEscape h).drop 2 ++ r) = joinUnits h r := by
  have hread := readUnit_unitEscape (n := h) (by omega) r
  simp only [readUnits, hread, if_pos hh]

theorem readUnits_pair {h l : ℕ} (hh : 0xd800 ≤ h ∧ h < 0xdc00) (hl : 0xdc00 ≤ l ∧ l < 0xe000)
    (r : List Char) : readUnits ((unitEscape h).drop 2 ++ (unitEscape l ++ r)) =
      some (Char.ofNat (0x10000 + (h - 0xd800) * 1024 + (l - 0xdc00)), r) :=
  (readUnits_high hh _).trans (joinUnits_low hl r)

theorem highUnit_range {n : ℕ} (hn : n < 0x110000) : 0xd800 ≤ highUnit n ∧ highUnit n < 0xdc00 := by
  have h : (n - 0x10000) / 1024 < 1024 := Nat.div_lt_of_lt_mul (by omega)
  exact ⟨Nat.le_add_right _ _, Nat.add_lt_add_left h _⟩

theorem lowUnit_range (n : ℕ) : 0xdc00 ≤ lowUnit n ∧ lowUnit n < 0xe000 := by
  have h : (n - 0x10000) % 1024 < 1024 := Nat.mod_lt _ (by norm_num)
  exact ⟨Nat.le_add_right _ _, Nat.add_lt_add_left h _⟩

theorem joined_units {n : ℕ} (hn : 0x10000 ≤ n) :
    0x10000 + (highUnit n - 0xd800) * 1024 + (lowUnit n - 0xdc00) = n := by
  rw [highUnit, lowUnit, Nat.add_sub_cancel_left, Nat.add_sub_cancel_left, Nat.add_assoc,
    Nat.div_add_mod', Nat.add_sub_cancel' hn]

theorem toNat_valid (c : Char) : c.toNat < 0xd800 ∨ 0xdfff < c.toNat ∧ c.toNat < 0x110000 := c.valid

/-- The reader undoes the escape of one character, whatever follows it. -/
theorem readChar_escape (c : Char) (r : List Char) : readChar (escape c ++ r) = some (c, r) := by
  unfold escape
  cases hshort : shortEscapes.lookup c with
  | some e =>
    have hmem := Dict.mem_of_lookup hshort
    simp only [shortEscapes, List.mem_cons, Prod.mk.injEq, List.not_mem_nil, or_false] at hmem
    rcases hmem with ⟨rfl, rfl⟩ | ⟨rfl, rfl⟩ | ⟨rfl, rfl⟩ | ⟨rfl, rfl⟩ | ⟨rfl, rfl⟩ | ⟨rfl, rfl⟩ |
      ⟨rfl, rfl⟩ <;> rfl
  | none =>
    have hnot := Dict.lookup_eq_none_iff.mp hshort
    simp only [Dict.keys, shortEscapes, List.map_cons, List.map_nil, List.mem_cons,
      List.not_mem_nil, or_false, not_or] at hnot
    have hvalid := toNat_valid c
    dsimp only
    split_ifs with hprint hunit
    · simp [readChar, hnot.1, hnot.2.1]
    · have h := readUnits_scalar (n := c.toNat) (by omega) (by omega) r
      rw [readChar_unitEscape, h, Char.ofNat_toNat]
    · have h := readUnits_pair (highUnit_range (n := c.toNat) (by omega)) (lowUnit_range c.toNat) r
      rw [List.append_assoc, readChar_unitEscape, h, joined_units (by omega), Char.ofNat_toNat]

theorem escape_split {c d : Char} {r s : List Char} (h : escape c ++ r = escape d ++ s) :
    c = d ∧ r = s := by
  have hread := congrArg readChar h
  rw [readChar_escape, readChar_escape] at hread
  simpa using hread

theorem quote_ne_escape (c : Char) (r s : List Char) : '"' :: r ≠ escape c ++ s := by
  intro h
  have hread := congrArg readChar h
  rw [readChar_escape] at hread
  simp [readChar] at hread

/-- A string literal with its quotes. -/
def renderString (s : String) : List Char := '"' :: (s.toList.flatMap escape ++ ['"'])

theorem flatMap_escape_split {cs ds r s : List Char}
    (h : cs.flatMap escape ++ '"' :: r = ds.flatMap escape ++ '"' :: s) : cs = ds ∧ r = s := by
  induction cs generalizing ds with
  | nil =>
    cases ds with
    | nil => simpa using h
    | cons d ds =>
      rw [List.flatMap_nil, List.nil_append, List.flatMap_cons, List.append_assoc] at h
      exact absurd h (quote_ne_escape _ _ _)
  | cons c cs ih =>
    cases ds with
    | nil =>
      rw [List.flatMap_nil, List.nil_append, List.flatMap_cons, List.append_assoc] at h
      exact absurd h.symm (quote_ne_escape _ _ _)
    | cons d ds =>
      simp only [List.flatMap_cons, List.append_assoc] at h
      obtain ⟨hcd, hrest⟩ := escape_split h
      obtain ⟨hcs, hrs⟩ := ih hrest
      exact ⟨by rw [hcd, hcs], hrs⟩

theorem renderString_split {a b : String} {r s : List Char}
    (h : renderString a ++ r = renderString b ++ s) : a = b ∧ r = s := by
  have hbody : a.toList.flatMap escape ++ '"' :: r = b.toList.flatMap escape ++ '"' :: s := by
    simpa [renderString] using h
  obtain ⟨hab, hrs⟩ := flatMap_escape_split hbody
  exact ⟨String.toList_inj.mp hab, hrs⟩

mutual

/-- The text of a value without spaces, its keys in the order they have. -/
def render : Json Empty → List Char
  | .null => ['n', 'u', 'l', 'l']
  | .bool true => ['t', 'r', 'u', 'e']
  | .bool false => ['f', 'a', 'l', 's', 'e']
  | .int n => (NumberText.intText n).toList
  | .float x => nomatch x
  | .str s => renderString s
  | .arr xs => '[' :: renderItems [] xs
  | .obj ps => '{' :: renderMembers [] ps

/-- Items with the separator before each and the closing bracket after them. -/
def renderItems (sep : List Char) : List (Json Empty) → List Char
  | [] => [']']
  | x :: xs => sep ++ (render x ++ renderItems [','] xs)

def renderMembers (sep : List Char) : List (String × Json Empty) → List Char
  | [] => ['}']
  | (k, v) :: ps => sep ++ (renderString k ++ ':' :: (render v ++ renderMembers [','] ps))

end

/-- The constructor that a text starts, read off its first character. -/
def leadKind (c : Char) : ℕ :=
  if c = 'n' then 0 else if c = 't' then 1 else if c = 'f' then 2 else if c = '"' then 4
  else if c = '[' then 5 else if c = '{' then 6 else if c.isDigit ∨ c = '-' then 3 else 7

def kind : Json Empty → ℕ
  | .null => 0
  | .bool true => 1
  | .bool false => 2
  | .int _ => 3
  | .float _ => 3
  | .str _ => 4
  | .arr _ => 5
  | .obj _ => 6

theorem leadKind_digit {c : Char} (hc : c.isDigit = true) : leadKind c = 3 := by
  obtain ⟨d, hlt, rfl⟩ := NumberText.eq_digitChar_of_isDigit hc
  interval_cases d <;> rfl

theorem toList_intText (n : ℤ) : (NumberText.intText n).toList =
    (if n < 0 then ['-'] else []) ++ Nat.toDigits 10 n.natAbs := by
  unfold NumberText.intText
  split_ifs <;> simp

theorem intText_head (n : ℤ) : ∃ c cs, (NumberText.intText n).toList = c :: cs ∧ leadKind c = 3 := by
  rw [toList_intText]
  split_ifs with hn
  · exact ⟨'-', _, rfl, rfl⟩
  · obtain ⟨c, cs, hc⟩ := List.exists_cons_of_ne_nil (Nat.toDigits_ne_nil (n := n.natAbs) (b := 10))
    refine ⟨c, cs, by simpa using hc, leadKind_digit ?_⟩
    exact Nat.isDigit_of_mem_toDigits (b := 10) (n := n.natAbs) (by norm_num) (by norm_num) (by simp [hc])

theorem render_head (a : Json Empty) : ∃ c cs, render a = c :: cs ∧ leadKind c = kind a := by
  cases a with
  | null => exact ⟨'n', _, by rw [render], rfl⟩
  | bool b => cases b <;> exact ⟨_, _, by rw [render], rfl⟩
  | int n =>
    obtain ⟨c, cs, hc, hk⟩ := intText_head n
    exact ⟨c, cs, by rw [render, hc], hk⟩
  | float x => exact x.elim
  | str s => exact ⟨'"', _, by rw [render, renderString], rfl⟩
  | arr xs => exact ⟨'[', _, by rw [render], rfl⟩
  | obj ps => exact ⟨'{', _, by rw [render], rfl⟩

theorem kind_eq_of_render {a b : Json Empty} {r s : List Char}
    (h : render a ++ r = render b ++ s) : kind a = kind b := by
  obtain ⟨c, cs, hc, hkc⟩ := render_head a
  obtain ⟨d, ds, hd, hkd⟩ := render_head b
  rw [hc, hd] at h
  rw [← hkc, ← hkd, (List.cons.inj h).1]

theorem kind_lt (a : Json Empty) : kind a < 7 := by
  cases a with
  | bool b => cases b <;> simp [kind]
  | _ => simp [kind]

/-- What may follow a value inside a text: nothing, a separator or a closing bracket. -/
def Delimited (r : List Char) : Prop := ∀ c ∈ r.head?, c.isDigit = false

theorem toDigits_split {m n : ℕ} {r s : List Char} (hr : Delimited r) (hs : Delimited s)
    (h : Nat.toDigits 10 m ++ r = Nat.toDigits 10 n ++ s) : m = n ∧ r = s := by
  have hd : ∀ k : ℕ, ∀ c ∈ Nat.toDigits 10 k, c.isDigit = true := fun k c hc =>
    Nat.isDigit_of_mem_toDigits (by norm_num) (by norm_num) hc
  have htake := congrArg (List.takeWhile Char.isDigit) h
  have hdrop := congrArg (List.dropWhile Char.isDigit) h
  rw [NumberText.takeWhile_isDigit_append (hd m) hr,
    NumberText.takeWhile_isDigit_append (hd n) hs] at htake
  rw [NumberText.dropWhile_isDigit_append (hd m) hr,
    NumberText.dropWhile_isDigit_append (hd n) hs] at hdrop
  refine ⟨?_, hdrop⟩
  rw [← Nat.ofDigitChars_ten_toDigits (n := m), ← Nat.ofDigitChars_ten_toDigits (n := n), htake]

theorem toDigits_ne_minus (n : ℕ) (r s : List Char) : Nat.toDigits 10 n ++ r ≠ '-' :: s := by
  intro h
  obtain ⟨c, cs, hc⟩ := List.exists_cons_of_ne_nil (Nat.toDigits_ne_nil (n := n) (b := 10))
  rw [hc, List.cons_append] at h
  have hdigit := Nat.isDigit_of_mem_toDigits (b := 10) (n := n) (c := c) (by norm_num) (by norm_num)
    (by simp [hc])
  rw [(List.cons.inj h).1] at hdigit
  exact absurd hdigit (by decide)

theorem intText_split {m n : ℤ} {r s : List Char} (hr : Delimited r) (hs : Delimited s)
    (h : (NumberText.intText m).toList ++ r = (NumberText.intText n).toList ++ s) :
    m = n ∧ r = s := by
  rw [toList_intText, toList_intText] at h
  by_cases hm : m < 0 <;> by_cases hn : n < 0
  · simp only [if_pos hm, if_pos hn, List.cons_append, List.nil_append, List.cons.injEq,
      true_and] at h
    obtain ⟨habs, hrs⟩ := toDigits_split hr hs h
    exact ⟨by omega, hrs⟩
  · simp only [if_pos hm, if_neg hn, List.cons_append, List.nil_append] at h
    exact absurd h.symm (toDigits_ne_minus _ _ _)
  · simp only [if_neg hm, if_pos hn, List.cons_append, List.nil_append] at h
    exact absurd h (toDigits_ne_minus _ _ _)
  · simp only [if_neg hm, if_neg hn, List.nil_append] at h
    obtain ⟨habs, hrs⟩ := toDigits_split hr hs h
    exact ⟨by omega, hrs⟩

theorem renderItems_delimited (xs : List (Json Empty)) (r : List Char) :
    Delimited (renderItems [','] xs ++ r) := by
  intro c hc
  cases xs <;> rw [renderItems] at hc <;> cases hc <;> rfl

theorem renderMembers_delimited (ps : List (String × Json Empty)) (r : List Char) :
    Delimited (renderMembers [','] ps ++ r) := by
  intro c hc
  rcases ps with _ | ⟨⟨k, v⟩, ps⟩ <;> rw [renderMembers] at hc <;> cases hc <;> rfl

theorem bracket_ne_render (a : Json Empty) (r s : List Char) : ']' :: r ≠ render a ++ s := by
  intro h
  obtain ⟨c, cs, hc, hk⟩ := render_head a
  rw [hc, List.cons_append] at h
  rw [← (List.cons.inj h).1] at hk
  have hlt := kind_lt a
  rw [← hk] at hlt
  exact absurd hlt (by decide)

mutual

/-- Two values whose texts agree up to what follows them are one value. -/
theorem render_split : ∀ (a b : Json Empty) (r s : List Char), Delimited r → Delimited s →
    render a ++ r = render b ++ s → a = b ∧ r = s
  | .null, b, r, s, _, _, h => by
    cases b with
    | null => simpa [render] using h
    | bool c => cases c <;> simpa [kind] using kind_eq_of_render h
    | float x => exact x.elim
    | _ => simpa [kind] using kind_eq_of_render h
  | .bool c, b, r, s, _, _, h => by
    cases b with
    | bool d =>
      have hk := kind_eq_of_render h
      cases c <;> cases d <;> simp [kind] at hk <;> simpa [render] using h
    | float x => exact x.elim
    | _ => cases c <;> simpa [kind] using kind_eq_of_render h
  | .int m, b, r, s, hr, hs, h => by
    cases b with
    | int n =>
      rw [render, render] at h
      obtain ⟨hmn, hrs⟩ := intText_split hr hs h
      exact ⟨by rw [hmn], hrs⟩
    | bool c => cases c <;> simpa [kind] using kind_eq_of_render h
    | float x => exact x.elim
    | _ => simpa [kind] using kind_eq_of_render h
  | .float x, _, _, _, _, _, _ => x.elim
  | .str t, b, r, s, _, _, h => by
    cases b with
    | str u =>
      rw [render, render] at h
      obtain ⟨htu, hrs⟩ := renderString_split h
      exact ⟨by rw [htu], hrs⟩
    | bool c => cases c <;> simpa [kind] using kind_eq_of_render h
    | float x => exact x.elim
    | _ => simpa [kind] using kind_eq_of_render h
  | .arr xs, b, r, s, _, _, h => by
    cases b with
    | arr ys =>
      rw [render, render, List.cons_append, List.cons_append] at h
      obtain ⟨hxy, hrs⟩ := renderItems_split xs ys [] r s (Or.inl rfl) (List.cons.inj h).2
      exact ⟨by rw [hxy], hrs⟩
    | bool c => cases c <;> simpa [kind] using kind_eq_of_render h
    | float x => exact x.elim
    | _ => simpa [kind] using kind_eq_of_render h
  | .obj ps, b, r, s, _, _, h => by
    cases b with
    | obj qs =>
      rw [render, render, List.cons_append, List.cons_append] at h
      obtain ⟨hpq, hrs⟩ := renderMembers_split ps qs [] r s (Or.inl rfl) (List.cons.inj h).2
      exact ⟨by rw [hpq], hrs⟩
    | bool c => cases c <;> simpa [kind] using kind_eq_of_render h
    | float x => exact x.elim
    | _ => simpa [kind] using kind_eq_of_render h

theorem renderItems_split : ∀ (xs ys : List (Json Empty)) (sep r s : List Char),
    sep = [] ∨ sep = [','] → renderItems sep xs ++ r = renderItems sep ys ++ s → xs = ys ∧ r = s
  | [], [], _, r, s, _, h => by simpa [renderItems] using h
  | [], y :: ys, sep, r, s, hsep, h => by
    rw [renderItems, renderItems] at h
    rcases hsep with rfl | rfl
    · exact absurd (by simpa using h) (bracket_ne_render y r (renderItems [','] ys ++ s))
    · simp at h
  | x :: xs, [], sep, r, s, hsep, h => by
    rw [renderItems, renderItems] at h
    rcases hsep with rfl | rfl
    · exact absurd (by simpa using h.symm) (bracket_ne_render x s (renderItems [','] xs ++ r))
    · simp at h
  | x :: xs, y :: ys, sep, r, s, _, h => by
    rw [renderItems, renderItems] at h
    simp only [List.append_assoc, List.append_cancel_left_eq] at h
    obtain ⟨hxy, hrest⟩ := render_split x y _ _ (renderItems_delimited xs r)
      (renderItems_delimited ys s) h
    obtain ⟨hxs, hrs⟩ := renderItems_split xs ys [','] r s (Or.inr rfl) hrest
    exact ⟨by rw [hxy, hxs], hrs⟩

theorem renderMembers_split : ∀ (ps qs : List (String × Json Empty)) (sep r s : List Char),
    sep = [] ∨ sep = [','] → renderMembers sep ps ++ r = renderMembers sep qs ++ s →
      ps = qs ∧ r = s
  | [], [], _, r, s, _, h => by simpa [renderMembers] using h
  | [], (k, v) :: qs, sep, r, s, hsep, h => by
    rw [renderMembers, renderMembers, renderString] at h
    rcases hsep with rfl | rfl <;> simp at h
  | (k, v) :: ps, [], sep, r, s, hsep, h => by
    rw [renderMembers, renderMembers, renderString] at h
    rcases hsep with rfl | rfl <;> simp at h
  | (k, v) :: ps, (l, w) :: qs, sep, r, s, _, h => by
    rw [renderMembers, renderMembers] at h
    simp only [List.append_assoc, List.append_cancel_left_eq] at h
    obtain ⟨hkl, hvalue⟩ := renderString_split h
    simp only [List.cons_append, List.append_assoc, List.cons.injEq, true_and] at hvalue
    obtain ⟨hvw, hrest⟩ := render_split v w _ _ (renderMembers_delimited ps r)
      (renderMembers_delimited qs s) hvalue
    obtain ⟨hps, hrs⟩ := renderMembers_split ps qs [','] r s (Or.inr rfl) hrest
    exact ⟨by rw [hkl, hvw, hps], hrs⟩

end

theorem render_injective : Function.Injective render := by
  intro a b h
  exact (render_split a b [] [] (by simp [Delimited]) (by simp [Delimited]) (by simp [h])).1

def sortPairs {β : Type} (ps : List (String × β)) : List (String × β) :=
  ps.insertionSort fun p q => p.1 ≤ q.1

variable {φ : Type}

mutual

/-- `sort_keys=True`: the members of every object in the order of their keys. -/
def sortKeys : Json φ → Json φ
  | .arr xs => .arr (sortKeysItems xs)
  | .obj ps => .obj (sortPairs (sortKeysMembers ps))
  | j => j

def sortKeysItems : List (Json φ) → List (Json φ)
  | [] => []
  | x :: xs => sortKeys x :: sortKeysItems xs

def sortKeysMembers : List (String × Json φ) → List (String × Json φ)
  | [] => []
  | (k, v) :: ps => (k, sortKeys v) :: sortKeysMembers ps

end

/-- `json.dumps(j, sort_keys=True, separators=(",", ":"))`. -/
def dumps (j : Json Empty) : List Char := render (sortKeys j)

theorem dumps_eq_iff {a b : Json Empty} : dumps a = dumps b ↔ sortKeys a = sortKeys b :=
  render_injective.eq_iff

def IsScalar : Json φ → Prop
  | .arr _ => False
  | .obj _ => False
  | _ => True

@[simp] theorem isScalar_str (s : String) : IsScalar (.str s : Json φ) := trivial

theorem sortKeys_of_isScalar {j : Json φ} (h : IsScalar j) : sortKeys j = j := by
  cases j with
  | arr xs => exact h.elim
  | obj ps => exact h.elim
  | _ => simp [sortKeys]

/-- An object whose values are scalars, with distinct keys. -/
structure Flat (ps : Dict String (Json φ)) : Prop where
  nodup : ps.keys.Nodup
  scalar : ∀ p ∈ ps, IsScalar p.2

theorem Flat.set {ps : Dict String (Json φ)} (h : Flat ps) {k : String} (hk : k ∈ ps.keys)
    {v : Json φ} (hv : IsScalar v) : Flat (ps.set k v) := by
  have hnodup : (ps.set k v).keys.Nodup := by
    rw [Dict.keys_set_of_mem hk]
    exact h.nodup
  refine ⟨hnodup, ?_⟩
  rintro ⟨k', w⟩ hmem
  rw [← Dict.lookup_eq_some_iff hnodup, Dict.lookup_set] at hmem
  split_ifs at hmem with heq
  · cases hmem
    exact hv
  · exact h.scalar _ (Dict.mem_of_lookup hmem)

theorem Flat.erase {ps : Dict String (Json φ)} (h : Flat ps) (k : String) : Flat (ps.erase k) := by
  refine ⟨?_, ?_⟩
  · rw [Dict.keys_erase]
    exact h.nodup.filter _
  · intro p hp
    exact h.scalar p (List.mem_of_mem_filter hp)

theorem sortKeysMembers_of_isScalar {ps : List (String × Json φ)} (h : ∀ p ∈ ps, IsScalar p.2) :
    sortKeysMembers ps = ps := by
  induction ps with
  | nil => rw [sortKeysMembers]
  | cons p ps ih =>
    rw [sortKeysMembers, sortKeys_of_isScalar (h p (by simp)), ih fun q hq => h q (by simp [hq])]

theorem sortPairs_eq_iff_perm {β : Type} {ps qs : List (String × β)}
    (hq : (Dict.keys qs).Nodup) :
    sortPairs ps = sortPairs qs ↔ ps.Perm qs := by
  have hps := List.perm_insertionSort (fun p q : String × β => p.1 ≤ q.1) ps
  have hqs := List.perm_insertionSort (fun p q : String × β => p.1 ≤ q.1) qs
  constructor
  · intro h
    exact hps.symm.trans ((List.Perm.of_eq h).trans hqs)
  · intro h
    have hsorted := List.pairwise_insertionSort (fun p q : String × β => p.1 ≤ q.1)
    refine List.Perm.eq_of_pairwise ?_ (hsorted ps) (hsorted qs) (hps.trans (h.trans hqs.symm))
    rintro ⟨k, v⟩ ⟨l, w⟩ hpk hql hkl hlk
    have hkey : k = l := le_antisymm hkl hlk
    subst hkey
    have hv := (Dict.lookup_eq_some_iff hq).mpr (h.mem_iff.mp (hps.mem_iff.mp hpk))
    have hw := (Dict.lookup_eq_some_iff hq).mpr (hqs.mem_iff.mp hql)
    rw [hv] at hw
    rw [Option.some.inj hw]

/-- Flat objects have one text exactly when they agree at every key. -/
theorem dumps_flat_eq_iff {ps qs : Dict String (Json Empty)} (hp : Flat ps) (hq : Flat qs) :
    dumps (.obj ps) = dumps (.obj qs) ↔ ∀ k, ps.lookup k = qs.lookup k := by
  rw [dumps_eq_iff, sortKeys, sortKeys, sortKeysMembers_of_isScalar hp.scalar,
    sortKeysMembers_of_isScalar hq.scalar, Json.obj.injEq,
    sortPairs_eq_iff_perm hq.nodup, Dict.perm_iff_lookup hp.nodup hq.nodup]

mutual

def lift : Json Empty → Json φ
  | .null => .null
  | .bool b => .bool b
  | .int n => .int n
  | .float x => nomatch x
  | .str s => .str s
  | .arr xs => .arr (liftItems xs)
  | .obj ps => .obj (liftMembers ps)

def liftItems : List (Json Empty) → List (Json φ)
  | [] => []
  | x :: xs => lift x :: liftItems xs

def liftMembers : List (String × Json Empty) → List (String × Json φ)
  | [] => []
  | (k, v) :: ps => (k, lift v) :: liftMembers ps

end

mutual

/-- The value without floats that a value is, if any. -/
def floatless? : Json φ → Option (Json Empty)
  | .null => some .null
  | .bool b => some (.bool b)
  | .int n => some (.int n)
  | .float _ => none
  | .str s => some (.str s)
  | .arr xs => (floatlessItems? xs).map .arr
  | .obj ps => (floatlessMembers? ps).map .obj

def floatlessItems? : List (Json φ) → Option (List (Json Empty))
  | [] => some []
  | x :: xs => (floatless? x).bind fun y => (floatlessItems? xs).map (y :: ·)

def floatlessMembers? : List (String × Json φ) → Option (List (String × Json Empty))
  | [] => some []
  | (k, v) :: ps => (floatless? v).bind fun w => (floatlessMembers? ps).map ((k, w) :: ·)

end

mutual

theorem floatless?_lift : ∀ j : Json Empty, floatless? (lift j : Json φ) = some j
  | .null => by rw [lift, floatless?]
  | .bool b => by rw [lift, floatless?]
  | .int n => by rw [lift, floatless?]
  | .float x => x.elim
  | .str s => by rw [lift, floatless?]
  | .arr xs => by rw [lift, floatless?, floatlessItems?_lift xs, Option.map_some]
  | .obj ps => by rw [lift, floatless?, floatlessMembers?_lift ps, Option.map_some]

theorem floatlessItems?_lift : ∀ xs : List (Json Empty),
    floatlessItems? (liftItems xs : List (Json φ)) = some xs
  | [] => by rw [liftItems, floatlessItems?]
  | x :: xs => by
    rw [liftItems, floatlessItems?, floatless?_lift x, floatlessItems?_lift xs]
    rfl

theorem floatlessMembers?_lift : ∀ ps : List (String × Json Empty),
    floatlessMembers? (liftMembers ps : List (String × Json φ)) = some ps
  | [] => by rw [liftMembers, floatlessMembers?]
  | (k, v) :: ps => by
    rw [liftMembers, floatlessMembers?, floatless?_lift v, floatlessMembers?_lift ps]
    rfl

end

theorem keys_liftMembers (ps : List (String × Json Empty)) :
    Dict.keys (liftMembers ps : List (String × Json φ)) = Dict.keys ps := by
  induction ps with
  | nil => rfl
  | cons p ps ih =>
    rw [liftMembers, Dict.keys, List.map_cons, Dict.keys, List.map_cons]
    exact congrArg (p.1 :: ·) ih

/-- `text.encode("utf-8")`. -/
def utf8 (text : List Char) : List UInt8 := text.flatMap String.utf8EncodeChar

theorem utf8_injective : Function.Injective utf8 := by
  intro cs ds h
  have hbytes : cs.utf8Encode = ds.utf8Encode := by
    simp only [List.utf8Encode]
    exact congrArg List.toByteArray h
  have hstring : String.ofList cs = String.ofList ds := by
    rw [← String.toByteArray_inj, String.toByteArray_ofList, String.toByteArray_ofList, hbytes]
  simpa using congrArg String.toList hstring

example : dumps (.obj [("b", .int (-3)), ("a", .str "é\n")]) =
    ['\x7b', '"', 'a', '"', ':', '"', '\\', 'u', '0', '0', 'e', '9', '\\', 'n', '"', ',', '"', 'b', '"',
      ':', '-', '3', '\x7d'] := by decide

end Json
end AtlasConnectors
