import AtlasConnectors.Json

/-! Standard JSON texts: which texts denote a value, and a decoder that reads all of them. -/
namespace AtlasConnectors
namespace Json

/-- The texts of a character between quotes. -/
inductive CharText : List Char → Char → Prop
  | plain (c : Char) (hprint : 32 ≤ c.toNat) (hquote : c ≠ '"') (hslash : c ≠ '\\') : CharText [c] c
  | short (c e : Char) (h : (c, e) ∈ shortEscapes) : CharText ['\\', e] c
  | slash : CharText ['\\', '/'] '/'
  | unit (w x y z : Char) (n : ℕ) (h : readUnit [w, x, y, z] = some (n, []))
      (hscalar : n < 0xd800 ∨ 0xe000 ≤ n) : CharText ['\\', 'u', w, x, y, z] (Char.ofNat n)
  | pair (w x y z w' x' y' z' : Char) (m n : ℕ) (h : readUnit [w, x, y, z] = some (m, []))
      (h' : readUnit [w', x', y', z'] = some (n, [])) (hhigh : 0xd800 ≤ m ∧ m < 0xdc00)
      (hlow : 0xdc00 ≤ n ∧ n < 0xe000) :
      CharText ['\\', 'u', w, x, y, z, '\\', 'u', w', x', y', z']
        (Char.ofNat (0x10000 + (m - 0xd800) * 1024 + (n - 0xdc00)))

/-- One character of a literal; `none` at the closing quote and where nothing can be read. -/
def decodeChar : List Char → Option (Char × List Char)
  | '\\' :: '/' :: r => some ('/', r)
  | '\\' :: 'u' :: r =>
    match readUnit r with
    | none => none
    | some (n, _) => if 0xdc00 ≤ n ∧ n < 0xe000 then none else readUnits r
  | c :: r => if c.toNat < 32 then none else readChar (c :: r)
  | [] => none

theorem readUnit_append {w x y z : Char} {n : ℕ} (h : readUnit [w, x, y, z] = some (n, []))
    (r : List Char) : readUnit (w :: x :: y :: z :: r) = some (n, r) := by
  simp only [readUnit] at h ⊢
  split at h
  · simpa using h
  · cases h

theorem decodeChar_text {t : List Char} {c : Char} (h : CharText t c) (r : List Char) :
    decodeChar (t ++ r) = some (c, r) := by
  cases h with
  | plain c hprint hquote hslash =>
    have hctrl : ¬c.toNat < 32 := by omega
    simp [decodeChar, readChar, hctrl, hslash]
  | short c e h =>
    simp only [shortEscapes, List.mem_cons, Prod.mk.injEq, List.not_mem_nil, or_false] at h
    rcases h with ⟨rfl, rfl⟩ | ⟨rfl, rfl⟩ | ⟨rfl, rfl⟩ | ⟨rfl, rfl⟩ | ⟨rfl, rfl⟩ | ⟨rfl, rfl⟩ | ⟨rfl, rfl⟩ <;> rfl
  | slash => rfl
  | unit w x y z n h hscalar =>
    have hlow : ¬(0xdc00 ≤ n ∧ n < 0xe000) := by omega
    have hhigh : ¬(0xd800 ≤ n ∧ n < 0xdc00) := by omega
    simp only [List.cons_append, List.nil_append, decodeChar, readUnits, readUnit_append h,
      if_neg hlow, if_neg hhigh]
  | pair w x y z w' x' y' z' m n h h' hhigh hlow =>
    have hlow' : ¬(0xdc00 ≤ m ∧ m < 0xe000) := by omega
    simp only [List.cons_append, List.nil_append, decodeChar, readUnits, joinUnits,
      readUnit_append h, readUnit_append h', if_neg hlow', if_pos hhigh, if_pos hlow]

theorem decodeChar_quote (r : List Char) : decodeChar ('"' :: r) = none := by
  simp [decodeChar, readChar]

/-- The text of a string literal after its opening quote. -/
inductive StringText : List Char → List Char → Prop
  | nil : StringText ['"'] []
  | cons (t u : List Char) (c : Char) (cs : List Char) (hc : CharText t c) (hcs : StringText u cs) :
      StringText (t ++ u) (c :: cs)

def decodeString : ℕ → List Char → Option (List Char × List Char)
  | 0, _ => none
  | n + 1, cs =>
    match decodeChar cs with
    | some (c, r) => (decodeString n r).map fun p => (c :: p.1, p.2)
    | none => if cs.head? = some '"' then some ([], cs.tail) else none

theorem CharText.length_pos {t : List Char} {c : Char} (h : CharText t c) : 1 ≤ t.length := by
  cases h <;> simp

theorem decodeString_text {t cs : List Char} (h : StringText t cs) {n : ℕ} (hn : t.length ≤ n)
    (r : List Char) : decodeString n (t ++ r) = some (cs, r) := by
  induction h generalizing n with
  | nil =>
    obtain ⟨m, rfl⟩ := Nat.exists_eq_add_of_le' hn
    rw [List.singleton_append, List.length_singleton, decodeString, decodeChar_quote]
    simp
  | cons t u c cs hc _ ih =>
    have hpos := hc.length_pos
    rw [List.length_append] at hn
    obtain ⟨m, rfl⟩ := Nat.exists_eq_add_of_le' (show 1 ≤ n by omega)
    rw [List.append_assoc, decodeString, decodeChar_text hc]
    simp only [ih (n := m) (by omega), Option.map_some]

def isNumberChar (c : Char) : Bool :=
  c.isDigit || c == '-' || c == '+' || c == '.' || c == 'e' || c == 'E'

def isWhole (ds : List Char) : Bool := NumberText.allDigits ds && (ds.length == 1 || ds.head? != some '0')

def isExponent : List Char → Bool
  | [] => true
  | c :: '+' :: ds => (c == 'e' || c == 'E') && NumberText.allDigits ds
  | c :: '-' :: ds => (c == 'e' || c == 'E') && NumberText.allDigits ds
  | c :: ds => (c == 'e' || c == 'E') && NumberText.allDigits ds

def isTail : List Char → Bool
  | [] => false
  | '.' :: ds => NumberText.allDigits (ds.takeWhile Char.isDigit) && isExponent (ds.dropWhile Char.isDigit)
  | cs => isExponent cs

variable {φ : Type} (readFloat : String → Option φ)

/-- The value of a number literal; `readFloat` reads those with a fraction or an exponent. -/
def readNumber (t : List Char) : Option (Json φ) :=
  let body := (NumberText.splitSign t).2
  if !t.all isNumberChar || t.head? = some '+' then none
  else if isWhole body then (NumberText.readInt (String.ofList t)).map .int
  else if isWhole (body.takeWhile Char.isDigit) && isTail (body.dropWhile Char.isDigit) then
    (readFloat (String.ofList t)).map .float
  else none

def isSpace (c : Char) : Bool := c == ' ' || c == '\t' || c == '\n' || c == '\r'

def Spaces (w : List Char) : Prop := ∀ c ∈ w, isSpace c = true

mutual

/-- The texts that denote a value. -/
def ValueText : Json φ → List Char → Prop
  | .null, t => ∃ w, Spaces w ∧ t = w ++ ['n', 'u', 'l', 'l']
  | .bool true, t => ∃ w, Spaces w ∧ t = w ++ ['t', 'r', 'u', 'e']
  | .bool false, t => ∃ w, Spaces w ∧ t = w ++ ['f', 'a', 'l', 's', 'e']
  | .int n, t => ∃ w u, Spaces w ∧ t = w ++ u ∧ readNumber readFloat u = some (.int n)
  | .float x, t => ∃ w u, Spaces w ∧ t = w ++ u ∧ readNumber readFloat u = some (.float x)
  | .str s, t => ∃ w u, Spaces w ∧ t = w ++ '"' :: u ∧ StringText u s.toList
  | .arr xs, t => ∃ w u, Spaces w ∧ t = w ++ '[' :: u ∧ ItemsText true xs u
  | .obj ps, t => ∃ w u, Spaces w ∧ t = w ++ '\x7b' :: u ∧ (Dict.keys ps).Nodup ∧ MembersText true ps u

/-- The texts of the items after an opening bracket, or after an earlier item. -/
def ItemsText : Bool → List (Json φ) → List Char → Prop
  | _, [], t => ∃ w, Spaces w ∧ t = w ++ [']']
  | true, x :: xs, t => ∃ u v, t = u ++ v ∧ ValueText x u ∧ ItemsText false xs v
  | false, x :: xs, t => ∃ w u v, Spaces w ∧ t = w ++ ',' :: (u ++ v) ∧ ValueText x u ∧
      ItemsText false xs v

def MembersText : Bool → List (String × Json φ) → List Char → Prop
  | _, [], t => ∃ w, Spaces w ∧ t = w ++ ['\x7d']
  | true, (k, x) :: ps, t => ∃ w w' k' u v, Spaces w ∧ Spaces w' ∧ StringText k' k.toList ∧
      t = w ++ '"' :: (k' ++ w' ++ ':' :: (u ++ v)) ∧ ValueText x u ∧ MembersText false ps v
  | false, (k, x) :: ps, t => ∃ w₀ w w' k' u v, Spaces w₀ ∧ Spaces w ∧ Spaces w' ∧
      StringText k' k.toList ∧ t = w₀ ++ ',' :: (w ++ '"' :: (k' ++ w' ++ ':' :: (u ++ v))) ∧
      ValueText x u ∧ MembersText false ps v

end

def skipSpaces (cs : List Char) : List Char := cs.dropWhile isSpace

def decodeNumber (cs : List Char) : Option (Json φ × List Char) :=
  (readNumber readFloat (cs.takeWhile isNumberChar)).map fun v => (v, cs.dropWhile isNumberChar)

/-- A key and the colon after it. -/
def decodeKey (cs : List Char) : Option (String × List Char) :=
  match skipSpaces cs with
  | '"' :: r =>
    match decodeString r.length r with
    | some (k, r) =>
      match skipSpaces r with
      | ':' :: r => some (String.ofList k, r)
      | _ => none
    | none => none
  | _ => none

mutual

/-- Reads one value from the front of a text. -/
def decodeValue : ℕ → List Char → Option (Json φ × List Char)
  | 0, _ => none
  | n + 1, cs =>
    match skipSpaces cs with
    | '"' :: r => (decodeString r.length r).map fun p => (.str (String.ofList p.1), p.2)
    | '[' :: r => (decodeItems n true r).map fun p => (.arr p.1, p.2)
    | '\x7b' :: r => (decodeMembers n true r).map fun p => (.obj (Dict.ofPairs p.1), p.2)
    | 'n' :: 'u' :: 'l' :: 'l' :: r => some (.null, r)
    | 't' :: 'r' :: 'u' :: 'e' :: r => some (.bool true, r)
    | 'f' :: 'a' :: 'l' :: 's' :: 'e' :: r => some (.bool false, r)
    | r => decodeNumber readFloat r

/-- Reads items up to the closing bracket; `first` when no item came before. -/
def decodeItems : ℕ → Bool → List Char → Option (List (Json φ) × List Char)
  | 0, _, _ => none
  | n + 1, first, cs =>
    match skipSpaces cs with
    | c :: r =>
      if c = ']' then some ([], r)
      else if first = true ∨ c = ',' then
        match decodeValue n (if first then c :: r else r) with
        | some (x, r) => (decodeItems n false r).map fun p => (x :: p.1, p.2)
        | none => none
      else none
    | [] => none

/-- Reads members up to the closing brace. -/
def decodeMembers : ℕ → Bool → List Char → Option (List (String × Json φ) × List Char)
  | 0, _, _ => none
  | n + 1, first, cs =>
    match skipSpaces cs with
    | c :: r =>
      if c = '\x7d' then some ([], r)
      else if first = true ∨ c = ',' then
        match decodeKey (if first then c :: r else r) with
        | some (k, r) =>
          match decodeValue n r with
          | some (x, r) => (decodeMembers n false r).map fun p => ((k, x) :: p.1, p.2)
          | none => none
        | none => none
      else none
    | [] => none

end

/-- A decoder of JSON texts. -/
def decode (cs : List Char) : Option (Json φ) :=
  match decodeValue readFloat (cs.length + 1) cs with
  | some (v, r) => if skipSpaces r = [] then some v else none
  | none => none

theorem skipSpaces_append {w : List Char} (hw : Spaces w) {c : Char} (hc : isSpace c = false)
    (r : List Char) : skipSpaces (w ++ c :: r) = c :: r := by
  induction w with
  | nil => simp [skipSpaces, hc]
  | cons d w ih =>
    have hd : isSpace d = true := hw d List.mem_cons_self
    rw [List.cons_append, skipSpaces, List.dropWhile_cons_of_pos hd]
    exact ih fun e he => hw e (List.mem_cons_of_mem d he)

/-- No number goes on here. -/
def Ends (r : List Char) : Prop := ∀ c ∈ r.head?, isNumberChar c = false

theorem ends_cons {c : Char} (hc : isNumberChar c = false) (r : List Char) : Ends (c :: r) := by
  intro d hd
  cases hd
  exact hc

theorem isNumberChar_of_isSpace {c : Char} (h : isSpace c = true) : isNumberChar c = false := by
  simp only [isSpace, Bool.or_eq_true, beq_iff_eq] at h
  rcases h with ((rfl | rfl) | rfl) | rfl <;> decide

theorem ends_spaces {w : List Char} (hw : Spaces w) {c : Char} (hc : isNumberChar c = false)
    (r : List Char) : Ends (w ++ c :: r) := by
  cases w with
  | nil => exact ends_cons hc r
  | cons d w => exact ends_cons (isNumberChar_of_isSpace (hw d List.mem_cons_self)) _

variable {readFloat}

theorem readNumber_chars {t : List Char} {v : Json φ} (h : readNumber readFloat t = some v) :
    (∃ c cs, t = c :: cs) ∧ ∀ c ∈ t, isNumberChar c = true := by
  unfold readNumber at h
  dsimp only at h
  split_ifs at h with hbad hwhole
  all_goals
    simp only [Bool.or_eq_true, Bool.not_eq_true', decide_eq_true_eq, not_or, Bool.not_eq_false,
      List.all_eq_true] at hbad
    refine ⟨?_, hbad.1⟩
    cases t with
    | nil => simp_all [NumberText.splitSign, isWhole, NumberText.allDigits]
    | cons c cs => exact ⟨c, cs, rfl⟩

theorem decodeNumber_text {u : List Char} {v : Json φ} (h : readNumber readFloat u = some v)
    {r : List Char} (hr : Ends r) : decodeNumber readFloat (u ++ r) = some (v, r) := by
  have hall := (readNumber_chars h).2
  have htake : (u ++ r).takeWhile isNumberChar = u := by
    rw [List.takeWhile_append_of_pos hall]
    cases r with
    | nil => simp
    | cons d r => simp [hr d rfl]
  have hdrop : (u ++ r).dropWhile isNumberChar = r := by
    rw [List.dropWhile_append_of_pos hall]
    cases r with
    | nil => rfl
    | cons d r => simp [hr d rfl]
  rw [decodeNumber, htake, hdrop, h, Option.map_some]

theorem decodeValue_number {w u : List Char} {v : Json φ} (hw : Spaces w)
    (h : readNumber readFloat u = some v) {r : List Char} (hr : Ends r) (n : ℕ) :
    decodeValue readFloat (n + 1) (w ++ u ++ r) = some (v, r) := by
  obtain ⟨⟨c, cs, rfl⟩, hall⟩ := readNumber_chars h
  have hc : isNumberChar c = true := hall c List.mem_cons_self
  have hspace : isSpace c = false := by
    cases hs : isSpace c with
    | false => rfl
    | true =>
      rw [isNumberChar_of_isSpace hs] at hc
      cases hc
  have hskip : skipSpaces (w ++ (c :: cs) ++ r) = c :: cs ++ r := by
    rw [List.append_assoc]
    exact skipSpaces_append hw hspace (cs ++ r)
  rw [decodeValue, hskip]
  have hnumber := decodeNumber_text h hr
  rw [List.cons_append] at hnumber ⊢
  split
  all_goals
    first
      | exact hnumber
      | rename_i heq
        rw [(List.cons_eq_cons.mp heq).1] at hc
        exact absurd hc (by decide)

theorem ItemsText.ends {xs : List (Json φ)} {t : List Char} (h : ItemsText readFloat false xs t)
    (r : List Char) : Ends (t ++ r) := by
  cases xs with
  | nil =>
    rw [ItemsText] at h
    obtain ⟨w, hw, rfl⟩ := h
    rw [List.append_assoc]
    exact ends_spaces hw (by decide) _
  | cons x xs =>
    rw [ItemsText] at h
    obtain ⟨w, u, v, hw, rfl, _, _⟩ := h
    rw [List.append_assoc]
    exact ends_spaces hw (by decide) _

theorem MembersText.ends {ps : List (String × Json φ)} {t : List Char}
    (h : MembersText readFloat false ps t) (r : List Char) : Ends (t ++ r) := by
  cases ps with
  | nil =>
    rw [MembersText] at h
    obtain ⟨w, hw, rfl⟩ := h
    rw [List.append_assoc]
    exact ends_spaces hw (by decide) _
  | cons p ps =>
    rw [MembersText] at h
    obtain ⟨w₀, w, w', k', u, v, hw₀, _, _, _, rfl, _, _⟩ := h
    rw [List.append_assoc]
    exact ends_spaces hw₀ (by decide) _

theorem ItemsText.length_pos {xs : List (Json φ)} {t : List Char}
    (h : ItemsText readFloat false xs t) : 1 ≤ t.length := by
  cases xs with
  | nil =>
    rw [ItemsText] at h
    obtain ⟨w, _, rfl⟩ := h
    simp
  | cons x xs =>
    rw [ItemsText] at h
    obtain ⟨w, u, v, _, rfl, _⟩ := h
    simp only [List.length_append, List.length_cons]
    omega

theorem decodeKey_text {w w' t : List Char} {k : String} (hw : Spaces w) (hw' : Spaces w')
    (hk : StringText t k.toList) (r : List Char) :
    decodeKey (w ++ '"' :: (t ++ w' ++ ':' :: r)) = some (k, r) := by
  have hread : decodeString (t ++ w' ++ ':' :: r).length (t ++ w' ++ ':' :: r) =
      some (k.toList, w' ++ ':' :: r) := by
    rw [List.append_assoc]
    exact decodeString_text hk (by simp) _
  rw [decodeKey, skipSpaces_append hw (by decide)]
  simp only [hread, skipSpaces_append hw' (show isSpace ':' = false by decide), String.ofList_toList]

theorem ValueText.lead {v : Json φ} {t : List Char} (h : ValueText readFloat v t) :
    ∃ w c u, Spaces w ∧ t = w ++ c :: u ∧ isSpace c = false ∧ c ≠ ']' ∧ c ≠ '\x7d' := by
  have hnumber : ∀ (w u : List Char) (v : Json φ), Spaces w → readNumber readFloat u = some v →
      t = w ++ u → ∃ w c u, Spaces w ∧ t = w ++ c :: u ∧ isSpace c = false ∧ c ≠ ']' ∧ c ≠ '\x7d' := by
    intro w u v hw hu ht
    obtain ⟨⟨c, cs, rfl⟩, hall⟩ := readNumber_chars hu
    have hc := hall c List.mem_cons_self
    refine ⟨w, c, cs, hw, ht, ?_, ?_, ?_⟩
    · cases hs : isSpace c with
      | false => rfl
      | true =>
        rw [isNumberChar_of_isSpace hs] at hc
        cases hc
    · rintro rfl
      exact absurd hc (by decide)
    · rintro rfl
      exact absurd hc (by decide)
  cases v with
  | null =>
    rw [ValueText] at h
    obtain ⟨w, hw, rfl⟩ := h
    exact ⟨w, 'n', _, hw, rfl, by decide, by decide, by decide⟩
  | bool b =>
    cases b with
    | true =>
      rw [ValueText] at h
      obtain ⟨w, hw, rfl⟩ := h
      exact ⟨w, 't', _, hw, rfl, by decide, by decide, by decide⟩
    | false =>
      rw [ValueText] at h
      obtain ⟨w, hw, rfl⟩ := h
      exact ⟨w, 'f', _, hw, rfl, by decide, by decide, by decide⟩
  | int n =>
    rw [ValueText] at h
    obtain ⟨w, u, hw, ht, hu⟩ := h
    exact hnumber w u _ hw hu ht
  | float x =>
    rw [ValueText] at h
    obtain ⟨w, u, hw, ht, hu⟩ := h
    exact hnumber w u _ hw hu ht
  | str s =>
    rw [ValueText] at h
    obtain ⟨w, u, hw, rfl, _⟩ := h
    exact ⟨w, '"', u, hw, rfl, by decide, by decide, by decide⟩
  | arr xs =>
    rw [ValueText] at h
    obtain ⟨w, u, hw, rfl, _⟩ := h
    exact ⟨w, '[', u, hw, rfl, by decide, by decide, by decide⟩
  | obj ps =>
    rw [ValueText] at h
    obtain ⟨w, u, hw, rfl, _⟩ := h
    exact ⟨w, '\x7b', u, hw, rfl, by decide, by decide, by decide⟩

theorem decodeValue_skipSpaces (n : ℕ) (cs : List Char) :
    decodeValue readFloat n (skipSpaces cs) = decodeValue readFloat n cs := by
  cases n with
  | zero => rfl
  | succ n =>
    have hidem : skipSpaces (skipSpaces cs) = skipSpaces cs := List.dropWhile_idempotent isSpace cs
    rw [decodeValue, decodeValue, hidem]

mutual

theorem decodeValue_text : ∀ (v : Json φ) (t r : List Char) (n : ℕ), ValueText readFloat v t →
    t.length ≤ n → Ends r → decodeValue readFloat n (t ++ r) = some (v, r)
  | v, t, r, 0, h, hn, _ => by
    obtain ⟨w, c, u, _, rfl, _⟩ := h.lead
    simp at hn
  | .null, t, r, n + 1, h, _, _ => by
    rw [ValueText] at h
    obtain ⟨w, hw, rfl⟩ := h
    have hskip : skipSpaces (w ++ ['n', 'u', 'l', 'l'] ++ r) = 'n' :: 'u' :: 'l' :: 'l' :: r := by
      rw [List.append_assoc]
      exact skipSpaces_append hw (by decide) _
    rw [decodeValue, hskip]
    rfl
  | .bool true, t, r, n + 1, h, _, _ => by
    rw [ValueText] at h
    obtain ⟨w, hw, rfl⟩ := h
    have hskip : skipSpaces (w ++ ['t', 'r', 'u', 'e'] ++ r) = 't' :: 'r' :: 'u' :: 'e' :: r := by
      rw [List.append_assoc]
      exact skipSpaces_append hw (by decide) _
    rw [decodeValue, hskip]
    rfl
  | .bool false, t, r, n + 1, h, _, _ => by
    rw [ValueText] at h
    obtain ⟨w, hw, rfl⟩ := h
    have hskip : skipSpaces (w ++ ['f', 'a', 'l', 's', 'e'] ++ r) =
        'f' :: 'a' :: 'l' :: 's' :: 'e' :: r := by
      rw [List.append_assoc]
      exact skipSpaces_append hw (by decide) _
    rw [decodeValue, hskip]
    rfl
  | .int i, t, r, n + 1, h, _, hr => by
    rw [ValueText] at h
    obtain ⟨w, u, hw, rfl, hu⟩ := h
    exact decodeValue_number hw hu hr n
  | .float x, t, r, n + 1, h, _, hr => by
    rw [ValueText] at h
    obtain ⟨w, u, hw, rfl, hu⟩ := h
    exact decodeValue_number hw hu hr n
  | .str s, t, r, n + 1, h, _, _ => by
    rw [ValueText] at h
    obtain ⟨w, u, hw, rfl, hu⟩ := h
    have hskip : skipSpaces (w ++ '"' :: u ++ r) = '"' :: (u ++ r) := by
      rw [List.append_assoc]
      exact skipSpaces_append hw (by decide) _
    have hread : decodeString (u ++ r).length (u ++ r) = some (s.toList, r) :=
      decodeString_text hu (by simp) r
    rw [decodeValue, hskip]
    simp only [hread, Option.map_some, String.ofList_toList]
  | .arr xs, t, r, n + 1, h, hn, _ => by
    rw [ValueText] at h
    obtain ⟨w, u, hw, rfl, hu⟩ := h
    have hskip : skipSpaces (w ++ '[' :: u ++ r) = '[' :: (u ++ r) := by
      rw [List.append_assoc]
      exact skipSpaces_append hw (by decide) _
    have hlen : u.length ≤ n := by
      simp only [List.length_append, List.length_cons] at hn
      omega
    rw [decodeValue, hskip]
    simp only [decodeItems_text xs true u r n hu hlen, Option.map_some]
  | .obj ps, t, r, n + 1, h, hn, _ => by
    rw [ValueText] at h
    obtain ⟨w, u, hw, rfl, hnodup, hu⟩ := h
    have hskip : skipSpaces (w ++ '\x7b' :: u ++ r) = '\x7b' :: (u ++ r) := by
      rw [List.append_assoc]
      exact skipSpaces_append hw (by decide) _
    have hlen : u.length ≤ n := by
      simp only [List.length_append, List.length_cons] at hn
      omega
    rw [decodeValue, hskip]
    simp only [decodeMembers_text ps true u r n hu hlen, Option.map_some, Dict.ofPairs_eq_self hnodup]

theorem decodeItems_text : ∀ (xs : List (Json φ)) (first : Bool) (t r : List Char) (n : ℕ),
    ItemsText readFloat first xs t → t.length ≤ n →
      decodeItems readFloat n first (t ++ r) = some (xs, r)
  | [], first, t, r, 0, h, hn => by
    rw [ItemsText] at h
    obtain ⟨w, _, rfl⟩ := h
    simp at hn
  | [], first, t, r, n + 1, h, _ => by
    rw [ItemsText] at h
    obtain ⟨w, hw, rfl⟩ := h
    have hskip : skipSpaces (w ++ [']'] ++ r) = ']' :: r := by
      rw [List.append_assoc]
      exact skipSpaces_append hw (by decide) _
    rw [decodeItems, hskip]
    rfl
  | x :: xs, true, t, r, n, h, hn => by
    rw [ItemsText] at h
    obtain ⟨u, v, rfl, hu, hv⟩ := h
    obtain ⟨w, c, u', hw, rfl, hspace, hclose, _⟩ := hu.lead
    have hpos : 1 ≤ v.length := hv.length_pos
    simp only [List.length_append, List.length_cons] at hn
    obtain ⟨m, rfl⟩ := Nat.exists_eq_add_of_le' (show 1 ≤ n by omega)
    have hskip : skipSpaces (w ++ c :: u' ++ v ++ r) = c :: (u' ++ (v ++ r)) := by
      simpa [List.append_assoc] using skipSpaces_append hw hspace (u' ++ (v ++ r))
    have hvalue := decodeValue_text x (w ++ c :: u') (v ++ r) m hu
      (by simp only [List.length_append, List.length_cons]; omega) (hv.ends r)
    rw [← decodeValue_skipSpaces, ← List.append_assoc, hskip] at hvalue
    rw [decodeItems, hskip]
    simp only [if_neg hclose, true_or, if_true, hvalue, decodeItems_text xs false v r m hv (by omega), Option.map_some]
  | x :: xs, false, t, r, n, h, hn => by
    rw [ItemsText] at h
    obtain ⟨w, u, v, hw, rfl, hu, hv⟩ := h
    simp only [List.length_append, List.length_cons] at hn
    obtain ⟨m, rfl⟩ := Nat.exists_eq_add_of_le' (show 1 ≤ n by omega)
    have hskip : skipSpaces (w ++ ',' :: (u ++ v) ++ r) = ',' :: (u ++ (v ++ r)) := by
      simpa [List.append_assoc] using skipSpaces_append hw (show isSpace ',' = false by decide)
        (u ++ (v ++ r))
    have hvalue := decodeValue_text x u (v ++ r) m hu (by omega) (hv.ends r)
    rw [decodeItems, hskip]
    simp only [if_neg (show ',' ≠ ']' by decide), or_true, if_true, Bool.false_eq_true, if_false, hvalue,
      decodeItems_text xs false v r m hv (by omega), Option.map_some]

theorem decodeMembers_text : ∀ (ps : List (String × Json φ)) (first : Bool) (t r : List Char) (n : ℕ),
    MembersText readFloat first ps t → t.length ≤ n →
      decodeMembers readFloat n first (t ++ r) = some (ps, r)
  | [], first, t, r, 0, h, hn => by
    rw [MembersText] at h
    obtain ⟨w, _, rfl⟩ := h
    simp at hn
  | [], first, t, r, n + 1, h, _ => by
    rw [MembersText] at h
    obtain ⟨w, hw, rfl⟩ := h
    have hskip : skipSpaces (w ++ ['\x7d'] ++ r) = '\x7d' :: r := by
      rw [List.append_assoc]
      exact skipSpaces_append hw (by decide) _
    rw [decodeMembers, hskip]
    rfl
  | (k, x) :: ps, true, t, r, n, h, hn => by
    rw [MembersText] at h
    obtain ⟨w, w', k', u, v, hw, hw', hk, rfl, hu, hv⟩ := h
    simp only [List.length_append, List.length_cons] at hn
    obtain ⟨m, rfl⟩ := Nat.exists_eq_add_of_le' (show 1 ≤ n by omega)
    have hskip : skipSpaces (w ++ '"' :: (k' ++ w' ++ ':' :: (u ++ v)) ++ r) =
        '"' :: (k' ++ w' ++ ':' :: (u ++ (v ++ r))) := by
      simpa [List.append_assoc] using skipSpaces_append hw (show isSpace '"' = false by decide)
        (k' ++ w' ++ ':' :: (u ++ (v ++ r)))
    have hnone : Spaces [] := by simp [Spaces]
    have hkey : decodeKey ('"' :: (k' ++ w' ++ ':' :: (u ++ (v ++ r)))) = some (k, u ++ (v ++ r)) :=
      decodeKey_text hnone hw' hk _
    have hvalue := decodeValue_text x u (v ++ r) m hu (by omega) (hv.ends r)
    rw [decodeMembers, hskip]
    simp only [if_neg (show '"' ≠ '\x7d' by decide), true_or, if_true, hkey, hvalue, decodeMembers_text ps false v r m hv (by omega),
      Option.map_some]
  | (k, x) :: ps, false, t, r, n, h, hn => by
    rw [MembersText] at h
    obtain ⟨w₀, w, w', k', u, v, hw₀, hw, hw', hk, rfl, hu, hv⟩ := h
    simp only [List.length_append, List.length_cons] at hn
    obtain ⟨m, rfl⟩ := Nat.exists_eq_add_of_le' (show 1 ≤ n by omega)
    have hskip : skipSpaces (w₀ ++ ',' :: (w ++ '"' :: (k' ++ w' ++ ':' :: (u ++ v))) ++ r) =
        ',' :: (w ++ '"' :: (k' ++ w' ++ ':' :: (u ++ (v ++ r)))) := by
      simpa [List.append_assoc] using skipSpaces_append hw₀ (show isSpace ',' = false by decide)
        (w ++ '"' :: (k' ++ w' ++ ':' :: (u ++ (v ++ r))))
    have hkey := decodeKey_text hw hw' hk (u ++ (v ++ r))
    have hvalue := decodeValue_text x u (v ++ r) m hu (by omega) (hv.ends r)
    rw [decodeMembers, hskip]
    simp only [if_neg (show ',' ≠ '\x7d' by decide), or_true, if_true, Bool.false_eq_true, if_false, hkey,
      hvalue,
      decodeMembers_text ps false v r m hv (by omega), Option.map_some]

end

/-- A text of a value is decoded to it. -/
theorem decode_text {v : Json φ} {t : List Char} (h : ValueText readFloat v t) :
    decode readFloat t = some v := by
  have hread := decodeValue_text v t [] (t.length + 1) h (by omega) (by simp [Ends])
  rw [List.append_nil] at hread
  rw [decode, hread]
  rfl

def compactChar (c : Char) : List Char :=
  match shortEscapes.lookup c with
  | some e => ['\\', e]
  | none => if c.toNat < 32 then unitEscape c.toNat else [c]

theorem charText_compactChar (c : Char) : CharText (compactChar c) c := by
  unfold compactChar
  cases hshort : shortEscapes.lookup c with
  | some e => exact .short c e (Dict.mem_of_lookup hshort)
  | none =>
    have hnot := Dict.lookup_eq_none_iff.mp hshort
    simp only [Dict.keys, shortEscapes, List.map_cons, List.map_nil, List.mem_cons,
      List.not_mem_nil, or_false, not_or] at hnot
    dsimp only
    split_ifs with hctrl
    · have hread := readUnit_unitEscape (n := c.toNat) (by omega) []
      have hunit := CharText.unit _ _ _ _ c.toNat hread (Or.inl (by omega))
      rwa [Char.ofNat_toNat] at hunit
    · exact .plain c (by omega) hnot.1 hnot.2.1

def compactString (s : String) : List Char := s.toList.flatMap compactChar ++ ['"']

theorem stringText_compactString (s : String) : StringText (compactString s) s.toList := by
  unfold compactString
  induction s.toList with
  | nil => exact .nil
  | cons c cs ih =>
    rw [List.flatMap_cons, List.append_assoc]
    exact .cons _ _ c cs (charText_compactChar c) ih

variable (readFloat) (floatText : φ → List Char)

mutual

/-- The text of a value without spaces, its keys in the order they have. -/
def compact : Json φ → List Char
  | .null => ['n', 'u', 'l', 'l']
  | .bool true => ['t', 'r', 'u', 'e']
  | .bool false => ['f', 'a', 'l', 's', 'e']
  | .int n => (NumberText.intText n).toList
  | .float x => floatText x
  | .str s => '"' :: compactString s
  | .arr xs => '[' :: compactItems true xs
  | .obj ps => '\x7b' :: compactMembers true ps

def compactItems : Bool → List (Json φ) → List Char
  | _, [] => [']']
  | true, x :: xs => compact x ++ compactItems false xs
  | false, x :: xs => ',' :: (compact x ++ compactItems false xs)

def compactMembers : Bool → List (String × Json φ) → List Char
  | _, [] => ['\x7d']
  | true, (k, x) :: ps => '"' :: (compactString k ++ ':' :: (compact x ++ compactMembers false ps))
  | false, (k, x) :: ps =>
    ',' :: '"' :: (compactString k ++ ':' :: (compact x ++ compactMembers false ps))

end

mutual

/-- Numbers are read back from their texts, and keys are distinct. -/
def Writable : Json φ → Prop
  | .int n => readNumber readFloat (NumberText.intText n).toList = some (.int n)
  | .float x => readNumber readFloat (floatText x) = some (.float x)
  | .arr xs => WritableItems xs
  | .obj ps => (Dict.keys ps).Nodup ∧ WritableMembers ps
  | _ => True

def WritableItems : List (Json φ) → Prop
  | [] => True
  | x :: xs => Writable x ∧ WritableItems xs

def WritableMembers : List (String × Json φ) → Prop
  | [] => True
  | (_, x) :: ps => Writable x ∧ WritableMembers ps

end

variable {readFloat floatText}

theorem spaces_nil : Spaces [] := by simp [Spaces]

mutual

theorem compact_text : ∀ v : Json φ, Writable readFloat floatText v →
    ValueText readFloat v (compact floatText v)
  | .null, _ => by
    rw [ValueText, compact]
    exact ⟨[], spaces_nil, rfl⟩
  | .bool true, _ => by
    rw [ValueText, compact]
    exact ⟨[], spaces_nil, rfl⟩
  | .bool false, _ => by
    rw [ValueText, compact]
    exact ⟨[], spaces_nil, rfl⟩
  | .int n, h => by
    rw [Writable] at h
    rw [ValueText, compact]
    exact ⟨[], _, spaces_nil, rfl, h⟩
  | .float x, h => by
    rw [Writable] at h
    rw [ValueText, compact]
    exact ⟨[], _, spaces_nil, rfl, h⟩
  | .str s, _ => by
    rw [ValueText, compact]
    exact ⟨[], _, spaces_nil, rfl, stringText_compactString s⟩
  | .arr xs, h => by
    rw [Writable] at h
    rw [ValueText, compact]
    exact ⟨[], _, spaces_nil, rfl, compactItems_text true xs h⟩
  | .obj ps, h => by
    rw [Writable] at h
    rw [ValueText, compact]
    exact ⟨[], _, spaces_nil, rfl, h.1, compactMembers_text true ps h.2⟩

theorem compactItems_text : ∀ (first : Bool) (xs : List (Json φ)), WritableItems readFloat floatText xs →
    ItemsText readFloat first xs (compactItems floatText first xs)
  | first, [], _ => by
    rw [ItemsText, compactItems]
    exact ⟨[], spaces_nil, rfl⟩
  | true, x :: xs, h => by
    rw [WritableItems] at h
    rw [ItemsText, compactItems]
    exact ⟨_, _, rfl, compact_text x h.1, compactItems_text false xs h.2⟩
  | false, x :: xs, h => by
    rw [WritableItems] at h
    rw [ItemsText, compactItems]
    exact ⟨[], _, _, spaces_nil, rfl, compact_text x h.1, compactItems_text false xs h.2⟩

theorem compactMembers_text : ∀ (first : Bool) (ps : List (String × Json φ)),
    WritableMembers readFloat floatText ps →
      MembersText readFloat first ps (compactMembers floatText first ps)
  | first, [], _ => by
    rw [MembersText, compactMembers]
    exact ⟨[], spaces_nil, rfl⟩
  | true, (k, x) :: ps, h => by
    rw [WritableMembers] at h
    rw [MembersText, compactMembers]
    exact ⟨[], [], _, _, _, spaces_nil, spaces_nil, stringText_compactString k, by simp,
      compact_text x h.1, compactMembers_text false ps h.2⟩
  | false, (k, x) :: ps, h => by
    rw [WritableMembers] at h
    rw [MembersText, compactMembers]
    exact ⟨[], [], [], _, _, _, spaces_nil, spaces_nil, spaces_nil, stringText_compactString k, by simp,
      compact_text x h.1, compactMembers_text false ps h.2⟩

end

theorem digitChar_ge {d : ℕ} (h : d < 16) : 32 ≤ (Nat.digitChar d).toNat := by
  interval_cases d <;> decide

theorem compactChar_ge {c d : Char} (h : d ∈ compactChar c) : 32 ≤ d.toNat := by
  unfold compactChar at h
  cases hshort : shortEscapes.lookup c with
  | some e =>
    have hmem := Dict.mem_of_lookup hshort
    simp only [hshort, List.mem_cons, List.not_mem_nil, or_false] at h
    simp only [shortEscapes, List.mem_cons, Prod.mk.injEq, List.not_mem_nil, or_false] at hmem
    rcases h with rfl | rfl
    · decide
    · rcases hmem with ⟨_, rfl⟩ | ⟨_, rfl⟩ | ⟨_, rfl⟩ | ⟨_, rfl⟩ | ⟨_, rfl⟩ | ⟨_, rfl⟩ | ⟨_, rfl⟩ <;> decide
  | none =>
    simp only [hshort] at h
    split_ifs at h with hctrl
    · simp only [unitEscape, List.mem_cons, List.not_mem_nil, or_false] at h
      rcases h with rfl | rfl | rfl | rfl | rfl | rfl
      · decide
      · decide
      all_goals exact digitChar_ge (Nat.mod_lt _ (by norm_num))
    · rw [List.mem_singleton.mp h]
      omega

theorem compactString_ge {s : String} {d : Char} (h : d ∈ compactString s) : 32 ≤ d.toNat := by
  rcases List.mem_append.mp h with h | h
  · obtain ⟨c, _, hd⟩ := List.mem_flatMap.mp h
    exact compactChar_ge hd
  · rw [List.mem_singleton.mp h]
    decide

theorem intText_ge (n : ℤ) : ∀ d ∈ (NumberText.intText n).toList, 32 ≤ d.toNat := by
  intro d hd
  rw [toList_intText, List.mem_append] at hd
  rcases hd with hd | hd
  · split_ifs at hd
    · rw [List.mem_singleton.mp hd]
      decide
    · cases hd
  · have hdigit := Nat.isDigit_of_mem_toDigits (by norm_num) (by norm_num) hd
    have hrange : 48 ≤ d.toNat ∧ d.toNat ≤ 57 := by
      simpa [Char.isDigit, UInt32.le_iff_toNat_le] using hdigit
    omega

mutual

theorem compact_ge (hfloat : ∀ x, ∀ d ∈ floatText x, 32 ≤ d.toNat) :
    ∀ v : Json φ, ∀ d ∈ compact floatText v, 32 ≤ d.toNat
  | .null => by simp [compact]
  | .bool true => by simp [compact]
  | .bool false => by simp [compact]
  | .int n => by
    rw [compact]
    exact intText_ge n
  | .float x => by
    rw [compact]
    exact hfloat x
  | .str s => by
    rw [compact]
    exact List.forall_mem_cons.mpr ⟨by decide, fun d hd => compactString_ge hd⟩
  | .arr xs => by
    rw [compact]
    exact List.forall_mem_cons.mpr ⟨by decide, compactItems_ge hfloat true xs⟩
  | .obj ps => by
    rw [compact]
    exact List.forall_mem_cons.mpr ⟨by decide, compactMembers_ge hfloat true ps⟩

theorem compactItems_ge (hfloat : ∀ x, ∀ d ∈ floatText x, 32 ≤ d.toNat) :
    ∀ (first : Bool) (xs : List (Json φ)), ∀ d ∈ compactItems floatText first xs, 32 ≤ d.toNat
  | _, [] => by simp [compactItems]
  | true, x :: xs => by
    rw [compactItems]
    exact List.forall_mem_append.mpr ⟨compact_ge hfloat x, compactItems_ge hfloat false xs⟩
  | false, x :: xs => by
    rw [compactItems]
    exact List.forall_mem_cons.mpr ⟨by decide,
      List.forall_mem_append.mpr ⟨compact_ge hfloat x, compactItems_ge hfloat false xs⟩⟩

theorem compactMembers_ge (hfloat : ∀ x, ∀ d ∈ floatText x, 32 ≤ d.toNat) :
    ∀ (first : Bool) (ps : List (String × Json φ)), ∀ d ∈ compactMembers floatText first ps, 32 ≤ d.toNat
  | _, [] => by simp [compactMembers]
  | true, (k, x) :: ps => by
    rw [compactMembers]
    exact List.forall_mem_cons.mpr ⟨by decide, List.forall_mem_append.mpr ⟨fun d hd => compactString_ge hd,
      List.forall_mem_cons.mpr ⟨by decide,
        List.forall_mem_append.mpr ⟨compact_ge hfloat x, compactMembers_ge hfloat false ps⟩⟩⟩⟩
  | false, (k, x) :: ps => by
    rw [compactMembers]
    exact List.forall_mem_cons.mpr ⟨by decide, List.forall_mem_cons.mpr ⟨by decide,
      List.forall_mem_append.mpr ⟨fun d hd => compactString_ge hd, List.forall_mem_cons.mpr ⟨by decide,
        List.forall_mem_append.mpr ⟨compact_ge hfloat x, compactMembers_ge hfloat false ps⟩⟩⟩⟩⟩

end

theorem lineFeed_notMem_utf8EncodeChar {c : Char} (hc : c ≠ '\n') : (10 : UInt8) ∉ String.utf8EncodeChar c := by
  have hne : c.toNat ≠ 10 := fun h => hc (Char.ext (UInt32.toNat_inj.mp h))
  have hval : c.val.toNat = c.toNat := rfl
  intro hmem
  simp only [String.utf8EncodeChar, hval] at hmem
  split_ifs at hmem <;> simp [← UInt8.toNat_inj] at hmem <;> omega

theorem lineFeed_notMem_utf8 {cs : List Char} (h : '\n' ∉ cs) : (10 : UInt8) ∉ utf8 cs := by
  intro hmem
  obtain ⟨c, hc, hbyte⟩ := List.mem_flatMap.mp hmem
  exact lineFeed_notMem_utf8EncodeChar (fun heq => h (heq ▸ hc)) hbyte

theorem lineFeed_notMem_compact (hfloat : ∀ x, ∀ d ∈ floatText x, 32 ≤ d.toNat) (v : Json φ) :
    '\n' ∉ compact floatText v := fun hmem => absurd (compact_ge hfloat v _ hmem) (by decide)

end Json
end AtlasConnectors
