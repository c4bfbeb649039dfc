import AtlasConnectors.FloatFormat

/-! Decimal text in Python's conventions: zero-padded and two-place output, and the
grammars read by `int`, `float` and `decimal.Decimal`. -/
namespace AtlasConnectors
namespace NumberText

/-- `f"{n:0wd}"` for a natural number. -/
def zfill (w n : ℕ) : String :=
  String.ofList (List.replicate (w - (Nat.toDigits 10 n).length) '0' ++ Nat.toDigits 10 n)

theorem toList_zfill (w n : ℕ) : (zfill w n).toList =
    List.replicate (w - (Nat.toDigits 10 n).length) '0' ++ Nat.toDigits 10 n := by
  simp [zfill]

theorem ofDigitChars_zfill (w n : ℕ) : Nat.ofDigitChars 10 (zfill w n).toList 0 = n := by
  simp [toList_zfill, Nat.ofDigitChars_append]

theorem zfill_injective (w : ℕ) : Function.Injective (zfill w) := by
  intro m n h
  rw [← ofDigitChars_zfill w m, ← ofDigitChars_zfill w n, h]

theorem isDigit_of_mem_zfill {w n : ℕ} {c : Char} (hc : c ∈ (zfill w n).toList) : c.isDigit := by
  rw [toList_zfill, List.mem_append] at hc
  rcases hc with hz | hd
  · rw [List.eq_of_mem_replicate hz]
    decide
  · exact Nat.isDigit_of_mem_toDigits (by norm_num) (by norm_num) hd

theorem length_zfill {w n : ℕ} (hw : 0 < w) (hn : n < 10 ^ w) : (zfill w n).toList.length = w := by
  have hle := (Nat.length_toDigits_le_iff (b := 10) (by norm_num) hw).mpr hn
  rw [toList_zfill, List.length_append, List.length_replicate]
  omega

theorem natText_injective : Function.Injective (fun n : ℕ => toString n) := by
  intro m n h
  have hl : Nat.toDigits 10 m = Nat.toDigits 10 n := by
    simpa [← String.toList_inj] using h
  rw [← Nat.ofDigitChars_ten_toDigits (n := m), ← Nat.ofDigitChars_ten_toDigits (n := n), hl]

/-- `str(n)` of an integer. -/
def intText (n : ℤ) : String :=
  (if n < 0 then "-" else "") ++ toString n.natAbs

def centsText (c : ℕ) : String := toString (c / 100) ++ "." ++ zfill 2 (c % 100)

/-- `f"{x:.2f}"`: the exact value rounded half-even to two places. -/
def fixed2 : PyFloat → String
  | .nan => "nan"
  | .inf false => "inf"
  | .inf true => "-inf"
  | .negZero => "-0.00"
  | .num q => (if q < 0 then "-" else "") ++ centsText (roundHalfEven (|q| * 100)).natAbs

/-- Code points of `str.isspace`. -/
def spaceCodes : List ℕ :=
  [0x9, 0xa, 0xb, 0xc, 0xd, 0x1c, 0x1d, 0x1e, 0x1f, 0x20, 0x85, 0xa0, 0x1680, 0x2000, 0x2001,
    0x2002, 0x2003, 0x2004, 0x2005, 0x2006, 0x2007, 0x2008, 0x2009, 0x200a, 0x2028, 0x2029,
    0x202f, 0x205f, 0x3000]

/-- Code points of the zeros of the decimal digits (Unicode category Nd). -/
def zeroCodes : List ℕ :=
  [0x30, 0x660, 0x6f0, 0x7c0, 0x966, 0x9e6, 0xa66, 0xae6, 0xb66, 0xbe6, 0xc66, 0xce6, 0xd66,
    0xde6, 0xe50, 0xed0, 0xf20, 0x1040, 0x1090, 0x17e0, 0x1810, 0x1946, 0x19d0, 0x1a80, 0x1a90,
    0x1b50, 0x1bb0, 0x1c40, 0x1c50, 0xa620, 0xa8d0, 0xa900, 0xa9d0, 0xa9f0, 0xaa50, 0xabf0,
    0xff10, 0x104a0, 0x10d30, 0x11066, 0x110f0, 0x11136, 0x111d0, 0x112f0, 0x11450, 0x114d0,
    0x11650, 0x116c0, 0x11730, 0x118e0, 0x11950, 0x11c50, 0x11d50, 0x11da0, 0x16a60, 0x16ac0,
    0x16b50, 0x1d7ce, 0x1d7d8, 0x1d7e2, 0x1d7ec, 0x1d7f6, 0x1e140, 0x1e2f0, 0x1e950, 0x1fbf0]

def isSpace (c : Char) : Bool := spaceCodes.contains c.toNat

/-- Whitespace for `int` and `float`, which do not take the separators of ASCII for it. -/
def isIntSpace (c : Char) : Bool := isSpace c && !(28 ≤ c.toNat && c.toNat ≤ 31)

def digitVal? (c : Char) : Option ℕ :=
  zeroCodes.findSome? fun z => if z ≤ c.toNat ∧ c.toNat < z + 10 then some (c.toNat - z) else none

def asciiDigit (c : Char) : Char :=
  match digitVal? c with
  | some d => Nat.digitChar d
  | none => c

/-- `text.strip(chars)`. -/
def stripOf (chars : Char → Bool) (cs : List Char) : List Char :=
  ((cs.dropWhile chars).reverse.dropWhile chars).reverse

def strip (cs : List Char) : List Char := stripOf isSpace cs

/-- What a reader of numbers sees: the whitespace around gone, digits in ASCII. -/
def numeral (space : Char → Bool) (s : String) : List Char := (stripOf space s.toList).map asciiDigit

def splitSign : List Char → Bool × List Char
  | '-' :: cs => (true, cs)
  | '+' :: cs => (false, cs)
  | cs => (false, cs)

def allDigits (cs : List Char) : Bool := !cs.isEmpty && cs.all Char.isDigit

/-- Remove underscores, each of which must stand between two digits. -/
def dropUnderscores (afterDigit : Bool) : List Char → Option (List Char)
  | [] => some []
  | '_' :: cs =>
    match cs with
    | c :: _ => if afterDigit && c.isDigit then dropUnderscores false cs else none
    | [] => none
  | c :: cs => (dropUnderscores c.isDigit cs).map (c :: ·)

/-- `int(s)`, `none` for a ValueError; texts of more than 4300 digits are refused. -/
def readInt (s : String) : Option ℤ :=
  let signed := splitSign (numeral isIntSpace s)
  match dropUnderscores false signed.2 with
  | some ds =>
    if allDigits ds && decide (ds.length ≤ 4300) then
      some (if signed.1 then -(Nat.ofDigitChars 10 ds 0 : ℤ) else (Nat.ofDigitChars 10 ds 0 : ℤ))
    else none
  | none => none

/-- Coefficient and exponent of `digits [. digits] [e [sign] digits]`. -/
def unsignedDecimal (cs : List Char) : Option (ℕ × ℤ) :=
  let whole := cs.takeWhile Char.isDigit
  let afterWhole := cs.dropWhile Char.isDigit
  let frac := match afterWhole with
    | '.' :: r => r.takeWhile Char.isDigit
    | _ => []
  let rest := match afterWhole with
    | '.' :: r => r.dropWhile Char.isDigit
    | r => r
  if whole.isEmpty && frac.isEmpty then none
  else
    let coefficient := Nat.ofDigitChars 10 (whole ++ frac) 0
    match rest with
    | [] => some (coefficient, -(frac.length : ℤ))
    | e :: r =>
      let signed := splitSign r
      if (e == 'e' || e == 'E') && allDigits signed.2 then
        let magnitude : ℤ := Nat.ofDigitChars 10 signed.2 0
        some (coefficient, (if signed.1 then -magnitude else magnitude) - frac.length)
      else none

def isInfinityWord (low : List Char) : Bool :=
  low == ['i', 'n', 'f'] || low == ['i', 'n', 'f', 'i', 'n', 'i', 't', 'y']

/-- `float(s)`, `none` for a ValueError. -/
def readFloat (fmt : FloatFormat) (s : String) : Option PyFloat :=
  match dropUnderscores false (numeral isIntSpace s) with
  | none => none
  | some body =>
    let signed := splitSign body
    let low := signed.2.map Char.toLower
    if isInfinityWord low then some (.inf signed.1)
    else if low == ['n', 'a', 'n'] then some .nan
    else
      (unsignedDecimal signed.2).map fun d =>
        let magnitude : ℚ := d.1 * 10 ^ d.2
        PyFloat.ofSigned fmt signed.1 (if signed.1 then -magnitude else magnitude)

theorem readFloat_cases {fmt : FloatFormat} {s : String} {x : PyFloat} (h : readFloat fmt s = some x) :
    x = .nan ∨ (∃ neg, x = .inf neg) ∨ ∃ sign q, x = .ofSigned fmt sign q := by
  unfold readFloat at h
  split at h
  · cases h
  · dsimp only at h
    split_ifs at h
    · cases h
      exact Or.inr (Or.inl ⟨_, rfl⟩)
    · cases h
      exact Or.inl rfl
    all_goals
      obtain ⟨d, _, rfl⟩ := Option.map_eq_some_iff.mp h
      exact Or.inr (Or.inr ⟨_, _, rfl⟩)

theorem readFloat_representable {fmt : FloatFormat} {s : String} {x : PyFloat}
    (h : readFloat fmt s = some x) : x.Representable fmt := by
  rcases readFloat_cases h with rfl | ⟨neg, rfl⟩ | ⟨sign, q, rfl⟩
  · simp [PyFloat.Representable]
  · simp [PyFloat.Representable]
  · exact PyFloat.ofSigned_representable sign q

inductive DecimalKind
  | finite | infinite | nan
  deriving DecidableEq, Repr

/-- `nan` and `snan`, each with an optional diagnostic number. -/
def isNanWord : List Char → Bool
  | 's' :: 'n' :: 'a' :: 'n' :: ds => ds.all Char.isDigit
  | 'n' :: 'a' :: 'n' :: ds => ds.all Char.isDigit
  | _ => false

def MAX_EMAX : ℤ := 999999999999999999

def MIN_ETINY : ℤ := -1999999999999999997

/-- The exponents that a decimal can have: of its first digit at most `MAX_EMAX`, of its last at
least `MIN_ETINY`. -/
def withinLimits (d : ℕ × ℤ) : Bool :=
  decide (d.2 + (Nat.toDigits 10 d.1).length - 1 ≤ MAX_EMAX) && decide (MIN_ETINY ≤ d.2)

/-- Coefficient and exponent of an unsigned decimal. -/
def decimalParts (body : List Char) : Option (ℕ × ℤ) :=
  -- without a written exponent it takes 10^18 characters to leave the limits
  (unsignedDecimal body).filter fun d => !body.any (fun c => c == 'e' || c == 'E') || withinLimits d

/-- What `Decimal(s)` denotes, `none` for an InvalidOperation. Underscores are ignored
and the special values are read in any case. -/
def decimalKind (s : String) : Option DecimalKind :=
  let body := (splitSign ((numeral isSpace s).filter (· ≠ '_'))).2
  let low := body.map Char.toLower
  if isInfinityWord low then some .infinite
  else if isNanWord low then some .nan
  else if (decimalParts body).isSome then some .finite
  else none

/-- The number that `Decimal(s)` denotes, when it is finite. -/
def decimalValue (s : String) : Option ℚ :=
  let signed := splitSign ((numeral isSpace s).filter (· ≠ '_'))
  (decimalParts signed.2).map fun d =>
    let magnitude : ℚ := d.1 * 10 ^ d.2
    if signed.1 then -magnitude else magnitude

example : readInt " -1_000 " = some (-1000) ∧ readInt "\u001c7" = none := by decide
example : decimalKind "-sNaN7" = some .nan ∧ decimalKind "+1.e-3" = some .finite ∧
    decimalKind "1e1000000000000000000" = none := by decide +kernel

theorem eq_digitChar_of_isDigit {c : Char} (hc : c.isDigit) : ∃ d < 10, c = Nat.digitChar d := by
  simp only [Char.isDigit, Bool.and_eq_true, decide_eq_true_eq] at hc
  have hlo : 48 ≤ c.toNat := hc.1
  have hhi : c.toNat ≤ 57 := hc.2
  refine ⟨c.toNat - 48, by omega, Char.toNat_inj.mp ?_⟩
  rw [Nat.toNat_digitChar_of_lt_ten (by omega)]
  omega

def Plain (c : Char) : Prop := c.isDigit ∨ c = '.' ∨ c = '-'

theorem Plain.inert {c : Char} (hc : Plain c) : isSpace c = false ∧ asciiDigit c = c ∧
    c ∉ ['_', 'e', 'E'] := by
  rcases hc with hd | rfl | rfl
  · obtain ⟨d, hlt, rfl⟩ := eq_digitChar_of_isDigit hd
    interval_cases d <;> decide
  · decide
  · decide

theorem Plain.ne {c d : Char} (hc : Plain c) (hd : d ∈ ['_', 'e', 'E']) : c ≠ d := by
  rintro rfl
  exact hc.inert.2.2 hd

theorem Plain.not_intSpace {c : Char} (hc : Plain c) : isIntSpace c = false := by
  rw [isIntSpace, hc.inert.1, Bool.false_and]

theorem stripOf_append {chars : Char → Bool} {pre body post : List Char} (hpre : ∀ c ∈ pre, chars c = true)
    (hbody : ∀ c ∈ body, chars c = false) (hpost : ∀ c ∈ post, chars c = true) :
    stripOf chars (pre ++ (body ++ post)) = body := by
  have hkeep : ∀ ds : List Char, (∀ c ∈ ds, chars c = false) → ds.dropWhile chars = ds := by
    intro ds hds
    cases ds with
    | nil => rfl
    | cons d ds => simp [hds d (by simp)]
  unfold stripOf
  rw [List.dropWhile_append_of_pos hpre]
  cases body with
  | nil => simp [List.dropWhile_eq_nil_iff.mpr hpost]
  | cons c body =>
    have hc := hbody c List.mem_cons_self
    rw [List.cons_append, List.dropWhile_cons_of_neg (by simp [hc]), ← List.cons_append, List.reverse_append,
      List.dropWhile_append_of_pos (by simpa using hpost),
      hkeep _ fun d hd => hbody d (List.mem_reverse.mp hd), List.reverse_reverse]

theorem stripOf_self {chars : Char → Bool} {cs : List Char} (h : ∀ c ∈ cs, chars c = false) :
    stripOf chars cs = cs := by
  have hstrip : stripOf chars ([] ++ (cs ++ [])) = cs := stripOf_append (by simp) h (by simp)
  simpa using hstrip

theorem numeral_eq_toList {space : Char → Bool} (hspace : ∀ c, Plain c → space c = false) {s : String}
    (h : ∀ c ∈ s.toList, Plain c) : numeral space s = s.toList := by
  unfold numeral
  rw [stripOf_self fun c hc => hspace c (h c hc)]
  exact (List.map_congr_left fun c hc => (h c hc).inert.2.1).trans (List.map_id _)

theorem filter_underscore_eq_self {cs : List Char} (h : ∀ c ∈ cs, Plain c) :
    cs.filter (· ≠ '_') = cs :=
  List.filter_eq_self.mpr fun c hc => by simpa using (h c hc).ne (d := '_') (by simp)

theorem takeWhile_isDigit_append {ds r : List Char} (hd : ∀ c ∈ ds, c.isDigit = true)
    (hr : ∀ c ∈ r.head?, c.isDigit = false) : (ds ++ r).takeWhile Char.isDigit = ds := by
  induction ds with
  | nil =>
    cases r with
    | nil => rfl
    | cons c r => simp [hr c (by simp)]
  | cons d ds ih => simp [hd d (by simp), ih fun c hc => hd c (by simp [hc])]

theorem dropWhile_isDigit_append {ds r : List Char} (hd : ∀ c ∈ ds, c.isDigit = true)
    (hr : ∀ c ∈ r.head?, c.isDigit = false) : (ds ++ r).dropWhile Char.isDigit = r := by
  induction ds with
  | nil =>
    cases r with
    | nil => rfl
    | cons c r => simp [hr c (by simp)]
  | cons d ds ih => simp [hd d (by simp), ih fun c hc => hd c (by simp [hc])]

theorem zfill_ne_cons {c : Char} (hc : c.isDigit = false) (w n : ℕ) (cs : List Char) :
    (zfill w n).toList ≠ c :: cs := by
  intro h
  have hdigit : c.isDigit = true := isDigit_of_mem_zfill (w := w) (n := n) (by simp [h])
  rw [hc] at hdigit
  cases hdigit

theorem zfill_dash_inj {w m n : ℕ} {r s : List Char}
    (h : (zfill w m).toList ++ '-' :: r = (zfill w n).toList ++ '-' :: s) : m = n ∧ r = s := by
  have hdash : ∀ (k : ℕ) (t : List Char),
      ((zfill w k).toList ++ '-' :: t).takeWhile Char.isDigit = (zfill w k).toList := by
    intro k t
    apply takeWhile_isDigit_append
    · exact fun c hc => isDigit_of_mem_zfill hc
    · simp
  have hnumber : (zfill w m).toList = (zfill w n).toList := by
    rw [← hdash m r, h, hdash n s]
  rw [hnumber, List.append_cancel_left_eq, List.cons_eq_cons] at h
  exact ⟨zfill_injective w (String.toList_inj.mp hnumber), h.2⟩

theorem unsignedDecimal_amount {whole frac : List Char} (hw : ∀ c ∈ whole, c.isDigit = true)
    (hne : whole ≠ []) (hf : ∀ c ∈ frac, c.isDigit = true) : unsignedDecimal (whole ++ '.' :: frac) =
      some (Nat.ofDigitChars 10 (whole ++ frac) 0, -(frac.length : ℤ)) := by
  have hdot : ∀ c ∈ ('.' :: frac).head?, c.isDigit = false := by
    intro c hc
    cases hc
    decide
  have htake : frac.takeWhile Char.isDigit = frac := by
    simpa using takeWhile_isDigit_append (r := []) hf (by simp)
  have hdrop : frac.dropWhile Char.isDigit = [] := by
    simpa using dropWhile_isDigit_append (r := []) hf (by simp)
  simp [unsignedDecimal, takeWhile_isDigit_append hw hdot, dropWhile_isDigit_append hw hdot, htake,
    hdrop, hne]

theorem special_word_false {d : Char} (hd : d.isDigit = true) (cs : List Char) :
    isInfinityWord ((d :: cs).map Char.toLower) = false ∧
      isNanWord ((d :: cs).map Char.toLower) = false := by
  obtain ⟨k, hlt, rfl⟩ := eq_digitChar_of_isDigit hd
  interval_cases k <;> exact ⟨rfl, rfl⟩

theorem toList_centsText (c : ℕ) : ∃ d ds frac, (centsText c).toList = d :: ds ++ '.' :: frac ∧
    (∀ x ∈ d :: ds, x.isDigit = true) ∧ (∀ x ∈ frac, x.isDigit = true) ∧
    Nat.ofDigitChars 10 (d :: ds ++ frac) 0 = c ∧ frac.length = 2 := by
  obtain ⟨d, ds, hds⟩ : ∃ d ds, Nat.toDigits 10 (c / 100) = d :: ds :=
    List.exists_cons_of_ne_nil Nat.toDigits_ne_nil
  have hlength : (zfill 2 (c % 100)).toList.length = 2 :=
    length_zfill (by norm_num) (Nat.mod_lt _ (by norm_num))
  refine ⟨d, ds, (zfill 2 (c % 100)).toList, ?_, ?_, fun x hx => isDigit_of_mem_zfill hx, ?_, hlength⟩
  · simp [centsText, hds]
  · intro x hx
    rw [← hds] at hx
    exact Nat.isDigit_of_mem_toDigits (by norm_num) (by norm_num) hx
  · rw [← hds, Nat.ofDigitChars_append, Nat.ofDigitChars_ten_toDigits,
      Nat.ofDigitChars_eq_ofDigitChars_zero, ofDigitChars_zfill, hlength]
    omega

section SignedCents

variable {sign : String} (hsign : sign = "" ∨ sign = "-") (c : ℕ)

include hsign

theorem plain_signed_centsText : ∀ x ∈ (sign ++ centsText c).toList, Plain x := by
  obtain ⟨d, ds, frac, htext, hw, hf, _⟩ := toList_centsText c
  intro x hx
  rw [String.toList_append, List.mem_append, htext, List.mem_append] at hx
  rcases hx with hx | hx | hx
  · rcases hsign with rfl | rfl
    · cases hx
    · exact Or.inr (Or.inr (by simpa using hx))
  · exact Or.inl (hw x hx)
  · rcases List.mem_cons.mp hx with rfl | hx
    · exact Or.inr (Or.inl rfl)
    · exact Or.inl (hf x hx)

theorem splitSign_signed_centsText :
    splitSign (sign ++ centsText c).toList = (decide (sign = "-"), (centsText c).toList) := by
  obtain ⟨d, ds, frac, htext, hw, _⟩ := toList_centsText c
  have hd := hw d (by simp)
  have hdm : d ≠ '-' ∧ d ≠ '+' := by
    constructor <;> (rintro rfl; exact absurd hd (by decide))
  rw [String.toList_append, htext]
  rcases hsign with rfl | rfl
  · simp [splitSign, hdm.1, hdm.2]
  · simp [splitSign]

omit hsign in
theorem unsignedDecimal_centsText : unsignedDecimal (centsText c).toList = some (c, -2) := by
  obtain ⟨d, ds, frac, htext, hw, hf, hvalue, hlength⟩ := toList_centsText c
  rw [htext, unsignedDecimal_amount hw (by simp) hf, hvalue, hlength]
  rfl

omit hsign in
theorem decimalParts_centsText : decimalParts (centsText c).toList = some (c, -2) := by
  have hplain : ∀ x ∈ (centsText c).toList, Plain x := by
    simpa using plain_signed_centsText (Or.inl rfl) c
  have hexponent : (centsText c).toList.any (fun x => x == 'e' || x == 'E') = false := by
    refine List.any_eq_false.mpr fun x hx => ?_
    simp [(hplain x hx).ne (d := 'e') (by simp), (hplain x hx).ne (d := 'E') (by simp)]
  rw [decimalParts, unsignedDecimal_centsText, hexponent]
  rfl

omit hsign in
theorem special_word_centsText : isInfinityWord ((centsText c).toList.map Char.toLower) = false ∧
    isNanWord ((centsText c).toList.map Char.toLower) = false := by
  obtain ⟨d, ds, frac, htext, hw, _⟩ := toList_centsText c
  rw [htext]
  exact special_word_false (hw d (by simp)) (ds ++ '.' :: frac)

theorem decimalKind_signed_centsText : decimalKind (sign ++ centsText c) = some .finite := by
  have hplain := plain_signed_centsText hsign c
  have hword := special_word_centsText c
  unfold decimalKind
  rw [numeral_eq_toList (fun _ hx => hx.inert.1) hplain, filter_underscore_eq_self hplain,
    splitSign_signed_centsText hsign c]
  simp [hword.1, hword.2, decimalParts_centsText c]

theorem decimalValue_signed_centsText :
    decimalValue (sign ++ centsText c) = some (if sign = "-" then -(c / 100 : ℚ) else c / 100) := by
  have hplain := plain_signed_centsText hsign c
  have hvalue : (c : ℚ) * 10 ^ (-2 : ℤ) = c / 100 := by
    rw [zpow_neg, div_eq_mul_inv]
    norm_num
  unfold decimalValue
  rw [numeral_eq_toList (fun _ hx => hx.inert.1) hplain, filter_underscore_eq_self hplain,
    splitSign_signed_centsText hsign c]
  simp only [decimalParts_centsText c, Option.map_some, hvalue, decide_eq_true_eq]

end SignedCents

/-- The text of a float is a finite decimal exactly when the float is finite. -/
theorem decimalKind_fixed2 (x : PyFloat) : decimalKind (fixed2 x) =
    some (match x with | .nan => .nan | .inf _ => .infinite | _ => .finite) := by
  cases x with
  | nan => decide
  | inf neg => cases neg <;> decide
  | negZero => decide
  | num q =>
    apply decimalKind_signed_centsText
    split_ifs <;> simp

/-- A number rounded to cents, half to even. -/
def roundCents (q : ℚ) : ℚ := (roundHalfEven (q * 100) : ℚ) / 100

theorem roundCents_mono : Monotone roundCents := by
  intro p q hpq
  have hround : roundHalfEven (p * 100) ≤ roundHalfEven (q * 100) := roundHalfEven_mono (by linarith)
  have hcast : (roundHalfEven (p * 100) : ℚ) ≤ roundHalfEven (q * 100) := by exact_mod_cast hround
  exact div_le_div_of_nonneg_right hcast (by norm_num)

theorem roundCents_intCast (n : ℤ) : roundCents n = n := by
  have hround : roundHalfEven ((n : ℚ) * 100) = n * 100 := by
    exact_mod_cast roundHalfEven_intCast (n * 100)
  rw [roundCents, hround]
  push_cast
  ring

theorem roundCents_neg (q : ℚ) : roundCents (-q) = -roundCents q := by
  rw [roundCents, neg_mul, roundHalfEven_neg, roundCents]
  push_cast
  exact neg_div 100 _

theorem abs_roundCents_sub_le (q : ℚ) : |roundCents q - q| ≤ 1 / 200 := by
  have h := abs_le.mp (abs_roundHalfEven_sub_le (q * 100))
  rw [roundCents, abs_le]
  constructor <;> linarith

theorem roundCents_zero : roundCents 0 = 0 := by exact_mod_cast roundCents_intCast 0

theorem decimalValue_fixed2 {x : PyFloat} {q : ℚ} (h : x.val? = some q) :
    decimalValue (fixed2 x) = some (roundCents q) := by
  cases x with
  | nan => cases h
  | inf neg => cases h
  | negZero =>
    cases h
    have htext : fixed2 .negZero = "-" ++ centsText 0 := rfl
    rw [htext, decimalValue_signed_centsText (Or.inr rfl), roundCents_zero]
    simp
  | num r =>
    cases h
    have hnonneg : 0 ≤ roundHalfEven (|q| * 100) := roundHalfEven_nonneg (by positivity)
    have hcents : ((roundHalfEven (|q| * 100)).natAbs : ℚ) = (roundHalfEven (|q| * 100) : ℚ) := by
      rw [← Int.cast_natCast, Int.natAbs_of_nonneg hnonneg]
    by_cases hq : q < 0
    · have hround : roundHalfEven (|q| * 100) = -roundHalfEven (q * 100) := by
        rw [abs_of_neg hq, neg_mul, roundHalfEven_neg]
      simp only [fixed2, if_pos hq]
      rw [decimalValue_signed_centsText (Or.inr rfl), if_pos rfl, hcents, hround, roundCents]
      push_cast
      rw [neg_div, neg_neg]
    · simp only [fixed2, if_neg hq]
      rw [decimalValue_signed_centsText (Or.inl rfl), if_neg (by decide), hcents,
        abs_of_nonneg (not_lt.mp hq), roundCents]

theorem dropUnderscores_eq_self {cs : List Char} (h : ∀ c ∈ cs, c ≠ '_') (afterDigit : Bool) :
    dropUnderscores afterDigit cs = some cs := by
  induction cs generalizing afterDigit with
  | nil => rfl
  | cons c cs ih =>
    have hc : c ≠ '_' := h c List.mem_cons_self
    have hrest := ih (fun d hd => h d (List.mem_cons_of_mem c hd)) c.isDigit
    rw [dropUnderscores]
    · rw [hrest, Option.map_some]
    · rintro rfl
      exact absurd rfl hc

theorem readFloat_signed_centsText (fmt : FloatFormat) {sign : String} (hsign : sign = "" ∨ sign = "-")
    (c : ℕ) : readFloat fmt (sign ++ centsText c) = some (.ofSigned fmt (decide (sign = "-"))
      (if sign = "-" then -(c / 100 : ℚ) else c / 100)) := by
  have hplain := plain_signed_centsText hsign c
  have hword := (special_word_centsText c).1
  have hnan : (centsText c).toList.map Char.toLower ≠ ['n', 'a', 'n'] := by
    intro heq
    have hno := (special_word_centsText c).2
    rw [heq] at hno
    exact absurd hno (by decide)
  have hvalue : (c : ℚ) * 10 ^ (-2 : ℤ) = c / 100 := by
    rw [zpow_neg, div_eq_mul_inv]
    norm_num
  unfold readFloat
  rw [numeral_eq_toList (fun _ hx => hx.not_intSpace) hplain,
    dropUnderscores_eq_self fun x hx => (hplain x hx).ne (by simp)]
  dsimp only
  rw [splitSign_signed_centsText hsign c]
  simp only [hword, unsignedDecimal_centsText c, Option.map_some, hvalue, decide_eq_true_eq,
    Bool.false_eq_true, if_false, beq_iff_eq, if_neg hnan]

theorem readFloat_fixed2 (fmt : FloatFormat) {x : PyFloat} {q : ℚ} (h : x.val? = some q) :
    ∃ s, readFloat fmt (fixed2 x) = some (.ofSigned fmt s (roundCents q)) := by
  have hdecimal := decimalValue_fixed2 h
  have htext : ∃ sign c, (sign = "" ∨ sign = "-") ∧ fixed2 x = sign ++ centsText c := by
    cases x with
    | nan => cases h
    | inf neg => cases h
    | negZero => exact ⟨"-", 0, Or.inr rfl, rfl⟩
    | num r =>
      refine ⟨if r < 0 then "-" else "", _, ?_, rfl⟩
      split_ifs <;> simp
  obtain ⟨sign, c, hsign, htext⟩ := htext
  rw [htext, decimalValue_signed_centsText hsign] at hdecimal
  refine ⟨decide (sign = "-"), ?_⟩
  rw [htext, readFloat_signed_centsText fmt hsign, Option.some.inj hdecimal]

end NumberText
end AtlasConnectors
