import Mathlib

/-! Base64 with padding, by groups of three bytes. -/
namespace AtlasConnectors

def base64Digit (n : ℕ) : Char :=
  if n < 26 then Char.ofNat (65 + n)
  else if n < 52 then Char.ofNat (71 + n)
  else if n < 62 then Char.ofNat (n - 4)
  else if n = 62 then '+' else '/'

/-- `base64.b64encode`. -/
def b64encode : List UInt8 → List Char
  | a :: b :: c :: r =>
    let n := a.toNat * 65536 + b.toNat * 256 + c.toNat
    [n / 262144, n / 4096 % 64, n / 64 % 64, n % 64].map base64Digit ++ b64encode r
  | [a, b] =>
    let n := a.toNat * 1024 + b.toNat * 4
    [n / 4096, n / 64 % 64, n % 64].map base64Digit ++ ['=']
  | [a] => [a.toNat / 4, a.toNat * 16 % 64].map base64Digit ++ ['=', '=']
  | [] => []

def base64Value (c : Char) : Option ℕ := (List.range 64).find? fun n => base64Digit n = c

/-- The bytes of a padded text. -/
def b64decode : List Char → Option (List UInt8)
  | [] => some []
  | a :: b :: c :: d :: r =>
    match base64Value a, base64Value b, base64Value c, base64Value d with
    | some w, some x, some y, some z => (b64decode r).map fun bytes =>
      UInt8.ofNat (w * 4 + x / 16) :: UInt8.ofNat (x % 16 * 16 + y / 4) ::
        UInt8.ofNat (y % 4 * 64 + z) :: bytes
    | some w, some x, some y, none =>
      if d = '=' ∧ r = [] then some [UInt8.ofNat (w * 4 + x / 16), UInt8.ofNat (x % 16 * 16 + y / 4)]
      else none
    | some w, some x, none, none =>
      if c = '=' ∧ d = '=' ∧ r = [] then some [UInt8.ofNat (w * 4 + x / 16)] else none
    | _, _, _, _ => none
  | _ => none

theorem base64Value_digit {n : ℕ} (hn : n < 64) : base64Value (base64Digit n) = some n := by
  have hdecided : ∀ k : Fin 64, base64Value (base64Digit k) = some k.val := by decide +kernel
  exact hdecided ⟨n, hn⟩

theorem base64Value_pad : base64Value '=' = none := by decide +kernel

theorem uint8_ofNat_eq {a : UInt8} {n : ℕ} (h : n = a.toNat) : UInt8.ofNat n = a := by
  rw [h, UInt8.ofNat_toNat]

theorem b64decode_encode (bytes : List UInt8) : b64decode (b64encode bytes) = some bytes := by
  induction bytes using b64encode.induct with
  | case1 a b c r ih =>
    have ha := a.toNat_lt
    have hb := b.toNat_lt
    have hc := c.toNat_lt
    rw [b64encode]
    generalize hn : a.toNat * 65536 + b.toNat * 256 + c.toNat = n
    simp only [List.map_cons, List.map_nil, List.cons_append, List.nil_append, b64decode,
      base64Value_digit (n := n / 262144) (by omega),
      base64Value_digit (n := n / 4096 % 64) (by omega),
      base64Value_digit (n := n / 64 % 64) (by omega), base64Value_digit (n := n % 64) (by omega), ih,
      Option.map_some]
    rw [uint8_ofNat_eq (a := a) (by omega), uint8_ofNat_eq (a := b) (by omega),
      uint8_ofNat_eq (a := c) (by omega)]
  | case2 a b =>
    have ha := a.toNat_lt
    have hb := b.toNat_lt
    rw [b64encode]
    generalize hn : a.toNat * 1024 + b.toNat * 4 = n
    simp only [List.map_cons, List.map_nil, List.cons_append, List.nil_append, b64decode,
      base64Value_digit (n := n / 4096) (by omega), base64Value_digit (n := n / 64 % 64) (by omega),
      base64Value_digit (n := n % 64) (by omega), base64Value_pad, and_self, if_true]
    rw [uint8_ofNat_eq (a := a) (by omega), uint8_ofNat_eq (a := b) (by omega)]
  | case3 a =>
    have ha := a.toNat_lt
    rw [b64encode]
    simp only [List.map_cons, List.map_nil, List.cons_append, List.nil_append, b64decode,
      base64Value_digit (n := a.toNat / 4) (by omega),
      base64Value_digit (n := a.toNat * 16 % 64) (by omega), base64Value_pad, and_self, if_true]
    rw [uint8_ofNat_eq (a := a) (by omega)]
  | case4 => rfl

end AtlasConnectors
