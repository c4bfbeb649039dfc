import Mathlib

/-! SHA-256 of a byte string and its hexadecimal digest. Words are natural numbers below
`2 ^ 32`, so that sums are reduced explicitly. -/
namespace AtlasConnectors
namespace Sha256

def roundConstants : List ℕ :=
  [0x428a2f98, 0x71374491, 0xb5c0fbcf, 0xe9b5dba5, 0x3956c25b, 0x59f111f1, 0x923f82a4, 0xab1c5ed5,
    0xd807aa98, 0x12835b01, 0x243185be, 0x550c7dc3, 0x72be5d74, 0x80deb1fe, 0x9bdc06a7, 0xc19bf174,
    0xe49b69c1, 0xefbe4786, 0x0fc19dc6, 0x240ca1cc, 0x2de92c6f, 0x4a7484aa, 0x5cb0a9dc, 0x76f988da,
    0x983e5152, 0xa831c66d, 0xb00327c8, 0xbf597fc7, 0xc6e00bf3, 0xd5a79147, 0x06ca6351, 0x14292967,
    0x27b70a85, 0x2e1b2138, 0x4d2c6dfc, 0x53380d13, 0x650a7354, 0x766a0abb, 0x81c2c92e, 0x92722c85,
    0xa2bfe8a1, 0xa81a664b, 0xc24b8b70, 0xc76c51a3, 0xd192e819, 0xd6990624, 0xf40e3585, 0x106aa070,
    0x19a4c116, 0x1e376c08, 0x2748774c, 0x34b0bcb5, 0x391c0cb3, 0x4ed8aa4a, 0x5b9cca4f, 0x682e6ff3,
    0x748f82ee, 0x78a5636f, 0x84c87814, 0x8cc70208, 0x90befffa, 0xa4506ceb, 0xbef9a3f7, 0xc67178f2]

def word (n : ℕ) : ℕ := n % 4294967296

/-- Rotation to the right of a word. -/
def rotr (x n : ℕ) : ℕ := (x >>> n) ||| word (x <<< (32 - n))

/-- The eight working variables. -/
structure Registers where
  (a b c d e f g h : ℕ)
  deriving DecidableEq

namespace Registers

def initial : Registers :=
  ⟨0x6a09e667, 0xbb67ae85, 0x3c6ef372, 0xa54ff53a, 0x510e527f, 0x9b05688c, 0x1f83d9ab, 0x5be0cd19⟩

/-- One round, with the sum of its constant and its schedule word. -/
def round (s : Registers) (kw : ℕ) : Registers :=
  let t1 := s.h + (rotr s.e 6 ^^^ rotr s.e 11 ^^^ rotr s.e 25) +
    ((s.e &&& s.f) ^^^ ((4294967295 - s.e) &&& s.g)) + kw
  let t2 := (rotr s.a 2 ^^^ rotr s.a 13 ^^^ rotr s.a 22) +
    ((s.a &&& s.b) ^^^ (s.a &&& s.c) ^^^ (s.b &&& s.c))
  ⟨word (t1 + t2), s.a, s.b, s.c, word (s.d + t1), s.e, s.f, s.g⟩

def add (s t : Registers) : Registers :=
  ⟨word (s.a + t.a), word (s.b + t.b), word (s.c + t.c), word (s.d + t.d),
    word (s.e + t.e), word (s.f + t.f), word (s.g + t.g), word (s.h + t.h)⟩

def toList (s : Registers) : List ℕ := [s.a, s.b, s.c, s.d, s.e, s.f, s.g, s.h]

end Registers

/-- `n` further words of the message schedule, whose latest word is the head. -/
def extend : ℕ → List ℕ → List ℕ
  | 0, ws => ws
  | n + 1, ws =>
    let w2 := ws.getD 1 0
    let w15 := ws.getD 14 0
    extend n (word ((rotr w2 17 ^^^ rotr w2 19 ^^^ (w2 >>> 10)) + ws.getD 6 0 +
      (rotr w15 7 ^^^ rotr w15 18 ^^^ (w15 >>> 3)) + ws.getD 15 0) :: ws)

def words : List UInt8 → List ℕ
  | a :: b :: c :: d :: r =>
    (a.toNat * 16777216 + b.toNat * 65536 + c.toNat * 256 + d.toNat) :: words r
  | _ => []

def compress (s : Registers) (block : List UInt8) : Registers :=
  s.add ((List.zipWith (· + ·) roundConstants (extend 48 (words block).reverse).reverse).foldl
    Registers.round s)

/-- The `k` low bytes of a number, the most significant first. -/
def bytesBE : ℕ → ℕ → List UInt8
  | 0, _ => []
  | k + 1, n => bytesBE k (n / 256) ++ [UInt8.ofNat (n % 256)]

def pad (msg : List UInt8) : List UInt8 :=
  msg ++ 0x80 :: (List.replicate ((119 - msg.length % 64) % 64) 0 ++ bytesBE 8 (8 * msg.length))

def blocks : ℕ → List UInt8 → List (List UInt8)
  | 0, _ => []
  | n + 1, bytes => bytes.take 64 :: blocks n (bytes.drop 64)

def digest (msg : List UInt8) : Registers :=
  (blocks ((pad msg).length / 64) (pad msg)).foldl compress Registers.initial

def hexByte (b : UInt8) : List Char := [Nat.digitChar (b.toNat / 16), Nat.digitChar (b.toNat % 16)]

/-- `hashlib.sha256(msg).hexdigest()`. -/
def hexdigest (msg : List UInt8) : String :=
  String.ofList ((digest msg).toList.flatMap fun w => (bytesBE 4 w).flatMap hexByte)

@[simp] theorem length_bytesBE (k n : ℕ) : (bytesBE k n).length = k := by
  induction k generalizing n with
  | zero => rfl
  | succ k ih => simp [bytesBE, ih]

theorem length_pad_mod (msg : List UInt8) : (pad msg).length % 64 = 0 := by
  simp only [pad, List.length_append, List.length_cons, List.length_replicate, length_bytesBE]
  omega

theorem length_flatMap_hexByte (bs : List UInt8) : (bs.flatMap hexByte).length = 2 * bs.length := by
  induction bs with
  | nil => rfl
  | cons b bs ih =>
    simp only [List.flatMap_cons, List.length_append, ih, hexByte, List.length_cons, List.length_nil]
    omega

theorem length_hexdigest (msg : List UInt8) : (hexdigest msg).toList.length = 64 := by
  simp only [hexdigest, String.toList_ofList, Registers.toList, List.flatMap_cons, List.flatMap_nil,
    List.length_append, length_flatMap_hexByte, length_bytesBE, List.length_nil]

example : digest [97, 98, 99] = ⟨0xba7816bf, 0x8f01cfea, 0x414140de, 0x5dae2223, 0xb00361a3,
    0x96177a9c, 0xb410ff61, 0xf20015ad⟩ := by decide +kernel

end Sha256
end AtlasConnectors
