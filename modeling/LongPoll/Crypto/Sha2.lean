import LongPoll.Bytes

set_option autoImplicit false

/-!
The hashes of the SHA-2 family, over words of any width. Main statement: a digest has eight words,
so SHA-256 gives 32 bytes and SHA-512 gives 64.
-/

namespace LongPoll.Sha2

/-- What distinguishes the members of the family. -/
structure Variant where
  width : Nat
  initial : List (BitVec width)
  constants : List (BitVec width)
  /-- Rotations of the first working word. -/
  upper : Nat × Nat × Nat
  /-- Rotations of the fifth working word. -/
  lower : Nat × Nat × Nat
  /-- Two rotations and a shift of the early schedule word. -/
  early : Nat × Nat × Nat
  /-- Two rotations and a shift of the late schedule word. -/
  late : Nat × Nat × Nat

structure Working (width : Nat) where
  a : BitVec width
  b : BitVec width
  c : BitVec width
  d : BitVec width
  e : BitVec width
  f : BitVec width
  g : BitVec width
  h : BitVec width
deriving DecidableEq

def Working.ofList {width : Nat} (words : List (BitVec width)) : Working width :=
  ⟨words.getD 0 0, words.getD 1 0, words.getD 2 0, words.getD 3 0,
    words.getD 4 0, words.getD 5 0, words.getD 6 0, words.getD 7 0⟩

def Working.toList {width : Nat} (s : Working width) : List (BitVec width) :=
  [s.a, s.b, s.c, s.d, s.e, s.f, s.g, s.h]

def Working.add {width : Nat} (s t : Working width) : Working width :=
  ⟨s.a + t.a, s.b + t.b, s.c + t.c, s.d + t.d, s.e + t.e, s.f + t.f, s.g + t.g, s.h + t.h⟩

def rotations {width : Nat} (amounts : Nat × Nat × Nat) (x : BitVec width) : BitVec width :=
  x.rotateRight amounts.1 ^^^ x.rotateRight amounts.2.1 ^^^ x.rotateRight amounts.2.2

def shifts {width : Nat} (amounts : Nat × Nat × Nat) (x : BitVec width) : BitVec width :=
  x.rotateRight amounts.1 ^^^ x.rotateRight amounts.2.1 ^^^ x >>> amounts.2.2

def choose {width : Nat} (e f g : BitVec width) : BitVec width := (e &&& f) ^^^ (~~~e &&& g)

def majority {width : Nat} (a b c : BitVec width) : BitVec width :=
  (a &&& b) ^^^ (a &&& c) ^^^ (b &&& c)

def round (v : Variant) (s : Working v.width) (constant word : BitVec v.width) :
    Working v.width :=
  let first := s.h + rotations v.lower s.e + choose s.e s.f s.g + constant + word
  let second := rotations v.upper s.a + majority s.a s.b s.c
  ⟨first + second, s.a, s.b, s.c, s.d + first, s.e, s.f, s.g⟩

/-- The schedule word that follows a window of sixteen. -/
def nextWord (v : Variant) (window : List (BitVec v.width)) : BitVec v.width :=
  window.getD 0 0 + shifts v.early (window.getD 1 0)
    + window.getD 9 0 + shifts v.late (window.getD 14 0)

/-- Runs a round for each constant; the window slides by one word a round. -/
def rounds (v : Variant) : List (BitVec v.width) → List (BitVec v.width) → Working v.width →
    Working v.width
  | [], _, s => s
  | constant :: constants, window, s =>
    rounds v constants (window.drop 1 ++ [nextWord v window])
      (round v s constant (window.getD 0 0))

def compress (v : Variant) (s : Working v.width) (block : List (BitVec v.width)) :
    Working v.width :=
  s.add (rounds v v.constants block s)

/-- The message, a one bit, zeros as far as the length field of the last block, and the length in
bits. -/
def pad (v : Variant) (message : Bytes) : Bytes :=
  let block := 2 * v.width
  let field := v.width / 4
  message ++ 0x80 :: List.replicate ((block - (message.length + 1 + field) % block) % block) 0
    ++ Bytes.ofNatBE field (8 * message.length)

/-- The words of a block, most significant byte first. -/
def wordsOf (v : Variant) (block : Bytes) : List (BitVec v.width) :=
  (Bytes.blocks (v.width / 8) block).map fun bytes =>
    BitVec.ofNat v.width (bytes.foldl (fun value byte => 256 * value + byte.toNat) 0)

def digest (v : Variant) (message : Bytes) : Bytes :=
  ((Bytes.blocks (2 * v.width) (pad v message)).foldl
    (fun s block => compress v s (wordsOf v block)) (Working.ofList v.initial)).toList.flatMap
      fun word => Bytes.ofNatBE (v.width / 8) word.toNat

theorem length_digest (v : Variant) (message : Bytes) :
    (digest v message).length = 8 * (v.width / 8) := by
  simp only [digest, Working.toList, List.flatMap_cons, List.flatMap_nil, List.length_append,
    List.length_nil, Bytes.length_ofNatBE]
  omega

def sha256 : Variant where
  width := 32
  initial := [
    0x6a09e667, 0xbb67ae85, 0x3c6ef372, 0xa54ff53a, 0x510e527f, 0x9b05688c, 0x1f83d9ab, 0x5be0cd19]
  constants := [
    0x428a2f98, 0x71374491, 0xb5c0fbcf, 0xe9b5dba5, 0x3956c25b, 0x59f111f1, 0x923f82a4, 0xab1c5ed5,
    0xd807aa98, 0x12835b01, 0x243185be, 0x550c7dc3, 0x72be5d74, 0x80deb1fe, 0x9bdc06a7, 0xc19bf174,
    0xe49b69c1, 0xefbe4786, 0x0fc19dc6, 0x240ca1cc, 0x2de92c6f, 0x4a7484aa, 0x5cb0a9dc, 0x76f988da,
    0x983e5152, 0xa831c66d, 0xb00327c8, 0xbf597fc7, 0xc6e00bf3, 0xd5a79147, 0x06ca6351, 0x14292967,
    0x27b70a85, 0x2e1b2138, 0x4d2c6dfc, 0x53380d13, 0x650a7354, 0x766a0abb, 0x81c2c92e, 0x92722c85,
    0xa2bfe8a1, 0xa81a664b, 0xc24b8b70, 0xc76c51a3, 0xd192e819, 0xd6990624, 0xf40e3585, 0x106aa070,
    0x19a4c116, 0x1e376c08, 0x2748774c, 0x34b0bcb5, 0x391c0cb3, 0x4ed8aa4a, 0x5b9cca4f, 0x682e6ff3,
    0x748f82ee, 0x78a5636f, 0x84c87814, 0x8cc70208, 0x90befffa, 0xa4506ceb, 0xbef9a3f7, 0xc67178f2]
  upper := (2, 13, 22)
  lower := (6, 11, 25)
  early := (7, 18, 3)
  late := (17, 19, 10)

def sha512 : Variant where
  width := 64
  initial := [
    0x6a09e667f3bcc908, 0xbb67ae8584caa73b, 0x3c6ef372fe94f82b, 0xa54ff53a5f1d36f1,
    0x510e527fade682d1, 0x9b05688c2b3e6c1f, 0x1f83d9abfb41bd6b, 0x5be0cd19137e2179]
  constants := [
    0x428a2f98d728ae22, 0x7137449123ef65cd, 0xb5c0fbcfec4d3b2f, 0xe9b5dba58189dbbc,
    0x3956c25bf348b538, 0x59f111f1b605d019, 0x923f82a4af194f9b, 0xab1c5ed5da6d8118,
    0xd807aa98a3030242, 0x12835b0145706fbe, 0x243185be4ee4b28c, 0x550c7dc3d5ffb4e2,
    0x72be5d74f27b896f, 0x80deb1fe3b1696b1, 0x9bdc06a725c71235, 0xc19bf174cf692694,
    0xe49b69c19ef14ad2, 0xefbe4786384f25e3, 0x0fc19dc68b8cd5b5, 0x240ca1cc77ac9c65,
    0x2de92c6f592b0275, 0x4a7484aa6ea6e483, 0x5cb0a9dcbd41fbd4, 0x76f988da831153b5,
    0x983e5152ee66dfab, 0xa831c66d2db43210, 0xb00327c898fb213f, 0xbf597fc7beef0ee4,
    0xc6e00bf33da88fc2, 0xd5a79147930aa725, 0x06ca6351e003826f, 0x142929670a0e6e70,
    0x27b70a8546d22ffc, 0x2e1b21385c26c926, 0x4d2c6dfc5ac42aed, 0x53380d139d95b3df,
    0x650a73548baf63de, 0x766a0abb3c77b2a8, 0x81c2c92e47edaee6, 0x92722c851482353b,
    0xa2bfe8a14cf10364, 0xa81a664bbc423001, 0xc24b8b70d0f89791, 0xc76c51a30654be30,
    0xd192e819d6ef5218, 0xd69906245565a910, 0xf40e35855771202a, 0x106aa07032bbd1b8,
    0x19a4c116b8d2d0c8, 0x1e376c085141ab53, 0x2748774cdf8eeb99, 0x34b0bcb5e19b48a8,
    0x391c0cb3c5c95a63, 0x4ed8aa4ae3418acb, 0x5b9cca4f7763e373, 0x682e6ff3d6b2b8a3,
    0x748f82ee5defb2fc, 0x78a5636f43172f60, 0x84c87814a1f0ab72, 0x8cc702081a6439ec,
    0x90befffa23631e28, 0xa4506cebde82bde9, 0xbef9a3f7b2c67915, 0xc67178f2e372532b,
    0xca273eceea26619c, 0xd186b8c721c0c207, 0xeada7dd6cde0eb1e, 0xf57d4f7fee6ed178,
    0x06f067aa72176fba, 0x0a637dc5a2c898a6, 0x113f9804bef90dae, 0x1b710b35131c471b,
    0x28db77f523047d84, 0x32caab7b40c72493, 0x3c9ebe0a15c9bebc, 0x431d67c49c100d4c,
    0x4cc5d4becb3e42b6, 0x597f299cfc657e2a, 0x5fcb6fab3ad6faec, 0x6c44198c4a475817]
  upper := (28, 34, 39)
  lower := (14, 18, 41)
  early := (1, 8, 7)
  late := (19, 61, 6)

end LongPoll.Sha2
