import LongPoll.Crypto.Curve25519
import LongPoll.Crypto.Sha2

set_option autoImplicit false

/-!
Signatures on the twisted Edwards form of the curve. A public key has only to be the coordinate of
some point: its number is taken modulo the prime, and points of small order and a sign on a zero
coordinate are allowed. The first half of a signature is compared as bytes.
-/

namespace LongPoll.Ed25519

open Curve25519

def order : Nat := (1 <<< 252) + 27742317777372353535851937790883648493

/-- The coefficient of the curve equation `y² - x² = 1 + d x² y²`. -/
def coefficient : Nat :=
  37095705934669439343138083508754565189542113879843219016388785533085940283555

/-- A square root of minus one. -/
def rootOfMinusOne : Nat :=
  19681161376707505956807079304988542015446066515923890162744021073123829784752

/-- A point as the ratios `x / z` and `y / z`, with `t = x y / z`. -/
structure Point where
  x : Nat
  y : Nat
  z : Nat
  t : Nat
deriving DecidableEq

def Point.zero : Point := ⟨0, 1, 1, 0⟩

def Point.base : Point :=
  ⟨15112221349535400772501151409588531511454012693041857206046113283949847762202,
    46316835694926478169428394003475163141307993866256225615783033603165251855960, 1,
    46827403850823179245072216630277197565144205554125654976674165829533817101731⟩

/-- Holds for any two points, equal ones and the neutral one among them. -/
def Point.add (p q : Point) : Point :=
  let a := mul (sub p.y p.x) (sub q.y q.x)
  let b := mul (Curve25519.add p.y p.x) (Curve25519.add q.y q.x)
  let c := mul (mul 2 coefficient) (mul p.t q.t)
  let d := mul 2 (mul p.z q.z)
  let e := sub b a
  let f := sub d c
  let g := Curve25519.add d c
  let h := Curve25519.add b a
  ⟨mul e f, mul g h, mul f g, mul e h⟩

def Point.neg (p : Point) : Point := ⟨sub 0 p.x, p.y, p.z, sub 0 p.t⟩

/-- Doubles and adds along the bits of the scalar. -/
def Point.multiply (scalar : Nat) (p : Point) : Point :=
  (bits 256 scalar).foldl
    (fun result bit => if bit then (result.add result).add p else result.add result) .zero

/-- The second coordinate in 255 bits, and above them the parity of the first. -/
def Point.encode (p : Point) : Bytes :=
  let x := mul p.x (inverse p.z)
  let y := mul p.y (inverse p.z)
  Bytes.ofNatLE 32 (y + (x % 2) <<< 255)

/-- A square root of `u / v`, if there is one. -/
def ratioRoot? (u v : Nat) : Option Nat :=
  let cube := mul (square v) v
  let root := mul (mul u cube) (power (mul u (mul (square cube) v)) ((prime - 5) / 8))
  if mul v (square root) = u % prime then some root
  else if mul v (square (mul root rootOfMinusOne)) = u % prime then some (mul root rootOfMinusOne)
  else none

/-- The point whose encoding a key is. -/
def Point.decode? (key : Key) : Option Point :=
  let y := ofBytes key.bytes
  (ratioRoot? (sub (square y) 1) (Curve25519.add (mul coefficient (square y)) 1)).map fun root =>
    let x := if root % 2 = 1 ↔ (1 <<< 255) ≤ Bytes.toNatLE key.bytes then root else sub 0 root
    ⟨x, y, 1, mul x y⟩

def hashScalar (message : Bytes) : Nat :=
  Bytes.toNatLE (Sha2.digest Sha2.sha512 message) % order

/-- The scalar and the prefix that a private key stands for. -/
def expand (secret : Key) : Nat × Bytes :=
  let digest := Sha2.digest Sha2.sha512 secret.bytes
  (clampScalar (digest.take 32), digest.drop 32)

def publicBytes (secret : Key) : Bytes := (Point.base.multiply (expand secret).1).encode

def publicKey (secret : Key) : Key := ⟨publicBytes secret, Bytes.length_ofNatLE 32 _⟩

def sign (secret : Key) (message : Bytes) : Bytes :=
  let (scalar, prefixBytes) := expand secret
  let nonce := hashScalar (prefixBytes ++ message)
  let commitment := (Point.base.multiply nonce).encode
  let challenge := hashScalar (commitment ++ publicBytes secret ++ message)
  commitment ++ Bytes.ofNatLE 32 ((nonce + challenge * scalar) % order)

/-- Whether 64 bytes are a signature of the message under the key that `point` decodes. -/
def accepts (key : Key) (point : Point) (message signature : Bytes) : Bool :=
  let commitment := signature.take 32
  let response := Bytes.toNatLE (signature.drop 32)
  let challenge := hashScalar (commitment ++ key.bytes ++ message)
  response < order
    && ((Point.base.multiply response).add (point.neg.multiply challenge)).encode = commitment

end LongPoll.Ed25519
