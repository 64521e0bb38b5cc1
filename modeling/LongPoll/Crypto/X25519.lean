import LongPoll.Crypto.Curve25519

set_option autoImplicit false

/-!
Key agreement by scalar multiplication on the Montgomery form of the curve.
-/

namespace LongPoll.X25519

open Curve25519

/-- Two neighbouring multiples of a point, as ratios of coordinates. -/
structure Ladder where
  x : Nat
  z : Nat
  nextX : Nat
  nextZ : Nat
deriving DecidableEq

def Ladder.swap (s : Ladder) : Ladder := ⟨s.nextX, s.nextZ, s.x, s.z⟩

/-- Doubles the first multiple and adds the two. -/
def Ladder.double (u : Nat) (s : Ladder) : Ladder :=
  let sum := square (add s.x s.z)
  let difference := square (sub s.x s.z)
  let gap := sub sum difference
  let crossed := mul (sub s.nextX s.nextZ) (add s.x s.z)
  let straight := mul (add s.nextX s.nextZ) (sub s.x s.z)
  ⟨mul sum difference, mul gap (add sum (mul 121665 gap)),
    square (add crossed straight), mul u (square (sub crossed straight))⟩

/-- Appends one bit to the scalar of the first multiple. -/
def Ladder.step (u : Nat) (s : Ladder) (bit : Bool) : Ladder :=
  if bit then (s.swap.double u).swap else s.double u

/-- The coordinate of the multiple of a point by a clamped scalar. -/
def multiply (scalar u : Nat) : Nat :=
  let s := (bits 255 scalar).foldl (Ladder.step u) ⟨1, 0, u, 1⟩
  mul s.x (inverse s.z)

/-- The secret that the holder of a private key shares with the holder of a public one. -/
def agree (secret point : Key) : Key :=
  ⟨Bytes.ofNatLE 32 (multiply (clampScalar secret.bytes) (ofBytes point.bytes)),
    Bytes.length_ofNatLE 32 _⟩

def basePoint : Key := ⟨9 :: List.replicate 31 0, rfl⟩

def publicKey (secret : Key) : Key := agree secret basePoint

/-- Whether both parties had a part in a shared secret: it is not the neutral element. -/
def isContributory (shared : Key) : Bool := shared.bytes.any (· ≠ 0)

end LongPoll.X25519
