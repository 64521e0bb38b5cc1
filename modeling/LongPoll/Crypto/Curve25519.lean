import LongPoll.Key

set_option autoImplicit false

/-!
Arithmetic modulo the prime 2 ^ 255 - 19, on natural numbers.
-/

namespace LongPoll.Curve25519

def prime : Nat := (1 <<< 255) - 19

def add (x y : Nat) : Nat := (x + y) % prime

def sub (x y : Nat) : Nat := (x + (prime - y % prime)) % prime

def mul (x y : Nat) : Nat := x * y % prime

def square (x : Nat) : Nat := mul x x

/-- The lowest `count` bits of a number, most significant first. -/
def bits : Nat → Nat → List Bool
  | 0, _ => []
  | count + 1, value => value.testBit count :: bits count value

/-- Square and multiply along the bits of the exponent. -/
def power (base exponent : Nat) : Nat :=
  (bits 255 exponent).foldl
    (fun result bit => if bit then mul (square result) base else square result) 1

/-- The inverse by Fermat's little theorem; zero for zero. -/
def inverse (x : Nat) : Nat := power x (prime - 2)

/-- A number given by 255 bits, least significant byte first, with the topmost bit ignored. -/
def ofBytes (bytes : Bytes) : Nat := Bytes.toNatLE bytes % (1 <<< 255) % prime

/-- A private scalar: a multiple of eight with bit 254 as its highest. -/
def clampScalar (bytes : Bytes) : Nat :=
  Bytes.toNatLE bytes % (1 <<< 254) / 8 * 8 + (1 <<< 254)

end LongPoll.Curve25519
