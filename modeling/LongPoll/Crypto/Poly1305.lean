import LongPoll.Key

set_option autoImplicit false

/-!
The one-time authenticator Poly1305: a polynomial over the message, evaluated modulo a prime.
-/

namespace LongPoll.Poly1305

def prime : Nat := (1 <<< 130) - 5

/-- Clears the bits of the evaluation point that must be zero. -/
def clamp (value : Nat) : Nat := value &&& 0x0ffffffc0ffffffc0ffffffc0fffffff

/-- A block as a coefficient: its number with a one byte beyond its last. -/
def coefficient (block : Bytes) : Nat := Bytes.toNatLE block + (1 <<< (8 * block.length))

/-- The polynomial whose coefficients are the blocks, at `point`, without a constant term. -/
def evaluate (point : Nat) (blocks : List Bytes) : Nat :=
  blocks.foldl (fun sum block => (sum + coefficient block) * point % prime) 0

/-- The tag of a message under a one-time key. -/
def tag (key message : Bytes) : Bytes :=
  let point := clamp (Bytes.toNatLE (key.take 16))
  let mask := Bytes.toNatLE (key.drop 16)
  Bytes.ofNatLE 16 (evaluate point (Bytes.blocks 16 message) + mask)

theorem length_tag (key message : Bytes) : (tag key message).length = 16 := by
  rw [tag, Bytes.length_ofNatLE]

end LongPoll.Poly1305
