import LongPoll.Bytes.Hex

set_option autoImplicit false

/-!
Keys of 32 bytes and nonces of 12, and the random bytes they are drawn from.
-/

namespace LongPoll

/-- A value of 32 bytes: a key of either curve, private or public, or a symmetric key. -/
structure Key where
  bytes : Bytes
  size : bytes.length = 32
deriving DecidableEq, Repr

/-- What makes two seals under one key differ. -/
structure Nonce where
  bytes : Bytes
  size : bytes.length = 12
deriving DecidableEq, Repr

namespace Key

def ofBytes? (bytes : Bytes) : Option Key :=
  if size : bytes.length = 32 then some ⟨bytes, size⟩ else none

def uniform (byte : UInt8) : Key := ⟨List.replicate 32 byte, List.length_replicate⟩

def toHex (key : Key) : String := Hex.text key.bytes

theorem ext_bytes {first second : Key} (same : first.bytes = second.bytes) : first = second := by
  cases first
  cases second
  cases same
  rfl

theorem ofBytes?_bytes (key : Key) : ofBytes? key.bytes = some key := by
  simp [ofBytes?, key.size]

theorem ofBytes?_eq_some_iff {bytes : Bytes} {key : Key} :
    ofBytes? bytes = some key ↔ bytes = key.bytes := by
  constructor
  · intro found
    unfold ofBytes? at found
    split at found
    · cases found
      rfl
    · cases found
  · rintro rfl
    exact ofBytes?_bytes key

end Key

theorem Nonce.ext_bytes {first second : Nonce} (same : first.bytes = second.bytes) :
    first = second := by
  cases first
  cases second
  cases same
  rfl

/-- An endless supply of random bytes, and how many of them have been drawn. -/
structure Entropy where
  stream : Nat → UInt8
  drawn : Nat := 0

namespace Entropy

/-- The next `count` bytes, and the supply after them. -/
def draw (entropy : Entropy) (count : Nat) : Bytes × Entropy :=
  ((List.range count).map fun index => entropy.stream (entropy.drawn + index),
    { entropy with drawn := entropy.drawn + count })

theorem length_draw (entropy : Entropy) (count : Nat) :
    (entropy.draw count).1.length = count := by
  simp [draw]

def drawKey (entropy : Entropy) : Key × Entropy :=
  (⟨(entropy.draw 32).1, entropy.length_draw 32⟩, (entropy.draw 32).2)

def drawNonce (entropy : Entropy) : Nonce × Entropy :=
  (⟨(entropy.draw 12).1, entropy.length_draw 12⟩, (entropy.draw 12).2)

/-- The supply that repeats a byte string without end. -/
def cycle (bytes : Bytes) : Entropy := { stream := fun index => bytes.getD (index % bytes.length) 0 }

/-- The supply that counts upwards, so that nearby draws differ. -/
def counting : Entropy := { stream := fun index => UInt8.ofNat index }

end Entropy
end LongPoll
