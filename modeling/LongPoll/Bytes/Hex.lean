import LongPoll.Bytes

set_option autoImplicit false

/-!
Hexadecimal text. Bytes are written as two lower-case digits each; reading takes digits of either
case. Main statement: reading what was written gives the bytes back.
-/

namespace LongPoll.Hex

def digit (value : Nat) : Char :=
  if value < 10 then Char.ofNat (48 + value) else Char.ofNat (87 + value)

def value? (c : Char) : Option Nat :=
  if '0' ≤ c ∧ c ≤ '9' then some (c.toNat - 48)
  else if 'a' ≤ c ∧ c ≤ 'f' then some (c.toNat - 87)
  else if 'A' ≤ c ∧ c ≤ 'F' then some (c.toNat - 55)
  else none

/-- The two digits of each byte, high digit first. -/
def encode : Bytes → List Char
  | [] => []
  | byte :: rest => digit (byte.toNat / 16) :: digit (byte.toNat % 16) :: encode rest

/-- Reads pairs of digits; an odd digit or any other character is refused. -/
def decode? : List Char → Option Bytes
  | [] => some []
  | [_] => none
  | high :: low :: rest =>
    match value? high, value? low, decode? rest with
    | some h, some l, some bytes => some (UInt8.ofNat (16 * h + l) :: bytes)
    | _, _, _ => none

theorem value?_digit (n : Fin 16) : value? (digit n) = some n.val := by
  revert n
  decide

theorem decode?_encode (bytes : Bytes) : decode? (encode bytes) = some bytes := by
  induction bytes with
  | nil => rfl
  | cons byte rest ih =>
    have high := value?_digit ⟨byte.toNat / 16, by have := byte.toNat_lt; omega⟩
    have low := value?_digit ⟨byte.toNat % 16, by omega⟩
    have whole : 16 * (byte.toNat / 16) + byte.toNat % 16 = byte.toNat := by omega
    simp only [encode, decode?, high, low, ih, whole, UInt8.ofNat_toNat]

def text (bytes : Bytes) : String := String.ofList (encode bytes)

end LongPoll.Hex
