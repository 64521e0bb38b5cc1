set_option autoImplicit false

/-!
Byte strings as lists, the numbers they stand for in either byte order, and the cutting of a byte
string into blocks. Main statements: the digits written for a number have the length asked for,
and the blocks of a byte string concatenate to it.
-/

namespace LongPoll

abbrev Bytes := List UInt8

namespace Bytes

/-- The number whose digits in base 256 are the bytes, least significant first. -/
def toNatLE : Bytes → Nat
  | [] => 0
  | byte :: rest => byte.toNat + 256 * toNatLE rest

/-- The lowest `count` digits of a number in base 256, least significant first. -/
def ofNatLE : Nat → Nat → Bytes
  | 0, _ => []
  | count + 1, value => UInt8.ofNat value :: ofNatLE count (value / 256)

/-- The lowest `count` digits of a number in base 256, most significant first. -/
def ofNatBE (count value : Nat) : Bytes := (ofNatLE count value).reverse

@[simp] theorem length_ofNatLE (count value : Nat) : (ofNatLE count value).length = count := by
  induction count generalizing value with
  | zero => rfl
  | succ count ih => simp only [ofNatLE, List.length_cons, ih]

@[simp] theorem length_ofNatBE (count value : Nat) : (ofNatBE count value).length = count := by
  simp only [ofNatBE, List.length_reverse, length_ofNatLE]

/-- Bitwise exclusive or, as long as the shorter operand. -/
def xor (left right : Bytes) : Bytes := List.zipWith (· ^^^ ·) left right

/-- Collects blocks of `size` bytes; `current` is the block being filled, in reverse. -/
def blocksFrom (size : Nat) (current : Bytes) : Bytes → List Bytes
  | [] => if current.isEmpty then [] else [current.reverse]
  | byte :: rest =>
    if current.length + 1 < size then blocksFrom size (byte :: current) rest
    else (byte :: current).reverse :: blocksFrom size [] rest

/-- Cuts a byte string into blocks of `size` bytes, of which the last may be shorter. -/
def blocks (size : Nat) (bytes : Bytes) : List Bytes := blocksFrom size [] bytes

theorem flatten_blocksFrom (size : Nat) (current bytes : Bytes) :
    (blocksFrom size current bytes).flatten = current.reverse ++ bytes := by
  induction bytes generalizing current with
  | nil => cases current <;> simp [blocksFrom]
  | cons byte rest ih =>
    unfold blocksFrom
    split
    · rw [ih, List.reverse_cons, List.append_assoc, List.singleton_append]
    · rw [List.flatten_cons, ih, List.reverse_nil, List.nil_append, List.reverse_cons,
        List.append_assoc, List.singleton_append]

theorem flatten_blocks (size : Nat) (bytes : Bytes) : (blocks size bytes).flatten = bytes := by
  rw [blocks, flatten_blocksFrom, List.reverse_nil, List.nil_append]

/-- Exclusive or with a pad at least as long is undone by a second one with the same pad. -/
theorem xor_xor_cancel (data pad : Bytes) (covered : data.length ≤ pad.length) :
    xor (xor data pad) pad = data := by
  induction data generalizing pad with
  | nil => rfl
  | cons byte rest ih =>
    cases pad with
    | nil => simp at covered
    | cons mask masks =>
      have shorter : rest.length ≤ masks.length := by simpa using covered
      have tail := ih masks shorter
      simp only [xor] at tail
      simp only [xor, List.zipWith_cons_cons, tail, UInt8.xor_assoc, UInt8.xor_self, UInt8.xor_zero]

theorem length_xor (data pad : Bytes) (covered : data.length ≤ pad.length) :
    (xor data pad).length = data.length := by
  rw [xor, List.length_zipWith, Nat.min_eq_left covered]

end Bytes

def utf8 (text : String) : Bytes := text.toList.flatMap String.utf8EncodeChar

end LongPoll
