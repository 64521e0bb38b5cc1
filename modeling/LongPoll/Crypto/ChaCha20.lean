import LongPoll.Key

set_option autoImplicit false

/-!
The stream cipher ChaCha20 with a nonce of 96 bits and a counter of 32. Main statement: a key
stream is as long as asked for.
-/

namespace LongPoll.ChaCha20

structure Column where
  a : UInt32
  b : UInt32
  c : UInt32
  d : UInt32
deriving DecidableEq

/-- The state of sixteen words, column by column. -/
structure State where
  first : Column
  second : Column
  third : Column
  fourth : Column
deriving DecidableEq

def rotateLeft (word amount : UInt32) : UInt32 := word <<< amount ||| word >>> (32 - amount)

def quarterRound (x : Column) : Column :=
  let a := x.a + x.b
  let d := rotateLeft (x.d ^^^ a) 16
  let c := x.c + d
  let b := rotateLeft (x.b ^^^ c) 12
  let a := a + b
  let d := rotateLeft (d ^^^ a) 8
  let c := c + d
  ⟨a, rotateLeft (b ^^^ c) 7, c, d⟩

def columnRound (s : State) : State :=
  ⟨quarterRound s.first, quarterRound s.second, quarterRound s.third, quarterRound s.fourth⟩

def State.diagonals (s : State) : State :=
  ⟨⟨s.first.a, s.second.b, s.third.c, s.fourth.d⟩, ⟨s.second.a, s.third.b, s.fourth.c, s.first.d⟩,
    ⟨s.third.a, s.fourth.b, s.first.c, s.second.d⟩, ⟨s.fourth.a, s.first.b, s.second.c, s.third.d⟩⟩

/-- Puts diagonals back where `State.diagonals` took them from. -/
def State.ofDiagonals (s : State) : State :=
  ⟨⟨s.first.a, s.fourth.b, s.third.c, s.second.d⟩, ⟨s.second.a, s.first.b, s.fourth.c, s.third.d⟩,
    ⟨s.third.a, s.second.b, s.first.c, s.fourth.d⟩, ⟨s.fourth.a, s.third.b, s.second.c, s.first.d⟩⟩

theorem State.ofDiagonals_diagonals (s : State) : s.diagonals.ofDiagonals = s := rfl

def doubleRound (s : State) : State := (columnRound (columnRound s).diagonals).ofDiagonals

def Column.add (x y : Column) : Column := ⟨x.a + y.a, x.b + y.b, x.c + y.c, x.d + y.d⟩

def State.add (s t : State) : State :=
  ⟨s.first.add t.first, s.second.add t.second, s.third.add t.third, s.fourth.add t.fourth⟩

def State.words (s : State) : List UInt32 :=
  [s.first.a, s.second.a, s.third.a, s.fourth.a, s.first.b, s.second.b, s.third.b, s.fourth.b,
    s.first.c, s.second.c, s.third.c, s.fourth.c, s.first.d, s.second.d, s.third.d, s.fourth.d]

/-- Word `index` of a byte string, least significant byte first. -/
def wordAt (bytes : Bytes) (index : Nat) : UInt32 :=
  UInt32.ofNat (Bytes.toNatLE ((bytes.drop (4 * index)).take 4))

def start (key : Key) (nonce : Nonce) (counter : Nat) : State :=
  ⟨⟨0x61707865, wordAt key.bytes 0, wordAt key.bytes 4, UInt32.ofNat counter⟩,
    ⟨0x3320646e, wordAt key.bytes 1, wordAt key.bytes 5, wordAt nonce.bytes 0⟩,
    ⟨0x79622d32, wordAt key.bytes 2, wordAt key.bytes 6, wordAt nonce.bytes 1⟩,
    ⟨0x6b206574, wordAt key.bytes 3, wordAt key.bytes 7, wordAt nonce.bytes 2⟩⟩

/-- The 64 bytes of the key stream at a counter. -/
def block (key : Key) (nonce : Nonce) (counter : Nat) : Bytes :=
  let s := start key nonce counter
  ((Nat.repeat doubleRound 10 s).add s).words.flatMap fun word => Bytes.ofNatLE 4 word.toNat

/-- The first `count` bytes of the key stream from a counter on. -/
def keystream (key : Key) (nonce : Nonce) (counter count : Nat) : Bytes :=
  ((List.range ((count + 63) / 64)).flatMap fun index => block key nonce (counter + index)).take
    count

theorem length_block (key : Key) (nonce : Nonce) (counter : Nat) :
    (block key nonce counter).length = 64 := rfl

theorem length_blocks (key : Key) (nonce : Nonce) (counter : Nat) (indices : List Nat) :
    (indices.flatMap fun index => block key nonce (counter + index)).length
      = 64 * indices.length := by
  induction indices with
  | nil => rfl
  | cons index rest ih =>
    rw [List.flatMap_cons, List.length_append, ih, length_block, List.length_cons]
    omega

theorem length_keystream (key : Key) (nonce : Nonce) (counter count : Nat) :
    (keystream key nonce counter count).length = count := by
  rw [keystream, List.length_take, length_blocks, List.length_range]
  omega

end LongPoll.ChaCha20
