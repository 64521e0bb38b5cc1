import LongPoll.Fault
import LongPoll.Key

set_option autoImplicit false

/-!
The text form of a key: 64 hexadecimal digits. Main statement: the text of a key, with or without
a mark before it, is read back as the key.
-/

namespace LongPoll.Key

/-- A text without one hexadecimal mark at its front. -/
def dropMark : List Char → List Char
  | '0' :: 'x' :: rest => rest
  | digits => digits

/-- Reads digits of either case, after one optional mark. -/
def ofText (text : String) : Except Fault Key :=
  match Hex.decode? (dropMark text.toList) with
  | none => .error .badKey
  | some bytes =>
    match ofBytes? bytes with
    | none => .error .badKey
    | some key => .ok key

/-- The key as it is shown for inspection: its bytes in base ten. -/
def inspect (key : Key) : String :=
  "ServerPublicKey([" ++ ", ".intercalate (key.bytes.map fun byte => toString byte.toNat) ++ "])"

theorem encode_ne_mark (bytes : Bytes) (rest : List Char) :
    Hex.encode bytes ≠ '0' :: 'x' :: rest := by
  cases bytes with
  | nil => simp [Hex.encode]
  | cons byte others =>
    intro same
    have low : Hex.digit (byte.toNat % 16) = 'x' := by
      simp only [Hex.encode, List.cons.injEq] at same
      exact same.2.1
    have read := Hex.value?_digit ⟨byte.toNat % 16, by omega⟩
    rw [show (⟨byte.toNat % 16, by omega⟩ : Fin 16).val = byte.toNat % 16 from rfl, low] at read
    rw [show Hex.value? 'x' = none from by decide] at read
    cases read

theorem dropMark_encode (bytes : Bytes) : dropMark (Hex.encode bytes) = Hex.encode bytes := by
  unfold dropMark
  split
  · rename_i rest same
    exact absurd same (encode_ne_mark bytes rest)
  · rfl

theorem ofText_toHex (key : Key) : ofText key.toHex = .ok key := by
  simp only [ofText, toHex, Hex.text, String.toList_ofList, dropMark_encode, Hex.decode?_encode,
    ofBytes?_bytes]

theorem ofText_marked_toHex (key : Key) : ofText ("0x" ++ key.toHex) = .ok key := by
  have marked : ("0x" ++ key.toHex).toList = '0' :: 'x' :: Hex.encode key.bytes := by
    simp only [String.toList_append, toHex, Hex.text, String.toList_ofList]
    rfl
  simp only [ofText, marked, dropMark, Hex.decode?_encode, ofBytes?_bytes]

end LongPoll.Key
