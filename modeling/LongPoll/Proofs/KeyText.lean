import LongPoll.Key.Text
import Mathlib.Data.List.Basic
import Mathlib.Data.List.Induction

set_option autoImplicit false

/-!
The text form of a key, read exactly. Reading takes no account of the case of a digit, and writing
uses the lower one. So digits denote those bytes whose written form is the digits in lower case, and
they denote some bytes exactly if they come in pairs and are all hexadecimal.
-/

namespace LongPoll

namespace Hex

/-- A hexadecimal digit of either case. -/
def IsDigit (c : Char) : Prop :=
  ('0' ≤ c ∧ c ≤ '9') ∨ ('a' ≤ c ∧ c ≤ 'f') ∨ ('A' ≤ c ∧ c ≤ 'F')

instance (c : Char) : Decidable (IsDigit c) := inferInstanceAs (Decidable (_ ∨ _))

theorem exists_value?_iff {c : Char} : (∃ value, value? c = some value) ↔ IsDigit c := by
  unfold value? IsDigit
  by_cases decimal : '0' ≤ c ∧ c ≤ '9'
  · simp [decimal]
  · by_cases lower : 'a' ≤ c ∧ c ≤ 'f'
    · simp [decimal, lower]
    · simp [decimal, lower]

/-! ### Case -/

theorem of_ascii (holds : Char → Prop) (each : ∀ code : Fin 128, holds (Char.ofNat code))
    {c : Char} (ascii : c.toNat < 128) : holds c := by
  have own := each ⟨c.toNat, ascii⟩
  rwa [Char.ofNat_toNat] at own

theorem toLower_of_not_ascii {c : Char} (beyond : 128 ≤ c.toNat) : c.toLower = c := by
  unfold Char.toLower
  rw [dif_neg]
  rintro ⟨-, upper⟩
  have bound : c.toNat ≤ 90 := upper
  omega

theorem value?_of_not_ascii {c : Char} (beyond : 128 ≤ c.toNat) : value? c = none := by
  have above {limit : Char} (small : limit.toNat < 128) : ¬ c ≤ limit := by
    intro within
    have bound : c.toNat ≤ limit.toNat := within
    omega
  unfold value?
  rw [if_neg fun range => above (by decide) range.2, if_neg fun range => above (by decide) range.2,
    if_neg fun range => above (by decide) range.2]

theorem value?_toLower (c : Char) : value? c.toLower = value? c := by
  by_cases ascii : c.toNat < 128
  · exact of_ascii (fun c => value? c.toLower = value? c) (by decide) ascii
  · rw [toLower_of_not_ascii (Nat.le_of_not_lt ascii)]

/-- What a digit denotes is written as the digit in lower case. -/
theorem digit_of_value? {c : Char} {value : Nat} (read : value? c = some value) :
    value < 16 ∧ digit value = c.toLower := by
  -- Only an ASCII character denotes anything, which leaves finitely many to look at.
  have ascii : c.toNat < 128 := by
    apply Nat.lt_of_not_le
    intro beyond
    rw [value?_of_not_ascii beyond] at read
    cases read
  have all : (value? c).all fun value => value < 16 ∧ digit value = c.toLower :=
    of_ascii (fun c => (value? c).all fun value => value < 16 ∧ digit value = c.toLower)
      (by decide) ascii
  rw [read] at all
  exact of_decide_eq_true all

/-! ### Pairs of digits -/

theorem length_encode (bytes : Bytes) : (encode bytes).length = 2 * bytes.length := by
  induction bytes with
  | nil => rfl
  | cons byte rest ih =>
      simp only [encode, List.length_cons, ih]
      omega

theorem decode?_pair {high low : Char} {rest : List Char} {bytes : Bytes} :
    decode? (high :: low :: rest) = some bytes ↔
      ∃ h l others, value? high = some h ∧ value? low = some l ∧ decode? rest = some others ∧
        bytes = UInt8.ofNat (16 * h + l) :: others := by
  rw [decode?]
  constructor
  · intro read
    split at read
    · rename_i h l others first second remaining
      exact ⟨h, l, others, first, second, remaining, (Option.some.inj read).symm⟩
    · cases read
  · rintro ⟨h, l, others, first, second, remaining, rfl⟩
    simp only [first, second, remaining]

theorem decode?_map_toLower (digits : List Char) :
    decode? (digits.map Char.toLower) = decode? digits := by
  induction digits using List.twoStepInduction with
  | nil => rfl
  | singleton digit => rfl
  | cons_cons high low rest ih _ => simp only [List.map_cons, decode?, value?_toLower, ih]

theorem encode_of_decode? {digits : List Char} {bytes : Bytes}
    (read : decode? digits = some bytes) : encode bytes = digits.map Char.toLower := by
  induction digits using List.twoStepInduction generalizing bytes with
  | nil =>
      cases read
      rfl
  | singleton digit => cases read
  | cons_cons high low rest ih _ =>
      obtain ⟨h, l, others, first, second, remaining, rfl⟩ := decode?_pair.mp read
      obtain ⟨highBound, highDigit⟩ := digit_of_value? first
      obtain ⟨lowBound, lowDigit⟩ := digit_of_value? second
      have whole : (UInt8.ofNat (16 * h + l)).toNat = 16 * h + l :=
        UInt8.toNat_ofNat_of_lt' (by change 16 * h + l < 256; omega)
      have upper : (16 * h + l) / 16 = h := by omega
      have lower : (16 * h + l) % 16 = l := by omega
      rw [encode, whole, upper, lower, highDigit, lowDigit, ih remaining]
      rfl

/-- Digits denote the bytes whose written form they are in lower case. -/
theorem decode?_eq_some_iff {digits : List Char} {bytes : Bytes} :
    decode? digits = some bytes ↔ encode bytes = digits.map Char.toLower := by
  constructor
  · exact encode_of_decode?
  · intro written
    -- In lower case the digits denote the same, and there they are what is read back.
    rw [← decode?_map_toLower, ← written, decode?_encode]

theorem length_of_decode? {digits : List Char} {bytes : Bytes}
    (read : decode? digits = some bytes) : digits.length = 2 * bytes.length := by
  rw [← length_encode, encode_of_decode? read, List.length_map]

theorem exists_decode?_iff {digits : List Char} : (∃ bytes, decode? digits = some bytes) ↔
    digits.length % 2 = 0 ∧ ∀ c ∈ digits, IsDigit c := by
  induction digits using List.twoStepInduction with
  | nil => exact ⟨fun _ => ⟨rfl, by simp⟩, fun _ => ⟨[], rfl⟩⟩
  | singleton digit =>
      constructor
      · rintro ⟨bytes, read⟩
        cases read
      · rintro ⟨even, -⟩
        cases even
  | cons_cons high low rest ih _ =>
      have shift : (high :: low :: rest).length % 2 = rest.length % 2 := by
        simp only [List.length_cons]
        omega
      rw [shift, List.forall_mem_cons, List.forall_mem_cons, ← exists_value?_iff,
        ← exists_value?_iff]
      constructor
      · rintro ⟨bytes, read⟩
        obtain ⟨h, l, others, first, second, remaining, -⟩ := decode?_pair.mp read
        obtain ⟨even, hexadecimal⟩ := ih.mp ⟨others, remaining⟩
        exact ⟨even, ⟨h, first⟩, ⟨l, second⟩, hexadecimal⟩
      · rintro ⟨even, ⟨h, first⟩, ⟨l, second⟩, hexadecimal⟩
        obtain ⟨others, remaining⟩ := ih.mpr ⟨even, hexadecimal⟩
        exact ⟨_, decode?_pair.mpr ⟨h, l, others, first, second, remaining, rfl⟩⟩

end Hex

namespace Key

/-- A text without the hexadecimal mark that it begins with, if it begins with one. -/
def unmarked (text : String) : List Char :=
  (text.toList.dropPrefix? ['0', 'x']).getD text.toList

/-- Exactly 64 hexadecimal digits. -/
structure Spelled (digits : List Char) : Prop where
  length : digits.length = 64
  hexadecimal : ∀ c ∈ digits, Hex.IsDigit c

theorem dropMark_eq_unmarked (text : String) : dropMark text.toList = unmarked text := by
  unfold dropMark unmarked
  split
  · rename_i rest marked
    have cut : text.toList.dropPrefix? ['0', 'x'] = some rest := by
      rw [marked]
      exact List.dropPrefix?_append_of_beq rest (beq_self_eq_true ['0', 'x'])
    rw [cut, Option.getD_some]
  · rename_i other
    cases cut : text.toList.dropPrefix? ['0', 'x'] with
    | none => rfl
    | some rest =>
        obtain ⟨mark, whole, same⟩ := List.dropPrefix?_eq_some_iff.mp cut
        rw [eq_of_beq same] at whole
        exact absurd whole (other rest)

theorem ofText_eq_ok_iff {text : String} {key : Key} :
    ofText text = .ok key ↔ Hex.decode? (unmarked text) = some key.bytes := by
  unfold ofText
  rw [dropMark_eq_unmarked]
  constructor
  · intro read
    split at read
    · cases read
    · rename_i bytes decoded
      split at read
      · cases read
      · rename_i own sized
        cases read
        rw [decoded, ofBytes?_eq_some_iff.mp sized]
  · intro decoded
    simp only [decoded, ofBytes?_bytes]

theorem ofText_eq_ok_or (text : String) :
    (∃ key, ofText text = .ok key) ∨ ofText text = .error .badKey := by
  unfold ofText
  split
  · exact .inr rfl
  · split
    · exact .inr rfl
    · exact .inl ⟨_, rfl⟩

theorem exists_ofText_iff {text : String} :
    (∃ key, ofText text = .ok key) ↔ Spelled (unmarked text) := by
  constructor
  · rintro ⟨key, read⟩
    have decoded := ofText_eq_ok_iff.mp read
    refine ⟨?_, (Hex.exists_decode?_iff.mp ⟨_, decoded⟩).2⟩
    rw [Hex.length_of_decode? decoded, key.size]
  · intro spelled
    have even : (unmarked text).length % 2 = 0 := by rw [spelled.length]
    obtain ⟨bytes, decoded⟩ := Hex.exists_decode?_iff.mpr ⟨even, spelled.hexadecimal⟩
    have size : bytes.length = 32 := by
      have length := Hex.length_of_decode? decoded
      rw [spelled.length] at length
      omega
    exact ⟨⟨bytes, size⟩, ofText_eq_ok_iff.mpr decoded⟩

theorem toHex_eq_iff {key : Key} {digits : List Char} :
    key.toHex = String.ofList (digits.map Char.toLower) ↔
      Hex.decode? digits = some key.bytes := by
  rw [Hex.decode?_eq_some_iff]
  exact String.ofList_inj

/-- The text of a key is read exactly. A key is read back from what is displayed for it, with or
without a mark. A text is read exactly if it is 64 hexadecimal digits of either case after at most
one mark, and then as the key for which these digits are displayed in lower case. Any other text is
refused as no key. -/
theorem ofText_iff_spelled :
    (∀ key : Key, ofText key.toHex = .ok key ∧ ofText ("0x" ++ key.toHex) = .ok key) ∧
    ∀ text : String,
      ((∃ key, ofText text = .ok key) ↔ Spelled (unmarked text)) ∧
      (∀ key, ofText text = .ok key ↔
        key.toHex = String.ofList ((unmarked text).map Char.toLower)) ∧
      (ofText text = .error .badKey ↔ ¬ Spelled (unmarked text)) := by
  refine ⟨fun key => ⟨ofText_toHex key, ofText_marked_toHex key⟩, ?_⟩
  intro text
  refine ⟨exists_ofText_iff, fun _ => ofText_eq_ok_iff.trans toHex_eq_iff.symm, ?_⟩
  constructor
  · intro refused spelled
    obtain ⟨key, read⟩ := exists_ofText_iff.mpr spelled
    rw [refused] at read
    cases read
  · intro other
    exact (ofText_eq_ok_or text).resolve_left fun read => other (exists_ofText_iff.mp read)

/-- The mark is in lower case, and there is one at most. -/
example : ofText ("0X" ++ (uniform 171).toHex) = .error .badKey ∧
    ofText ("0x0x" ++ (uniform 171).toHex) = .error .badKey := by
  decide +kernel

end Key
end LongPoll
