import LongPoll.Json.Reader

set_option autoImplicit false

/-!
Reading what was printed. A value whose numbers are written as digits and whose texts are whole is
read back from its text, with whatever follows it left unread; the rest of a text that a value can
stand in begins with a comma or a closing bracket, so that it never goes on with a number.
-/

namespace LongPoll.Json

/-- A reader has read a value from the front of its text and left the rest. -/
def Reaches {α : Type} {input : List Char} (result : Option (Read α input)) (value : α)
    (rest : List Char) : Prop :=
  ∃ found, result = some found ∧ found.value = value ∧ found.rest = rest

theorem Reaches.map {α β : Type} {input outer rest : List Char} {result : Option (Read α input)}
    {value : α} (reaches : Reaches result value rest) (f : α → β)
    (longer : ∀ found : Read α input, found.rest.length < outer.length) :
    Reaches (result.map fun found => (⟨f found.value, found.rest, longer found⟩ : Read β outer))
      (f value) rest := by
  obtain ⟨found, rfl, rfl, rfl⟩ := reaches
  exact ⟨_, rfl, rfl, rfl⟩

/-! ### Strings -/

/-- How a character is written in a string. -/
inductive Escaped (c : Char) : List Char → Prop
  | short {e : Char} (unescapes : unescape? e = some c) : Escaped c ['\\', e]
  | unit (small : c.toNat < 0x20) :
      Escaped c ['\\', 'u', '0', '0', Hex.digit (c.toNat / 16), Hex.digit (c.toNat % 16)]
  | plain (unescaped : c ≠ '\\') (unquoted : c ≠ '"') (printable : 0x20 ≤ c.toNat) : Escaped c [c]

theorem escaped (c : Char) : Escaped c (escape c) := by
  have control {code : Nat} (same : c.toNat = code) : c = Char.ofNat code := by
    rw [← same]
    exact (Char.ofNat_toNat c).symm
  unfold escape
  iterate 5
    split
    · rename_i same
      exact .short (by rw [same]; rfl)
  -- The two characters that have no literal are compared by their codes.
  iterate 2
    split
    · rename_i same
      exact .short (by rw [control same]; rfl)
  split
  · rename_i small
    exact .unit small
  · rename_i unquoted unescaped _ _ _ _ _ large
    exact .plain unescaped unquoted (Nat.le_of_not_lt large)

theorem joinPieces_unit {code : Nat} (pieces : List Piece) (small : code < 0xd800) :
    joinPieces (.unit code :: pieces) = (joinPieces pieces).map (Char.ofNat code :: ·) := by
  have high : isHighSurrogate code = false := by
    simp [isHighSurrogate]
    omega
  have low : isLowSurrogate code = false := by
    simp [isLowSurrogate]
    omega
  rcases pieces with _ | ⟨piece, pieces⟩
  · simp [joinPieces, high, low]
  · cases piece <;> simp [joinPieces, high, low]

theorem Escaped.read {c : Char} {shown tail rest : List Char} {pieces : List Piece}
    (escaped : Escaped c shown) (read : readPieces tail = some (pieces, rest)) :
    ∃ piece, readPieces (shown ++ tail) = some (piece :: pieces, rest) ∧
      joinPieces (piece :: pieces) = (joinPieces pieces).map (c :: ·) := by
  cases escaped with
  | @short e unescapes =>
      refine ⟨.char c, ?_, rfl⟩
      have other : e ≠ 'u' := by
        rintro rfl
        cases unescapes
      simp [readPieces, other, unescapes, read]
  | unit small =>
      refine ⟨.unit c.toNat, ?_, ?_⟩
      · have zero : Hex.value? '0' = some 0 := rfl
        have high := Hex.value?_digit ⟨c.toNat / 16, by omega⟩
        have low := Hex.value?_digit ⟨c.toNat % 16, by omega⟩
        have code : unit? '0' '0' (Hex.digit (c.toNat / 16)) (Hex.digit (c.toNat % 16)) =
            some c.toNat := by
          simp only [unit?, zero, high, low, Option.some.injEq]
          omega
        simp [readPieces, code, read]
      · rw [joinPieces_unit pieces (by omega), Char.ofNat_toNat]
  | plain unescaped unquoted printable =>
      refine ⟨.char c, ?_, rfl⟩
      have large : ¬ c.toNat < 32 := by omega
      simp [readPieces, unescaped, large, read]

theorem readPieces_escape (text rest : List Char) :
    ∃ pieces, readPieces (text.flatMap escape ++ '"' :: rest) = some (pieces, rest) ∧
      joinPieces pieces = some text := by
  induction text with
  | nil => exact ⟨[], rfl, rfl⟩
  | cons c text ih =>
      obtain ⟨pieces, read, joined⟩ := ih
      obtain ⟨piece, next, added⟩ := (escaped c).read read
      refine ⟨piece :: pieces, ?_, ?_⟩
      · rw [List.flatMap_cons, List.append_assoc]
        exact next
      · rw [added, joined]
        rfl

/-- The text of a string, and what follows it. -/
theorem printText_append (text : String) (rest : List Char) :
    printText (some text) ++ rest = '"' :: (text.toList.flatMap escape ++ '"' :: rest) := by
  change '"' :: (text.toList.flatMap escape ++ ['"'] ++ rest) = _
  rw [List.append_assoc, List.singleton_append]

theorem reaches_readText (text : String) (rest : List Char) :
    Reaches (readText (text.toList.flatMap escape ++ '"' :: rest)) (some text) rest := by
  obtain ⟨pieces, read, joined⟩ := readPieces_escape text.toList rest
  unfold readText
  split
  · rename_i found after same
    rw [read] at same
    cases same
    refine ⟨_, rfl, ?_, rfl⟩
    simp only [joined, Option.map_some, String.ofList_toList]
  · rename_i missing
    rw [read] at missing
    cases missing

/-! ### Numbers -/

/-- What can follow a value: nothing, a comma or a closing bracket. -/
def Ends (rest : List Char) : Prop :=
  ∀ c tail, rest = c :: tail → c = ',' ∨ c = ']' ∨ c = '\x7d'

theorem Ends.nil : Ends [] := by
  intro c tail impossible
  cases impossible

theorem Ends.cons {c : Char} {tail : List Char} (closes : c = ',' ∨ c = ']' ∨ c = '\x7d') :
    Ends (c :: tail) := by
  intro other rest same
  cases same
  exact closes

theorem takeDigits?_append {digits rest : List Char} (ends : Ends rest) (some_digit : digits ≠ [])
    (decimal : ∀ c ∈ digits, c.isDigit = true) :
    takeDigits? (digits ++ rest) = some (digits, rest) := by
  have stops : rest.takeWhile Char.isDigit = [] := by
    cases rest with
    | nil => rfl
    | cons c tail =>
        rcases ends c tail rfl with rfl | rfl | rfl <;> rfl
  have taken : (digits ++ rest).takeWhile Char.isDigit = digits := by
    rw [List.takeWhile_append_of_pos decimal, stops, List.append_nil]
  have nonempty : digits.isEmpty = false := List.isEmpty_eq_false_iff.mpr some_digit
  unfold takeDigits?
  simp [taken, nonempty]

/-- Only zero is written with a zero in front. -/
theorem toDigits_head {n : Nat} (positive : 0 < n) :
    ∃ d tail, Nat.toDigits 10 n = d :: tail ∧ d ≠ '0' := by
  induction n using Nat.strongRecOn with
  | ind n ih =>
      by_cases small : n < 10
      · refine ⟨n.digitChar, [], Nat.toDigits_of_lt_base small, ?_⟩
        intro zero
        have same := Nat.digitChar_eq_zero.mp zero
        omega
      · obtain ⟨d, tail, digits, nonzero⟩ := ih (n / 10) (by omega) (by omega)
        refine ⟨d, tail ++ [Nat.digitChar (n % 10)], ?_, nonzero⟩
        rw [Nat.toDigits_of_base_le (by decide) (by omega), digits]
        rfl

theorem isDigit_toDigits {n : Nat} {c : Char} (member : c ∈ Nat.toDigits 10 n) :
    c.isDigit = true :=
  Nat.isDigit_of_mem_toDigits (by decide) (by decide) member

theorem toDigits_cons (n : Nat) : ∃ d tail, Nat.toDigits 10 n = d :: tail ∧ d.isDigit = true := by
  cases digits : Nat.toDigits 10 n with
  | nil => exact absurd digits Nat.toDigits_ne_nil
  | cons d tail => exact ⟨d, tail, rfl, isDigit_toDigits (digits ▸ List.mem_cons_self)⟩

theorem takeInteger?_toDigits (n : Nat) {rest : List Char} (ends : Ends rest) :
    takeInteger? (Nat.toDigits 10 n ++ rest) = some (Nat.toDigits 10 n, rest) := by
  rcases Nat.eq_zero_or_pos n with rfl | positive
  · rw [Nat.toDigits_zero]
    unfold takeInteger?
    cases rest with
    | nil => rfl
    | cons c tail =>
        rcases ends c tail rfl with rfl | rfl | rfl <;> rfl
  · obtain ⟨d, tail, digits, nonzero⟩ := toDigits_head positive
    have taken : takeDigits? (Nat.toDigits 10 n ++ rest) = some (Nat.toDigits 10 n, rest) :=
      takeDigits?_append ends Nat.toDigits_ne_nil fun c => isDigit_toDigits
    rw [digits] at taken ⊢
    unfold takeInteger?
    split
    · rename_i impossible
      cases impossible
      exact absurd rfl nonzero
    · exact taken

theorem takeFraction?_ends {rest : List Char} (ends : Ends rest) :
    takeFraction? rest = some ([], rest) := by
  cases rest with
  | nil => rfl
  | cons c tail => rcases ends c tail rfl with rfl | rfl | rfl <;> rfl

theorem takeExponent?_ends {rest : List Char} (ends : Ends rest) :
    takeExponent? rest = some ([], rest) := by
  cases rest with
  | nil => rfl
  | cons c tail => rcases ends c tail rfl with rfl | rfl | rfl <;> rfl

theorem takeNumber?_toDigits (n : Nat) {rest : List Char} (ends : Ends rest) :
    takeNumber? (Nat.toDigits 10 n ++ rest) = some (Nat.toDigits 10 n) := by
  have integer := takeInteger?_toDigits n ends
  unfold takeNumber?
  split
  · rename_i sign after split
    split at split
    · rename_i tail negative
      obtain ⟨d, others, digits, decimal⟩ := toDigits_cons n
      rw [digits] at negative
      cases negative
      cases decimal
    · cases split
      simp [integer, takeFraction?_ends ends, takeExponent?_ends ends]

/-- A lexeme is read if it stands in front, and is not if its first character does not. -/
theorem reaches_readLexeme {α : Type} {c : Char} {lexeme : List Char} (value : α)
    (rest : List Char) :
    Reaches (readLexeme (c :: lexeme) value (c :: lexeme ++ rest)) value rest := by
  have bounds : c :: lexeme ≠ [] ∧ (c :: lexeme).isPrefixOf (c :: lexeme ++ rest) = true ∧
      c :: lexeme ++ rest ≠ [] :=
    ⟨List.cons_ne_nil _ _, List.isPrefixOf_iff_prefix.mpr (List.prefix_append _ _),
      List.cons_ne_nil _ _⟩
  unfold readLexeme
  rw [dif_pos bounds]
  exact ⟨_, rfl, rfl, List.drop_left⟩

theorem readLexeme_eq_none {α : Type} {c d : Char} {lexeme rest : List Char} (value : α)
    (different : c ≠ d) : readLexeme (c :: lexeme) value (d :: rest) = none := by
  unfold readLexeme
  rw [dif_neg]
  rintro ⟨_, front, _⟩
  obtain ⟨same, _⟩ := List.cons_prefix_cons.mp (List.isPrefixOf_iff_prefix.mp front)
  exact different same

theorem reaches_readScalar_number (n : Nat) {rest : List Char} (ends : Ends rest) :
    Reaches (readScalar (Nat.toDigits 10 n ++ rest)) (.ofNat n) rest := by
  have number := takeNumber?_toDigits n ends
  have shown : Value.ofNat n = .number (String.ofList (Nat.toDigits 10 n)) := by
    unfold Value.ofNat
    rw [Nat.toString_eq_ofList_toDigits]
  obtain ⟨d, tail, digits, decimal⟩ := toDigits_cons n
  have other {c : Char} (letter : c.isDigit = false) : c ≠ d := by
    rintro rfl
    rw [decimal] at letter
    cases letter
  rw [digits] at number shown
  unfold readScalar
  rw [digits, show "null".toList = 'n' :: ['u', 'l', 'l'] from rfl,
    show "true".toList = 't' :: ['r', 'u', 'e'] from rfl,
    show "false".toList = 'f' :: ['a', 'l', 's', 'e'] from rfl, List.cons_append,
    readLexeme_eq_none _ (other rfl), readLexeme_eq_none _ (other rfl),
    readLexeme_eq_none _ (other rfl)]
  rw [← List.cons_append, number, shown]
  exact reaches_readLexeme _ _

theorem reaches_readScalar_bool (flag : Bool) (rest : List Char) :
    Reaches (readScalar ((Value.bool flag).print ++ rest)) (.bool flag) rest := by
  cases flag with
  | true => exact reaches_readLexeme _ rest
  | false => exact reaches_readLexeme _ rest

/-! ### Values -/

/-- Values whose numbers are natural and whose texts, names of members among them, are whole. -/
inductive Plain : Value → Prop
  | bool (flag : Bool) : Plain (.bool flag)
  | ofNat (n : Nat) : Plain (.ofNat n)
  | ofText (text : String) : Plain (.ofText text)
  | array {items : List Value} (each : ∀ item ∈ items, Plain item) : Plain (.array items)
  | object {members : List (Text × Value)}
      (named : ∀ member ∈ members, ∃ name, member.1 = some name)
      (each : ∀ member ∈ members, Plain member.2) : Plain (.object members)

/-- The first character of a value is no blank and no closing bracket. -/
theorem Plain.print_head {value : Value} (plain : Plain value) :
    ∃ c tail, value.print = c :: tail ∧ isBlank c = false ∧ c ≠ ']' := by
  cases plain with
  | bool flag => cases flag <;> exact ⟨_, _, rfl, rfl, by decide⟩
  | ofNat n =>
      obtain ⟨d, tail, digits, decimal⟩ := toDigits_cons n
      refine ⟨d, tail, ?_, ?_, ?_⟩
      · rw [← digits]
        exact Nat.toList_repr
      · apply Bool.eq_false_iff.mpr
        intro blank
        simp only [isBlank, Bool.or_eq_true, decide_eq_true_eq] at blank
        rcases blank with ((rfl | rfl) | rfl) | rfl <;> cases decimal
      · rintro rfl
        cases decimal
  | ofText text => exact ⟨_, _, rfl, rfl, by decide⟩
  | array each => exact ⟨_, _, rfl, rfl, by decide⟩
  | object named each => exact ⟨_, _, rfl, rfl, by decide⟩

theorem skipBlanks_cons {c : Char} {rest : List Char} (shown : isBlank c = false) :
    skipBlanks (c :: rest) = c :: rest := by
  unfold skipBlanks
  rw [List.dropWhile_cons_of_neg (by rw [shown]; decide)]

section Readers

variable {input rest : List Char}

theorem reaches_readValue_text {text : Text} (read : Reaches (readText input) text rest) :
    Reaches (readValue ('"' :: input)) (.string text) rest := by
  rw [readValue]
  split
  · rename_i start
    cases (skipBlanks_cons rfl).symm.trans start
  · rename_i c tail start
    cases (skipBlanks_cons rfl).symm.trans start
    rw [if_pos rfl]
    exact read.map Value.string _

theorem reaches_readValue_array {items : List Value}
    (read : Reaches (readItems true input) items rest) :
    Reaches (readValue ('[' :: input)) (.array items) rest := by
  rw [readValue]
  split
  · rename_i start
    cases (skipBlanks_cons rfl).symm.trans start
  · rename_i c tail start
    cases (skipBlanks_cons rfl).symm.trans start
    rw [if_neg (by decide), if_pos rfl]
    exact read.map Value.array _

theorem reaches_readValue_object {members : List (Text × Value)}
    (read : Reaches (readMembers true input) members rest) :
    Reaches (readValue ('\x7b' :: input)) (.object members) rest := by
  rw [readValue]
  split
  · rename_i start
    cases (skipBlanks_cons rfl).symm.trans start
  · rename_i c tail start
    cases (skipBlanks_cons rfl).symm.trans start
    rw [if_neg (by decide), if_neg (by decide), if_pos rfl]
    exact read.map Value.object _

theorem reaches_readValue_scalar {c : Char} {value : Value} (shown : isBlank c = false)
    (other : c ≠ '"' ∧ c ≠ '[' ∧ c ≠ '\x7b') (read : Reaches (readScalar (c :: input)) value rest) :
    Reaches (readValue (c :: input)) value rest := by
  rw [readValue]
  split
  · rename_i start
    cases (skipBlanks_cons shown).symm.trans start
  · rename_i d tail start
    cases (skipBlanks_cons shown).symm.trans start
    rw [if_neg other.1, if_neg other.2.1, if_neg other.2.2]
    exact read.map id _

/-- An item, and the end of the array or the items after a comma. -/
theorem reaches_readItems {first : Bool} {value : Value} {items : List Value} {c : Char}
    {tail after : List Char} (starts : input = c :: tail) (shown : isBlank c = false)
    (inside : c ≠ ']') (read : Reaches (readValue input) value after)
    (others : (after = ']' :: rest ∧ items = []) ∨
      ∃ next, after = ',' :: next ∧ Reaches (readItems false next) items rest) :
    Reaches (readItems first input) (value :: items) rest := by
  obtain ⟨item, found, rfl, left⟩ := read
  subst starts
  rw [readItems]
  split
  · rename_i closing start
    cases (skipBlanks_cons shown).symm.trans start
    exact absurd rfl inside
  · rw [found]
    simp only
    rcases others with ⟨rfl, rfl⟩ | ⟨next, rfl, others⟩
    · split
      · rename_i closed
        rw [left] at closed
        cases (skipBlanks_cons rfl).symm.trans closed
        exact ⟨_, rfl, rfl, rfl⟩
      · rename_i comma
        rw [left] at comma
        cases (skipBlanks_cons rfl).symm.trans comma
      · rename_i unclosed _
        exact (unclosed rest (by rw [left, skipBlanks_cons rfl])).elim
    · split
      · rename_i closed
        rw [left] at closed
        cases (skipBlanks_cons rfl).symm.trans closed
      · rename_i comma
        rw [left] at comma
        cases (skipBlanks_cons rfl).symm.trans comma
        exact others.map (item.value :: ·) _
      · rename_i unseparated
        exact (unseparated next (by rw [left, skipBlanks_cons rfl])).elim

/-- A member, and the end of the object or the members after a comma. -/
theorem reaches_readMembers {first : Bool} {name : Text} {value : Value}
    {members : List (Text × Value)} {tail after : List Char}
    (named : Reaches (readText input) name (':' :: tail))
    (read : Reaches (readValue tail) value after)
    (others : (after = '\x7d' :: rest ∧ members = []) ∨
      ∃ next, after = ',' :: next ∧ Reaches (readMembers false next) members rest) :
    Reaches (readMembers first ('"' :: input)) ((name, value) :: members) rest := by
  obtain ⟨text, shown, rfl, colon⟩ := named
  obtain ⟨item, found, rfl, left⟩ := read
  rw [readMembers]
  split
  · rename_i closing start
    cases (skipBlanks_cons rfl).symm.trans start
  · rename_i inside start
    cases (skipBlanks_cons rfl).symm.trans start
    rw [shown]
    simp only
    split
    · rename_i behind
      rw [colon] at behind
      cases (skipBlanks_cons rfl).symm.trans behind
      rw [found]
      simp only
      rcases others with ⟨rfl, rfl⟩ | ⟨next, rfl, others⟩
      · split
        · rename_i closed
          rw [left] at closed
          cases (skipBlanks_cons rfl).symm.trans closed
          exact ⟨_, rfl, rfl, rfl⟩
        · rename_i comma
          rw [left] at comma
          cases (skipBlanks_cons rfl).symm.trans comma
        · rename_i unclosed _
          exact (unclosed rest (by rw [left, skipBlanks_cons rfl])).elim
      · split
        · rename_i closed
          rw [left] at closed
          cases (skipBlanks_cons rfl).symm.trans closed
        · rename_i comma
          rw [left] at comma
          cases (skipBlanks_cons rfl).symm.trans comma
          exact others.map ((text.value, item.value) :: ·) _
        · rename_i unseparated
          exact (unseparated next (by rw [left, skipBlanks_cons rfl])).elim
    · rename_i unnamed
      exact (unnamed tail (by rw [colon, skipBlanks_cons rfl])).elim
  · rename_i unquoted
    exact (unquoted input (skipBlanks_cons rfl)).elim

end Readers

/-- Items that are each read back are read back from the text of their array. -/
theorem reaches_readItems_print {items : List Value} (each : ∀ item ∈ items, Plain item)
    (read : ∀ item ∈ items, ∀ rest, Ends rest → Reaches (readValue (item.print ++ rest)) item rest)
    (rest : List Char) : Reaches (readItems true (printItems items ++ rest)) items rest := by
  -- Behind a comma the reader is not at the first place any more: the induction is on both.
  have others (first : Bool) (some_item : items ≠ []) :
      Reaches (readItems first (printItems items ++ rest)) items rest := by
    induction items generalizing first with
    | nil => exact absurd rfl some_item
    | cons item items ih =>
        obtain ⟨c, tail, starts, shown, inside⟩ := (each item List.mem_cons_self).print_head
        have front (after : List Char) (ends : Ends after) :=
          read item List.mem_cons_self after ends
        cases items with
        | nil =>
            rw [printItems, List.append_assoc]
            exact reaches_readItems (c := c) (by rw [starts]; rfl) shown inside
              (front _ (.cons (.inr (.inl rfl)))) (.inl ⟨rfl, rfl⟩)
        | cons next items =>
            rw [printItems, List.append_assoc]
            refine reaches_readItems (c := c) (by rw [starts]; rfl) shown inside
              (front _ (.cons (.inl rfl))) (.inr ⟨_, rfl, ih ?_ ?_ false (List.cons_ne_nil _ _)⟩)
            · exact fun item member => each item (List.mem_cons_of_mem _ member)
            · exact fun item member => read item (List.mem_cons_of_mem _ member)
  cases items with
  | nil =>
      rw [readItems]
      split
      · rename_i after start
        cases (skipBlanks_cons rfl).symm.trans start
        exact ⟨_, rfl, rfl, rfl⟩
      · rename_i unclosed
        exact (unclosed rest (skipBlanks_cons rfl)).elim
  | cons item items => exact others true (List.cons_ne_nil _ _)

/-- Members that are each read back are read back from the text of their object. -/
theorem reaches_readMembers_print {members : List (Text × Value)}
    (named : ∀ member ∈ members, ∃ name, member.1 = some name)
    (read : ∀ member ∈ members, ∀ rest, Ends rest →
      Reaches (readValue (member.2.print ++ rest)) member.2 rest)
    (rest : List Char) :
    Reaches (readMembers true (printMembers members ++ rest)) members rest := by
  have others (first : Bool) (some_member : members ≠ []) :
      Reaches (readMembers first (printMembers members ++ rest)) members rest := by
    induction members generalizing first with
    | nil => exact absurd rfl some_member
    | cons member members ih =>
        obtain ⟨text, value⟩ := member
        obtain ⟨name, rfl⟩ := named _ List.mem_cons_self
        have front (after : List Char) (ends : Ends after) :=
          read _ List.mem_cons_self after ends
        cases members with
        | nil =>
            have print : printMembers [(some name, value)] ++ rest =
                '"' :: (name.toList.flatMap escape ++ '"' :: ':' ::
                  (value.print ++ '\x7d' :: rest)) := by
              rw [printMembers, List.append_assoc, printText_append]
              simp only [List.cons_append, List.append_assoc, List.nil_append]
            rw [print]
            exact reaches_readMembers (reaches_readText name _)
              (front _ (.cons (.inr (.inr rfl)))) (.inl ⟨rfl, rfl⟩)
        | cons next members =>
            have print : printMembers ((some name, value) :: next :: members) ++ rest =
                '"' :: (name.toList.flatMap escape ++ '"' :: ':' ::
                  (value.print ++ ',' :: (printMembers (next :: members) ++ rest))) := by
              rw [printMembers, List.append_assoc, printText_append]
              simp only [List.cons_append, List.append_assoc]
            rw [print]
            refine reaches_readMembers (reaches_readText name _) (front _ (.cons (.inl rfl)))
              (.inr ⟨_, rfl, ih ?_ ?_ false (List.cons_ne_nil _ _)⟩)
            · exact fun member present => named member (List.mem_cons_of_mem _ present)
            · exact fun member present => read member (List.mem_cons_of_mem _ present)
  cases members with
  | nil =>
      rw [readMembers]
      split
      · rename_i after start
        cases (skipBlanks_cons rfl).symm.trans start
        exact ⟨_, rfl, rfl, rfl⟩
      · rename_i start
        cases (skipBlanks_cons rfl).symm.trans start
      · rename_i unclosed _
        exact (unclosed rest (skipBlanks_cons rfl)).elim
  | cons member members => exact others true (List.cons_ne_nil _ _)

theorem Plain.reaches_readValue {value : Value} (plain : Plain value) :
    ∀ rest, Ends rest → Reaches (readValue (value.print ++ rest)) value rest := by
  induction plain with
  | bool flag =>
      intro rest ends
      have read := reaches_readScalar_bool flag rest
      cases flag with
      | true => exact reaches_readValue_scalar rfl (by decide) read
      | false => exact reaches_readValue_scalar rfl (by decide) read
  | ofNat n =>
      intro rest ends
      have read := reaches_readScalar_number n ends
      have print : (Value.ofNat n).print = Nat.toDigits 10 n := Nat.toList_repr
      rw [print]
      obtain ⟨d, tail, digits, decimal⟩ := toDigits_cons n
      obtain ⟨c, others, starts, shown, -⟩ := (Plain.ofNat n).print_head
      rw [print, digits] at starts
      cases starts
      rw [digits] at read ⊢
      refine reaches_readValue_scalar shown ⟨?_, ?_, ?_⟩ read
      all_goals
        rintro rfl
        cases decimal
  | ofText text =>
      intro rest ends
      change Reaches (readValue (printText (some text) ++ rest)) _ rest
      rw [printText_append]
      exact reaches_readValue_text (reaches_readText text rest)
  | @array items each ih =>
      intro rest ends
      change Reaches (readValue ('[' :: (printItems items ++ rest))) _ rest
      exact reaches_readValue_array (reaches_readItems_print each ih rest)
  | @object members named each ih =>
      intro rest ends
      change Reaches (readValue ('\x7b' :: (printMembers members ++ rest))) _ rest
      exact reaches_readValue_object (reaches_readMembers_print named ih rest)

/-- A plain value is read back from its text. -/
theorem Plain.parse?_text {value : Value} (plain : Plain value) :
    parse? value.text = some value := by
  have reaches := plain.reaches_readValue [] .nil
  rw [List.append_nil, ← String.toList_ofList (l := value.print)] at reaches
  obtain ⟨found, read, same, rest⟩ := reaches
  have ends : (skipBlanks found.rest).isEmpty = true := by
    rw [rest]
    rfl
  unfold parse? Value.text
  rw [read]
  exact (if_pos ends).trans (congrArg some same)

end LongPoll.Json
