import LongPoll.Json.Value

set_option autoImplicit false

/-!
Reading JSON. The text has to be one value with blanks around it at most, in the strict grammar:
no comma after a last item, no zero before another digit, no bare control character in a string.
Every reader returns a shorter text, which is why reading ends.
-/

namespace LongPoll.Json

/-- Something read from the front of a text, and the shorter text that follows it. -/
structure Read (α : Type) (input : List Char) where
  value : α
  rest : List Char
  shorter : rest.length < input.length

def isBlank (c : Char) : Bool := c = ' ' || c = '\t' || c = '\n' || c = '\r'

def skipBlanks (input : List Char) : List Char := input.dropWhile isBlank

theorem length_skipBlanks_le (input : List Char) : (skipBlanks input).length ≤ input.length :=
  (List.dropWhile_sublist isBlank).length_le

theorem shorter_of_skipBlanks {input rest : List Char} {c : Char}
    (found : skipBlanks input = c :: rest) : rest.length < input.length := by
  have bound := length_skipBlanks_le input
  rw [found, List.length_cons] at bound
  exact bound

/-! ## Strings -/

/-- A part of a string: a character, or a code unit given by its number. -/
inductive Piece
  | char (c : Char)
  | unit (code : Nat)
deriving DecidableEq, Repr

/-- The character after a backslash, other than for a code unit. -/
def unescape? (c : Char) : Option Char :=
  if c = '"' ∨ c = '\\' ∨ c = '/' then some c
  else if c = 'b' then some (Char.ofNat 8)
  else if c = 'f' then some (Char.ofNat 12)
  else if c = 'n' then some '\n'
  else if c = 'r' then some '\r'
  else if c = 't' then some '\t'
  else none

def unit? (a b c d : Char) : Option Nat :=
  match Hex.value? a, Hex.value? b, Hex.value? c, Hex.value? d with
  | some a, some b, some c, some d => some (4096 * a + 256 * b + 16 * c + d)
  | _, _, _, _ => none

/-- The pieces up to the closing quote. -/
def readPieces : List Char → Option (List Piece × List Char)
  | [] => none
  | '"' :: rest => some ([], rest)
  | '\\' :: 'u' :: a :: b :: c :: d :: rest =>
    match unit? a b c d, readPieces rest with
    | some code, some (pieces, rest) => some (.unit code :: pieces, rest)
    | _, _ => none
  | '\\' :: e :: rest =>
    match unescape? e, readPieces rest with
    | some c, some (pieces, rest) => some (.char c :: pieces, rest)
    | _, _ => none
  | c :: rest =>
    if c.toNat < 0x20 ∨ c = '\\' then none
    else match readPieces rest with
      | some (pieces, rest) => some (.char c :: pieces, rest)
      | none => none

def isHighSurrogate (code : Nat) : Bool := 0xd800 ≤ code && code < 0xdc00

def isLowSurrogate (code : Nat) : Bool := 0xdc00 ≤ code && code < 0xe000

/-- Joins surrogate pairs; there is no text if one half stands alone. -/
def joinPieces : List Piece → Option (List Char)
  | [] => some []
  | .char c :: rest => (joinPieces rest).map (c :: ·)
  | .unit high :: .unit low :: rest =>
    if isHighSurrogate high then
      if isLowSurrogate low then
        (joinPieces rest).map
          (Char.ofNat (0x10000 + (high - 0xd800) * 0x400 + (low - 0xdc00)) :: ·)
      else none
    else if isLowSurrogate high then none
    else (joinPieces (.unit low :: rest)).map (Char.ofNat high :: ·)
  | .unit code :: rest =>
    if isHighSurrogate code || isLowSurrogate code then none
    else (joinPieces rest).map (Char.ofNat code :: ·)

theorem length_readPieces_lt {input rest : List Char} {pieces : List Piece}
    (found : readPieces input = some (pieces, rest)) : rest.length < input.length := by
  fun_induction readPieces input generalizing pieces rest with
  | case1 => cases found
  | case2 tail =>
    cases found
    exact Nat.lt_succ_self _
  | case3 a b c d tail code parts after present _ ih =>
    cases found
    have := ih present
    simp only [List.length_cons]
    omega
  | case4 => cases found
  | case5 e tail _ c parts after present _ ih =>
    cases found
    have := ih present
    simp only [List.length_cons]
    omega
  | case6 => cases found
  | case7 => cases found
  | case8 c tail _ _ _ _ parts after present ih =>
    cases found
    have := ih present
    simp only [List.length_cons]
    omega
  | case9 => cases found

/-- Reads a string from behind its opening quote. -/
def readText (input : List Char) : Option (Read Text input) :=
  match found : readPieces input with
  | some (pieces, rest) =>
    some ⟨(joinPieces pieces).map String.ofList, rest, length_readPieces_lt found⟩
  | none => none

/-! ## Numbers and names -/

def takeDigits? (input : List Char) : Option (List Char × List Char) :=
  let digits := input.takeWhile Char.isDigit
  if digits.isEmpty then none else some (digits, input.drop digits.length)

/-- A zero, or digits that begin with another. -/
def takeInteger? (input : List Char) : Option (List Char × List Char) :=
  match input with
  | '0' :: rest => if rest.head?.any Char.isDigit then none else some (['0'], rest)
  | _ => takeDigits? input

def takeFraction? (input : List Char) : Option (List Char × List Char) :=
  match input with
  | '.' :: rest => (takeDigits? rest).map fun (digits, rest) => ('.' :: digits, rest)
  | _ => some ([], input)

def takeExponent? (input : List Char) : Option (List Char × List Char) :=
  match input with
  | e :: rest =>
    if e = 'e' ∨ e = 'E' then
      match rest with
      | '+' :: rest => (takeDigits? rest).map fun (digits, rest) => (e :: '+' :: digits, rest)
      | '-' :: rest => (takeDigits? rest).map fun (digits, rest) => (e :: '-' :: digits, rest)
      | _ => (takeDigits? rest).map fun (digits, rest) => (e :: digits, rest)
    else some ([], input)
  | [] => some ([], [])

def takeNumber? (input : List Char) : Option (List Char) := do
  let (sign, rest) := match input with
    | '-' :: rest => (['-'], rest)
    | _ => ([], input)
  let (integer, rest) ← takeInteger? rest
  let (fraction, rest) ← takeFraction? rest
  let (exponent, _) ← takeExponent? rest
  pure (sign ++ integer ++ fraction ++ exponent)

/-- Takes a lexeme that is not empty off the front of a text. -/
def readLexeme {α : Type} (lexeme : List Char) (value : α) (input : List Char) :
    Option (Read α input) :=
  if bounds : lexeme ≠ [] ∧ lexeme.isPrefixOf input ∧ input ≠ [] then
    some ⟨value, input.drop lexeme.length, by
      have some_lexeme := List.length_pos_iff.mpr bounds.1
      have some_input := List.length_pos_iff.mpr bounds.2.2
      rw [List.length_drop]
      omega⟩
  else none

def readScalar (input : List Char) : Option (Read Value input) :=
  match readLexeme "null".toList .null input with
  | some found => some found
  | none =>
    match readLexeme "true".toList (.bool true) input with
    | some found => some found
    | none =>
      match readLexeme "false".toList (.bool false) input with
      | some found => some found
      | none =>
        match takeNumber? input with
        | some lexeme => readLexeme lexeme (.number (String.ofList lexeme)) input
        | none => none

/-! ## Values -/

mutual

/-- Reads a value, after blanks. -/
def readValue (input : List Char) : Option (Read Value input) :=
  match start : skipBlanks input with
  | [] => none
  | c :: rest =>
    have shorter := shorter_of_skipBlanks start
    if c = '"' then
      (readText rest).map fun found =>
        ⟨.string found.value, found.rest, Nat.lt_trans found.shorter shorter⟩
    else if c = '[' then
      (readItems true rest).map fun found =>
        ⟨.array found.value, found.rest, Nat.lt_trans found.shorter shorter⟩
    else if c = '\x7b' then
      (readMembers true rest).map fun found =>
        ⟨.object found.value, found.rest, Nat.lt_trans found.shorter shorter⟩
    else
      (readScalar (c :: rest)).map fun found =>
        ⟨found.value, found.rest,
          Nat.lt_of_lt_of_le found.shorter (start ▸ length_skipBlanks_le input)⟩
termination_by (input.length, 0)

/-- Reads the items of an array and its closing bracket. Only an array without items may close at
the `first` place. -/
def readItems (first : Bool) (input : List Char) : Option (Read (List Value) input) :=
  match start : skipBlanks input with
  | ']' :: rest =>
    if first then some ⟨[], rest, shorter_of_skipBlanks start⟩ else none
  | _ =>
    match readValue input with
    | none => none
    | some item =>
      match next : skipBlanks item.rest with
      | ']' :: rest =>
        some ⟨[item.value], rest, Nat.lt_trans (shorter_of_skipBlanks next) item.shorter⟩
      | ',' :: rest =>
        have shorter := Nat.lt_trans (shorter_of_skipBlanks next) item.shorter
        (readItems false rest).map fun found =>
          ⟨item.value :: found.value, found.rest, Nat.lt_trans found.shorter shorter⟩
      | _ => none
termination_by (input.length, 1)

/-- Reads the members of an object and its closing brace. Only an object without members may close
at the `first` place. -/
def readMembers (first : Bool) (input : List Char) :
    Option (Read (List (Text × Value)) input) :=
  match start : skipBlanks input with
  | '\x7d' :: rest =>
    if first then some ⟨[], rest, shorter_of_skipBlanks start⟩ else none
  | '"' :: rest =>
    match readText rest with
    | none => none
    | some name =>
      match colon : skipBlanks name.rest with
      | ':' :: tail =>
        have shorter : tail.length < input.length :=
          Nat.lt_trans (shorter_of_skipBlanks colon)
            (Nat.lt_trans name.shorter (shorter_of_skipBlanks start))
        match readValue tail with
        | none => none
        | some value =>
          match next : skipBlanks value.rest with
          | '\x7d' :: rest =>
            some ⟨[(name.value, value.value)], rest,
              Nat.lt_trans (shorter_of_skipBlanks next) (Nat.lt_trans value.shorter shorter)⟩
          | ',' :: rest =>
            have shorter := Nat.lt_trans (shorter_of_skipBlanks next)
              (Nat.lt_trans value.shorter shorter)
            (readMembers false rest).map fun found =>
              ⟨(name.value, value.value) :: found.value, found.rest,
                Nat.lt_trans found.shorter shorter⟩
          | _ => none
      | _ => none
  | _ => none
termination_by (input.length, 1)

end

def parse? (text : String) : Option Value :=
  match readValue text.toList with
  | some found => if (skipBlanks found.rest).isEmpty then some found.value else none
  | none => none

end LongPoll.Json
