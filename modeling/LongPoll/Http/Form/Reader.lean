import LongPoll.Http.Form
import Mathlib.Data.List.Basic

set_option autoImplicit false

/-!
The reading of a form post from the wire: the head up to its first blank line, the boundary that a
header line names, and the parts between the delimiters. Main statements: a text read from its own
encoding is the same text, and a number read from its own digits the same number.
-/

namespace LongPoll

/-- The text that bytes encode, if they do. -/
def text? (bytes : Bytes) : Option String := String.fromUTF8? bytes.toByteArray

/-- The number that a text of decimal digits denotes. -/
def decimal? (text : String) : Option Nat :=
  if text.toList ≠ [] ∧ text.toList.all Char.isDigit then
    some (Nat.ofDigitChars 10 text.toList 0)
  else none

theorem utf8_append (first second : String) :
    utf8 (first ++ second) = utf8 first ++ utf8 second := by
  simp [utf8]

theorem text?_utf8 (text : String) : text? (utf8 text) = some text := by
  have encoded : (utf8 text).toByteArray = text.toByteArray := by
    rw [← String.utf8Encode_toList]
    rfl
  unfold text? String.fromUTF8?
  rw [dif_pos (encoded ▸ text.isValidUTF8)]
  exact congrArg some (String.toByteArray_inj.mp encoded)

theorem decimal?_toString (value : Nat) : decimal? (toString value) = some value := by
  have digits : (toString value).toList = Nat.toDigits 10 value := Nat.toList_repr
  have decimal : (Nat.toDigits 10 value).all Char.isDigit = true := by
    apply List.all_eq_true.mpr
    intro c member
    exact Nat.isDigit_of_mem_toDigits (by decide) (by decide) member
  unfold decimal?
  rw [digits, if_pos ⟨Nat.toDigits_ne_nil, decimal⟩, Nat.ofDigitChars_ten_toDigits]

namespace FormPost

def lineEnd : Bytes := utf8 "\r\n"

theorem length_of_dropInfix? {bytes mark before rest : Bytes}
    (found : bytes.dropInfix? mark = some (before, rest)) :
    mark.length + rest.length ≤ bytes.length := by
  obtain ⟨⟨same, split, equal⟩, _⟩ := List.dropInfix?_eq_some_iff.mp found
  rw [split, eq_of_beq equal, List.length_append, List.length_append]
  omega

theorem length_of_dropPrefix? {bytes mark rest : Bytes}
    (found : bytes.dropPrefix? mark = some rest) : rest.length ≤ bytes.length := by
  obtain ⟨same, split, _⟩ := List.dropPrefix?_eq_some_iff.mp found
  rw [split, List.length_append]
  omega

/-- The lines up to the first blank one, and what comes after it. -/
def readHead? (bytes : Bytes) : Option (List Bytes × Bytes) :=
  match _found : bytes.dropInfix? lineEnd with
  | none => none
  | some (line, rest) =>
    if line = [] then some ([], rest)
    else (readHead? rest).map fun (lines, after) => (line :: lines, after)
termination_by bytes.length
decreasing_by
  have shorter := length_of_dropInfix? _found
  change 2 + rest.length ≤ bytes.length at shorter
  omega

/-- The value of the first header line with the name. -/
def header? (name : String) (lines : List Bytes) : Option Bytes :=
  lines.findSome? fun line => line.dropPrefix? (utf8 (name ++ ": "))

def contentLength? (lines : List Bytes) : Option Nat :=
  ((header? "Content-Length" lines).bind text?).bind decimal?

def boundary? (lines : List Bytes) : Option Bytes :=
  (header? "Content-Type" lines).bind (·.dropPrefix? (utf8 "multipart/form-data; boundary="))

/-- What stands between the first and the last quote of a line. -/
def quoted? (line : Bytes) : Option Bytes :=
  match line.dropWhile (· ≠ 34) with
  | [] => none
  | _ :: rest =>
    match rest.reverse.dropWhile (· ≠ 34) with
    | [] => none
    | _ :: inside => some inside.reverse

/-- A part, from behind its delimiter line to the next delimiter. -/
def readPart? (delimiter bytes : Bytes) : Option ((String × Bytes) × Bytes) :=
  (bytes.dropInfix? lineEnd).bind fun (disposition, rest) =>
    ((quoted? disposition).bind text?).bind fun name =>
      (rest.dropInfix? lineEnd).bind fun (_, rest) =>
        (rest.dropPrefix? lineEnd).bind fun rest =>
          (rest.dropInfix? (lineEnd ++ delimiter)).map fun (value, rest) => ((name, value), rest)

theorem length_of_readPart? {delimiter bytes rest : Bytes} {field : String × Bytes}
    (read : readPart? delimiter bytes = some (field, rest)) : rest.length < bytes.length := by
  obtain ⟨⟨_, lines⟩, first, read⟩ := Option.bind_eq_some_iff.mp read
  obtain ⟨_, _, read⟩ := Option.bind_eq_some_iff.mp read
  obtain ⟨⟨_, blank⟩, second, read⟩ := Option.bind_eq_some_iff.mp read
  obtain ⟨valued, third, read⟩ := Option.bind_eq_some_iff.mp read
  obtain ⟨⟨_, left⟩, last, same⟩ := Option.map_eq_some_iff.mp read
  cases same
  have one := length_of_dropInfix? first
  have two := length_of_dropInfix? second
  have three := length_of_dropPrefix? third
  have four := length_of_dropInfix? last
  change 2 + lines.length ≤ bytes.length at one
  change 2 + blank.length ≤ lines.length at two
  omega

/-- The parts from behind a delimiter to the closing one, which two dashes follow. -/
def readParts? (delimiter bytes : Bytes) : Option (List (String × Bytes)) :=
  if (utf8 "--").isPrefixOf bytes then some []
  else
    match _rest : bytes.dropPrefix? lineEnd with
    | none => none
    | some rest =>
      match _part : readPart? delimiter rest with
      | none => none
      | some (field, after) => (readParts? delimiter after).map (field :: ·)
termination_by bytes.length
decreasing_by
  have behind := length_of_dropPrefix? _rest
  have shorter := length_of_readPart? _part
  omega

/-- The fields of a form post on the wire. -/
def readFields? (message : Bytes) : Option (List (String × Bytes)) :=
  (readHead? message).bind fun (lines, body) =>
    (boundary? lines).bind fun boundary =>
      let delimiter := utf8 "--" ++ boundary
      (body.dropPrefix? delimiter).bind (readParts? delimiter)

end FormPost
end LongPoll
