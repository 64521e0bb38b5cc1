import LongPoll.Bytes.Hex

set_option autoImplicit false

/-!
JSON values and their compact text. Strings escape quotes, backslashes and control characters, and
hold everything else as it is.
-/

namespace LongPoll.Json

/-- The text of a string; none if an escape in it names half of a surrogate pair. -/
abbrev Text := Option String

/-- A JSON value. A number keeps the text it is written as, an object the order of its members. -/
inductive Value
  | null
  | bool (value : Bool)
  | number (lexeme : String)
  | string (text : Text)
  | array (items : List Value)
  | object (members : List (Text × Value))
deriving Repr

def Value.ofNat (value : Nat) : Value := .number (toString value)

def Value.ofText (text : String) : Value := .string (some text)

def Value.natural? : Value → Option Nat
  | number lexeme =>
    let digits := lexeme.toList
    if digits.isEmpty || !digits.all Char.isDigit then none
    else some (digits.foldl (fun value c => 10 * value + (c.toNat - 48)) 0)
  | _ => none

/-- How a character stands in a string. -/
def escape (c : Char) : List Char :=
  if c = '"' then ['\\', '"']
  else if c = '\\' then ['\\', '\\']
  else if c = '\n' then ['\\', 'n']
  else if c = '\r' then ['\\', 'r']
  else if c = '\t' then ['\\', 't']
  else if c.toNat = 8 then ['\\', 'b']
  else if c.toNat = 12 then ['\\', 'f']
  else if c.toNat < 0x20 then
    ['\\', 'u', '0', '0', Hex.digit (c.toNat / 16), Hex.digit (c.toNat % 16)]
  else [c]

/-- A string between quotes; half of a surrogate pair stands for one without a text. -/
def printText : Text → List Char
  | some text => '"' :: (text.toList.flatMap escape ++ ['"'])
  | none => "\"\\ud800\"".toList

mutual

def Value.print : Value → List Char
  | .null => "null".toList
  | .bool true => "true".toList
  | .bool false => "false".toList
  | .number lexeme => lexeme.toList
  | .string text => printText text
  | .array items => '[' :: printItems items
  | .object members => '\x7b' :: printMembers members

/-- The items of an array and the bracket after them. -/
def printItems : List Value → List Char
  | [] => [']']
  | [item] => item.print ++ [']']
  | item :: next :: rest => item.print ++ ',' :: printItems (next :: rest)

/-- The members of an object and the brace after them. -/
def printMembers : List (Text × Value) → List Char
  | [] => ['\x7d']
  | [(name, value)] => printText name ++ ':' :: (value.print ++ ['\x7d'])
  | (name, value) :: next :: rest =>
    printText name ++ ':' :: (value.print ++ ',' :: printMembers (next :: rest))

end

def Value.text (value : Value) : String := String.ofList value.print

end LongPoll.Json
