import LongPoll.Bytes.Hex

set_option autoImplicit false

/-!
Percent-encoding: which characters each part of a URL may hold, and how the others are written.
-/

namespace LongPoll.Url.Percent

/-- Controls and everything beyond ASCII. -/
def isControl (c : Char) : Bool := c.toNat < 0x20 || 0x7e < c.toNat

def inFragment (c : Char) : Bool :=
  isControl c || c = ' ' || c = '"' || c = '<' || c = '>' || c.toNat = 0x60

def inPath (c : Char) : Bool :=
  inFragment c || c = '#' || c = '?' || c.toNat = 0x7b || c.toNat = 0x7d

def inUserinfo (c : Char) : Bool :=
  inPath c || c = '/' || c = ':' || c = ';' || c = '=' || c = '@' || c = '[' || c = '\\'
    || c = ']' || c = '^' || c = '|'

def inQuery (c : Char) : Bool := isControl c || c = ' ' || c = '"' || c = '#' || c = '<' || c = '>'

def inSpecialQuery (c : Char) : Bool := inQuery c || c.toNat = 0x27

def digit (value : Nat) : Char :=
  if value < 10 then Char.ofNat (48 + value) else Char.ofNat (55 + value)

def encodeByte (byte : UInt8) : List Char :=
  ['%', digit (byte.toNat / 16), digit (byte.toNat % 16)]

/-- Writes a character of the set as the percent signs of its UTF-8 bytes, any other as itself. -/
def encodeChar (set : Char → Bool) (c : Char) : List Char :=
  if set c then (String.utf8EncodeChar c).flatMap encodeByte else [c]

def encode (set : Char → Bool) (text : List Char) : List Char := text.flatMap (encodeChar set)

/-- The bytes of a text in which a percent sign with two hexadecimal digits stands for one byte;
any other percent sign stands for itself. -/
def decode : List Char → Bytes
  | '%' :: high :: low :: rest =>
    match Hex.value? high, Hex.value? low with
    | some h, some l => UInt8.ofNat (16 * h + l) :: decode rest
    | _, _ => String.utf8EncodeChar '%' ++ decode (high :: low :: rest)
  | c :: rest => String.utf8EncodeChar c ++ decode rest
  | [] => []

end LongPoll.Url.Percent
