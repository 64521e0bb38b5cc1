import LongPoll.Url.Percent

set_option autoImplicit false

/-!
Hosts of a URL: names and addresses, as they are read and written. A name of a scheme with a known
default port is lower-cased, and a last label that is a number makes it an IPv4 address.
-/

namespace LongPoll

inductive UrlFault
  | emptyHost
  | badPort
  | badIpv4
  | badIpv6
  | badHostCharacter
  | badDomain
  | noScheme
deriving DecidableEq, Repr

def UrlFault.message : UrlFault → String
  | emptyHost => "empty host"
  | badPort => "invalid port number"
  | badIpv4 => "invalid IPv4 address"
  | badIpv6 => "invalid IPv6 address"
  | badHostCharacter => "invalid domain character"
  | badDomain => "invalid international domain name"
  | noScheme => "relative URL without a base"

namespace Url

inductive Host
  | name (text : String)
  | ipv4 (address : Nat)
  | ipv6 (pieces : List Nat)
deriving DecidableEq, Repr

/-- Splits at every occurrence of a character. -/
def splitAt (separator : Char) : List Char → List (List Char)
  | [] => [[]]
  | c :: rest =>
    if c = separator then [] :: splitAt separator rest
    else match splitAt separator rest with
      | [] => [[c]]
      | first :: others => (c :: first) :: others

def digitsValue (radix : Nat) (digits : List Char) : Nat :=
  digits.foldl (fun value c => radix * value + (Hex.value? c).getD 0) 0

def isDigitOf (radix : Nat) (c : Char) : Bool := (Hex.value? c).any (· < radix)

/-! ## IPv4 -/

/-- A number in base sixteen after `0x`, in base eight after `0`, in base ten otherwise. -/
def ipv4Number? (text : List Char) : Option Nat :=
  let (radix, digits) := match text with
    | '0' :: 'x' :: digits | '0' :: 'X' :: digits => (16, digits)
    | '0' :: c :: digits => (8, c :: digits)
    | digits => (10, digits)
  if text.isEmpty then none
  else if digits.all (isDigitOf radix) then some (digitsValue radix digits) else none

/-- The labels of a name without the empty one after a last dot. -/
def labels (domain : List Char) : List (List Char) :=
  let parts := splitAt '.' domain
  if parts.getLast? = some [] then parts.dropLast else parts

def endsInNumber (domain : List Char) : Bool :=
  match (labels domain).getLast? with
  | none => false
  | some label => (!label.isEmpty && label.all Char.isDigit) || (ipv4Number? label).isSome

/-- Numbers before the last take one byte each, and the last takes the bytes that remain. -/
def ipv4? (domain : List Char) : Option Nat :=
  let parts := labels domain
  if parts.length > 4 then none
  else match parts.mapM ipv4Number? with
    | none => none
    | some numbers => match numbers.getLast? with
      | none => none
      | some last =>
        let leading := numbers.dropLast
        if last ≥ 1 <<< (8 * (4 - leading.length)) || leading.any (· > 255) then none
        else some (leading.zipIdx.foldl (fun sum item => sum + item.1 <<< (8 * (3 - item.2))) last)

def ipv4Text (address : Nat) : String :=
  ".".intercalate ((Bytes.ofNatBE 4 address).map fun byte => toString byte.toNat)

/-! ## IPv6 -/

/-- Up to four hexadecimal digits. -/
def takePiece (text : List Char) : List Char × List Char :=
  let digits := (text.take 4).takeWhile fun c => (Hex.value? c).isSome
  (digits, text.drop digits.length)

/-- A byte in base ten without leading zeros. -/
def ipv4Piece? (text : List Char) : Option Nat :=
  if text.isEmpty || !text.all Char.isDigit || (text.length > 1 && text.head? = some '0')
    || digitsValue 10 text > 255 then none
  else some (digitsValue 10 text)

/-- Two pieces written as four bytes in base ten. -/
def ipv4Tail? (text : List Char) : Option (List Nat) :=
  match (splitAt '.' text).mapM ipv4Piece? with
  | some [a, b, c, d] => some [256 * a + b, 256 * c + d]
  | _ => none

/-- The pieces read so far, on either side of the double colon if there has been one. -/
structure Pieces where
  before : List Nat := []
  after : Option (List Nat) := none
deriving DecidableEq, Repr

def Pieces.extend (pieces : Pieces) (more : List Nat) : Pieces :=
  match pieces.after with
  | none => { pieces with before := pieces.before ++ more }
  | some after => { pieces with after := some (after ++ more) }

/-- Reads pieces into as many places as there is room for; a double colon takes one place. -/
def Pieces.read? : Nat → Pieces → List Char → Option Pieces
  | _, pieces, [] => some pieces
  | 0, _, _ :: _ => none
  | room + 1, pieces, ':' :: rest =>
    if pieces.after.isSome then none else read? room { pieces with after := some [] } rest
  | room + 1, pieces, text =>
    let (digits, rest) := takePiece text
    match rest with
    | [] => some (pieces.extend [digitsValue 16 digits])
    | [':'] => none
    | ':' :: rest => read? room (pieces.extend [digitsValue 16 digits]) rest
    | '.' :: _ =>
      if digits.isEmpty || room = 0 then none else (ipv4Tail? text).map pieces.extend
    | _ => none

/-- Eight pieces; a double colon stands for one or more that are zero. -/
def ipv6? (text : List Char) : Option (List Nat) :=
  let found := match text with
    | ':' :: ':' :: rest => Pieces.read? 7 { after := some [] } rest
    | ':' :: _ | [] | [_] => none
    | _ => Pieces.read? 8 {} text
  match found with
  | none => none
  | some ⟨before, none⟩ => if before.length = 8 then some before else none
  | some ⟨before, some after⟩ =>
    let missing := 8 - before.length - after.length
    if missing = 0 then none else some (before ++ List.replicate missing 0 ++ after)

def hexText (value : Nat) : String := String.ofList (Nat.toDigits 16 value)

/-- The length of the run of zeros that a list begins with. -/
def zeroRun (pieces : List Nat) : Nat := (pieces.takeWhile (· = 0)).length

/-- The start and the length of the first longest run of zeros. -/
def longestZeroRun (pieces : List Nat) : Nat × Nat :=
  (List.range pieces.length).foldl
    (fun best start =>
      if zeroRun (pieces.drop start) > best.2 then (start, zeroRun (pieces.drop start)) else best)
    (0, 0)

/-- The first longest run of two or more zeros is written as a double colon. -/
def ipv6Text (pieces : List Nat) : String :=
  let colons (part : List Nat) : String := ":".intercalate (part.map hexText)
  let (start, length) := longestZeroRun pieces
  if length < 2 then colons pieces
  else colons (pieces.take start) ++ "::" ++ colons (pieces.drop (start + length))

/-! ## Reading and writing -/

/-- Characters that a name may not hold after decoding. -/
def isForbiddenInDomain (byte : UInt8) : Bool :=
  byte.toNat ≤ 0x20 || 0x7f ≤ byte.toNat || "%#/:<>?@[\\]^|".toList.any (·.toNat = byte.toNat)

/-- Characters that the host of any other scheme may not hold. -/
def isForbiddenInHost (c : Char) : Bool :=
  c.toNat = 0 || "\t\n\r #/:<>?@[\\]^|".toList.any (· = c)

def bracketed? : List Char → Option (Except UrlFault Host)
  | '[' :: rest =>
    match rest.getLast? with
    | some ']' => match ipv6? rest.dropLast with
      | some pieces => some (.ok (.ipv6 pieces))
      | none => some (.error .badIpv6)
    | _ => some (.error .badIpv6)
  | _ => none

/-- The host of a scheme with a known default port. International names are left out: one with a
character beyond ASCII is refused, where it could be written in ASCII, and a label that begins with
`xn--` is taken without a look at what it stands for. -/
def Host.ofDomain (text : List Char) : Except UrlFault Host :=
  match bracketed? text with
  | some result => result
  | none =>
    let bytes := Percent.decode text
    if bytes.any isForbiddenInDomain then .error .badDomain
    else
      let domain := bytes.map fun byte => (Char.ofNat byte.toNat).toLower
      if domain.isEmpty then .error .emptyHost
      else if endsInNumber domain then
        match ipv4? domain with
        | some address => .ok (.ipv4 address)
        | none => .error .badIpv4
      else .ok (.name (String.ofList domain))

/-- The host of any other scheme, whose case is kept. -/
def Host.ofOpaque (text : List Char) : Except UrlFault Host :=
  match bracketed? text with
  | some result => result
  | none =>
    if text.any isForbiddenInHost then .error .badHostCharacter
    else .ok (.name (String.ofList (Percent.encode Percent.isControl text)))

def Host.text : Host → String
  | name text => text
  | ipv4 address => ipv4Text address
  | ipv6 pieces => "[" ++ ipv6Text pieces ++ "]"

end Url
end LongPoll
