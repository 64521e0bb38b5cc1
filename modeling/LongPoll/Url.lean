import LongPoll.Url.Host
import LongPoll.Url.Path

set_option autoImplicit false

/-!
Absolute URLs: their parts, their normalized text, and how they are read.
-/

namespace LongPoll

namespace Url

/-- How the rest of a URL is read after its scheme. -/
inductive SchemeKind
  | special (port : UInt16)
  | file
  | other
deriving DecidableEq, Repr

def schemeKind (scheme : String) : SchemeKind :=
  if scheme = "http" ∨ scheme = "ws" then .special 80
  else if scheme = "https" ∨ scheme = "wss" then .special 443
  else if scheme = "ftp" then .special 21
  else if scheme = "file" then .file
  else .other

def SchemeKind.defaultPort? : SchemeKind → Option UInt16
  | special port => some port
  | file | other => none

def SchemeKind.isSpecial : SchemeKind → Bool
  | special _ | file => true
  | other => false

/-- Who is addressed. The user's name and password are percent-encoded. -/
structure Authority where
  username : String := ""
  password : String := ""
  host : Option Host := none
  /-- The port, if it is not the scheme's own. -/
  port : Option UInt16 := none
deriving DecidableEq, Repr

def Authority.text (authority : Authority) : String :=
  let password := if authority.password = "" then "" else ":" ++ authority.password
  let mark := if authority.username = "" ∧ authority.password = "" then "" else "@"
  let host := match authority.host with
    | none => ""
    | some host => host.text
  let port := match authority.port with
    | none => ""
    | some port => ":" ++ toString port.toNat
  authority.username ++ password ++ mark ++ host ++ port

end Url

/-- An absolute URL with every part normalized. -/
structure Url where
  scheme : String
  authority : Option Url.Authority
  path : String
  query : Option String
  fragment : Option String
deriving DecidableEq, Repr

namespace Url

/-- The normalized text. A path that begins with two slashes is kept apart from an authority. -/
def text (url : Url) : String :=
  let authority := match url.authority with
    | some authority => "//" ++ authority.text
    | none => if "//".isPrefixOf url.path then "/." else ""
  let query := match url.query with
    | none => ""
    | some query => "?" ++ query
  let fragment := match url.fragment with
    | none => ""
    | some fragment => "#" ++ fragment
  url.scheme ++ ":" ++ authority ++ url.path ++ query ++ fragment

def host? (url : Url) : Option String :=
  match url.authority with
  | none => none
  | some authority => authority.host.map Host.text

/-- The port given, or else the scheme's own. -/
def port? (url : Url) : Option UInt16 :=
  match url.authority.bind (·.port) with
  | some port => some port
  | none => (schemeKind url.scheme).defaultPort?

/-! ## Reading -/

def isSchemeChar (c : Char) : Bool := c.isAlphanum || c = '+' || c = '-' || c = '.'

/-- The scheme in lower case, and what follows its colon. -/
def readScheme? (input : List Char) : Option (String × List Char) :=
  let name := input.takeWhile isSchemeChar
  match name.head?, input.dropWhile isSchemeChar with
  | some first, ':' :: rest =>
    if first.isAlpha then some (String.ofList (name.map Char.toLower), rest) else none
  | _, _ => none

def endsAuthority (special : Bool) (c : Char) : Bool :=
  c = '/' || c = '?' || c = '#' || (special && c = '\\')

/-- The part before the last at sign of an authority, if there is one, and the part after it. -/
def splitUserinfo (authority : List Char) : Option (List Char) × List Char :=
  if authority.contains '@' then
    let after := (authority.reverse.takeWhile (· ≠ '@')).reverse
    (some (authority.take (authority.length - after.length - 1)), after)
  else (none, authority)

/-- A name, and after the first colon a password. -/
def readUserinfo (userinfo : List Char) : String × String :=
  let name := userinfo.takeWhile (· ≠ ':')
  let encode (part : List Char) : String := String.ofList (Percent.encode Percent.inUserinfo part)
  (encode name, encode (userinfo.drop (name.length + 1)))

/-- The host at the front of a text: up to a colon outside brackets. -/
def takeHost (special : Bool) (inBrackets : Bool) : List Char → List Char
  | [] => []
  | c :: rest =>
    if (c = ':' && !inBrackets) || endsAuthority special c then []
    else c :: takeHost special (c = '[' || (inBrackets && c ≠ ']')) rest

/-- Digits up to the end of the authority; none at all stand for no port. -/
def readPort (kind : SchemeKind) (input : List Char) :
    Except UrlFault (Option UInt16 × List Char) :=
  let digits := input.takeWhile Char.isDigit
  let rest := input.drop digits.length
  let value := digitsValue 10 digits
  if value > 65535 then .error .badPort
  else if rest.head?.any fun c => !endsAuthority true c then .error .badPort
  else
    let port := UInt16.ofNat value
    .ok (if digits.isEmpty || kind.defaultPort? = some port then none else some port, rest)

/-- The host and the port after the user's part. -/
def readHostAndPort (kind : SchemeKind) (input : List Char) :
    Except UrlFault (Option Host × Option UInt16 × List Char) := do
  let text := takeHost kind.isSpecial false input
  let rest := input.drop text.length
  let host ← if text.isEmpty then
      if kind.isSpecial || rest.head? = some ':' then .error .emptyHost else pure none
    else if kind.isSpecial then (Host.ofDomain text).map some
    else (Host.ofOpaque text).map some
  match rest with
  | ':' :: rest =>
    let (port, rest) ← readPort kind rest
    pure (host, port, rest)
  | _ => pure (host, none, rest)

/-- The query after a question mark and the fragment after a number sign. -/
def readQueryAndFragment (special : Bool) (input : List Char) : Option String × Option String :=
  let encode (set : Char → Bool) (part : List Char) : String :=
    String.ofList (Percent.encode set part)
  let fragment := match input.dropWhile (· ≠ '#') with
    | _ :: fragment => some (encode Percent.inFragment fragment)
    | [] => none
  let query := match input.takeWhile (· ≠ '#') with
    | '?' :: query =>
      some (encode (if special then Percent.inSpecialQuery else Percent.inQuery) query)
    | _ => none
  (query, fragment)

/-- Joins the parts that have been read with those that the rest of the text gives. -/
def finish (scheme : String) (authority : Option Authority) (path : List Char)
    (rest : List Char) : Url :=
  let (query, fragment) := readQueryAndFragment (schemeKind scheme).isSpecial rest
  { scheme, authority, path := String.ofList path, query, fragment }

/-- Reads a URL from behind the two slashes before its authority. -/
def readAuthority (scheme : String) (input : List Char) : Except UrlFault Url := do
  let kind := schemeKind scheme
  let (userinfo, rest) := splitUserinfo (input.takeWhile fun c => !endsAuthority kind.isSpecial c)
  let input := rest ++ input.dropWhile fun c => !endsAuthority kind.isSpecial c
  if userinfo = some [] ∧ (input.head?.any (endsAuthority kind.isSpecial)) then
    throw .emptyHost
  let (username, password) := readUserinfo (userinfo.getD [])
  let (host, port, rest) ← readHostAndPort kind input
  if host = none ∧ (username ≠ "" ∨ password ≠ "") then throw .emptyHost
  let (draft, rest) :=
    Path.readAfterAuthority { special := kind.isSpecial, file := false } rest
  pure (finish scheme (some { username, password, host, port }) draft.text rest)

/-- Reads a file URL from behind the two slashes before its host. A drive is no host, and the
local host is written as none. -/
def readFileHost (scheme : String) (input : List Char) : Except UrlFault Url := do
  let style : Path.Style := { special := true, file := true }
  let text := input.takeWhile fun c => !endsAuthority true c
  let rest := input.drop text.length
  if text.isEmpty || Path.isDrive text then
    let (draft, rest) := Path.read style ['/'] input
    pure (finish scheme (some {}) draft.text rest)
  else
    let host ← Host.ofDomain text
    if host = .name "localhost" then
      let (draft, rest) := Path.read style ['/'] rest
      pure (finish scheme (some {}) draft.text rest)
    else
      let (draft, rest) := Path.readAfterAuthority style rest
      let host := if draft.drive then none else some host
      pure (finish scheme (some { host }) draft.text rest)

/-- Reads what follows the colon of a file URL. -/
def readFile (scheme : String) (input : List Char) : Except UrlFault Url :=
  let style : Path.Style := { special := true, file := true }
  let isSlash (c : Char) : Bool := c = '/' || c = '\\'
  match input with
  | first :: second :: rest =>
    if isSlash first && isSlash second then readFileHost scheme rest
    else
      let (draft, rest) := Path.read style (if isSlash first then [] else ['/']) input
      .ok (finish scheme (some {}) draft.text rest)
  | _ =>
    let (draft, rest) := Path.read style (if input.any isSlash then [] else ['/']) input
    .ok (finish scheme (some {}) draft.text rest)

/-- Reads what follows the colon of any other URL. Without a slash the path is opaque. -/
def readOther (scheme : String) (input : List Char) : Except UrlFault Url :=
  match input with
  | '/' :: '/' :: rest => readAuthority scheme rest
  | '/' :: rest =>
    let (draft, rest) := Path.read { special := false, file := false } ['/'] rest
    .ok (finish scheme none draft.text rest)
  | _ =>
    let path := input.takeWhile fun c => c ≠ '?' ∧ c ≠ '#'
    .ok (finish scheme none (Percent.encode Percent.isControl path) (input.drop path.length))

/-- A text without controls and blanks at its ends, and without tabs and line ends inside. -/
def clean (text : List Char) : List Char :=
  let isBlank (c : Char) : Bool := c.toNat ≤ 0x20
  (((text.dropWhile isBlank).reverse.dropWhile isBlank).reverse).filter
    fun c => c ≠ '\t' ∧ c ≠ '\n' ∧ c ≠ '\r'

def parse (text : String) : Except UrlFault Url :=
  match readScheme? (clean text.toList) with
  | none => .error .noScheme
  | some (scheme, rest) =>
    match schemeKind scheme with
    | .special _ => readAuthority scheme (rest.dropWhile fun c => c = '/' || c = '\\')
    | .file => readFile scheme rest
    | .other => readOther scheme rest

/-- A way to write URLs, and to read them from texts of any form. -/
class Codec where
  text : Url → String
  read? : String → Option Url

instance : Codec where
  text := text
  read? source := (parse source).toOption

end Url
end LongPoll
