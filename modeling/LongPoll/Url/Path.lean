import LongPoll.Url.Percent

set_option autoImplicit false

/-!
Paths of a URL, read segment by segment. A single dot is dropped, a double dot takes the segment
before it away, and in a file path the drive at the front stays.
-/

namespace LongPoll.Url.Path

/-- What decides how a path is read. -/
structure Style where
  /-- The scheme has a known default port or is that of files: a backslash is a slash. -/
  special : Bool
  file : Bool

/-- A path as far as it has been read. -/
structure Draft where
  text : List Char := []
  /-- A drive was the first segment, which takes the place of a host. -/
  drive : Bool := false
deriving DecidableEq, Repr

/-- A letter, a colon or a bar, and then the end or another part of the URL. -/
def startsWithDrive : List Char → Bool
  | letter :: mark :: rest =>
    letter.isAlpha && (mark = ':' || mark = '|')
      && (rest.isEmpty || rest.head?.any fun c => c = '/' || c = '\\' || c = '?' || c = '#')
  | _ => false

def isDrive (segment : List Char) : Bool := segment.length = 2 && startsWithDrive segment

def isNormalDrive (segment : List Char) : Bool :=
  isDrive segment && segment.getLast? = some ':'

/-- A dot, plain or percent-encoded in either case. -/
def dropDot? : List Char → Option (List Char)
  | '.' :: rest => some rest
  | '%' :: '2' :: 'e' :: rest => some rest
  | '%' :: '2' :: 'E' :: rest => some rest
  | _ => none

def isSingleDot (segment : List Char) : Bool := dropDot? segment = some []

def isDoubleDot (segment : List Char) : Bool := (dropDot? segment).any isSingleDot

def endsWithSlash (text : List Char) : Bool := text.getLast? = some '/'

/-- The part of a text up to and with its last slash. -/
def upToLastSlash (text : List Char) : List Char :=
  (text.reverse.dropWhile (· ≠ '/')).reverse

/-- The part of a text after its last slash. -/
def afterLastSlash (text : List Char) : List Char :=
  (text.reverse.takeWhile (· ≠ '/')).reverse

/-- Whether the slash at the end closes a segment that may be taken away: it is not the slash at
the root, and the segment is no drive. -/
def closesSegment (text : List Char) : Bool :=
  text.dropLast.contains '/' && !startsWithDrive (afterLastSlash text.dropLast ++ ['/'])

/-- Takes the last segment away, but no drive of a file path. -/
def shorten (style : Style) (text : List Char) : List Char :=
  if style.file && (isNormalDrive text || isNormalDrive (afterLastSlash text)) then text
  else upToLastSlash text

def withSlash (text : List Char) : List Char := if endsWithSlash text then text else text ++ ['/']

/-- The text before a double dot without its last segment. -/
def parent (style : Style) (text : List Char) : List Char :=
  shorten style (if endsWithSlash text && closesSegment text then text.dropLast else text)

/-- Ends a segment; `slash` tells whether a slash ended it. -/
def close (style : Style) (draft : Draft) (segment : List Char) (slash : Bool) : Draft :=
  let ending := if slash then ['/'] else []
  if isDoubleDot segment then
    let text := parent style draft.text
    { draft with text := if slash then withSlash text else text }
  else if isSingleDot segment then { draft with text := withSlash draft.text }
  else if style.file && draft.text.length = 1 && isDrive segment then
    { text := draft.text ++ segment.take 1 ++ [':'] ++ ending, drive := true }
  else { draft with text := draft.text ++ segment ++ ending }

/-- Reads segments up to the end, a question mark or a number sign, and returns what follows. -/
def readFrom (style : Style) (draft : Draft) (segment : List Char) :
    List Char → Draft × List Char
  | [] => (close style draft segment false, [])
  | c :: rest =>
    if c = '/' || (style.special && c = '\\') then
      readFrom style (close style draft segment true) [] rest
    else if c = '?' || c = '#' then (close style draft segment false, c :: rest)
    else readFrom style draft (segment ++ Percent.encodeChar Percent.inPath c) rest

/-- Reads a path after the part of it that is given; a file path begins with one slash only. -/
def read (style : Style) (start : List Char) (input : List Char) : Draft × List Char :=
  let (draft, rest) := readFrom style { text := start } [] input
  if style.file then ({ draft with text := '/' :: draft.text.dropWhile (· = '/') }, rest)
  else (draft, rest)

/-- Reads the path that follows an authority. -/
def readAfterAuthority (style : Style) (input : List Char) : Draft × List Char :=
  if style.special then
    match input with
    | '/' :: rest | '\\' :: rest => read style ['/'] rest
    | _ => read style ['/'] input
  else match input with
    | [] => ({}, [])
    | c :: _ =>
      if c = '?' || c = '#' then ({}, input)
      else read style (if c = '/' then [] else ['/']) input

end LongPoll.Url.Path
