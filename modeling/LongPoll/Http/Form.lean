import LongPoll.Url

set_option autoImplicit false

/-!
Form posts: named binary fields, each name once and in the order of first setting, sent as the
parts of a multipart body. Main statements: a field that has been set is found again, and setting
one keeps the others.
-/

namespace LongPoll

/-- What parts are delimited by unless a post says otherwise. -/
def defaultBoundary : String := "synclink-multipart-boundary"

structure FormPost where
  url : Url
  boundary : String := defaultBoundary
  fields : List (String × Bytes) := []
deriving DecidableEq

namespace FormPost

/-- Replaces the value of a name in its place, or adds the name at the end. -/
def setIn (fields : List (String × Bytes)) (name : String) (value : Bytes) :
    List (String × Bytes) :=
  match fields with
  | [] => [(name, value)]
  | field :: rest =>
    if field.1 = name then (name, value) :: rest else field :: setIn rest name value

def set (post : FormPost) (name : String) (value : Bytes) : FormPost :=
  { post with fields := setIn post.fields name value }

def field? (post : FormPost) (name : String) : Option Bytes :=
  (post.fields.find? fun field => field.1 = name).map (·.2)

def host (post : FormPost) : String := post.url.host?.getD ""

def port (post : FormPost) : UInt16 := post.url.port?.getD 80

/-- The path and the query, which the request line names. -/
def target (post : FormPost) : String :=
  match post.url.query with
  | some query => post.url.path ++ "?" ++ query
  | none => post.url.path

def contentType (post : FormPost) : String := "multipart/form-data; boundary=" ++ post.boundary

/-- One part: the delimiter, two header lines, a blank line and the value. -/
def part (boundary : String) (field : String × Bytes) : Bytes :=
  utf8 ("--" ++ boundary ++ "\r\nContent-Disposition: form-data; name=\"" ++ field.1
    ++ "\"\r\nContent-Type: application/octet-stream\r\n\r\n") ++ field.2 ++ utf8 "\r\n"

/-- All parts and the closing delimiter. -/
def body (post : FormPost) : Bytes :=
  post.fields.flatMap (part post.boundary) ++ utf8 ("--" ++ post.boundary ++ "--\r\n")

/-- The request line, the headers and the body. -/
def wire (post : FormPost) : Bytes :=
  utf8 ("POST " ++ post.target ++ " HTTP/1.1\r\nHost: " ++ post.host ++ ":"
    ++ toString post.port.toNat ++ "\r\nContent-Type: " ++ post.contentType
    ++ "\r\nContent-Length: " ++ toString post.body.length ++ "\r\n\r\n") ++ post.body

theorem field?_set_same (post : FormPost) (name : String) (value : Bytes) :
    (post.set name value).field? name = some value := by
  unfold field? set
  simp only
  induction post.fields with
  | nil => simp [setIn]
  | cons field rest ih =>
    by_cases same : field.1 = name
    · simp [setIn, same]
    · simp only [setIn, if_neg same, List.find?_cons, decide_eq_false same]
      exact ih

theorem field?_set_other (post : FormPost) (name other : String) (value : Bytes)
    (different : other ≠ name) : (post.set name value).field? other = post.field? other := by
  unfold field? set
  simp only
  induction post.fields with
  | nil => simp [setIn, different.symm]
  | cons field rest ih =>
    by_cases same : field.1 = name
    · have missed : field.1 ≠ other := fun found => different (found.symm.trans same)
      simp [setIn, same, different.symm]
    · simp only [setIn, if_neg same, List.find?_cons]
      by_cases found : field.1 = other
      · simp [found]
      · simp only [decide_eq_false found]
        exact ih

end FormPost
end LongPoll
