import LongPoll.Bytes

set_option autoImplicit false

/-!
Responses: a status, headers found without regard to case, and a body.
-/

namespace LongPoll

structure Response where
  status : Nat
  headers : List (String × String) := []
  body : Bytes := []
deriving DecidableEq

namespace Response

def isSuccess (response : Response) : Bool := 200 ≤ response.status && response.status < 300

/-- The first header of a name; only the case of ASCII letters is disregarded. -/
def header? (response : Response) (name : String) : Option String :=
  (response.headers.find? fun header =>
    header.1.toList.map Char.toLower = name.toList.map Char.toLower).map (·.2)

/-- Whether the poll window elapsed with nothing to deliver. -/
def isEmptyPoll (response : Response) : Bool := response.status = 204 || response.body.isEmpty

end Response
end LongPoll
