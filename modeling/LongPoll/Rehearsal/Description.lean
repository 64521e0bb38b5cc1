import LongPoll.Session

set_option autoImplicit false

/-!
What a server makes of a request: the fields it carries, whether it is signed by the client, and
what its body decrypts to.
-/

namespace LongPoll.Rehearsal

structure Description where
  url : String
  fields : List (String × Nat)
  clientKey : Bytes
  signed : Bool
  body : Except Fault Bytes
  wireLength : Nat

/-- The server's side of the session that a request belongs to. -/
def peerOf (secret : Key) (request : FormPost) : Except Fault PeerSession :=
  match request.field? "clientKey" with
  | none => .error (.missingField "clientKey")
  | some bytes =>
    match Key.ofBytes? bytes with
    | none => .error .badKey
    | some clientPublic =>
      match request.field? "requestKey" with
      | none => .error (.missingField "requestKey")
      | some wrappedKey => PeerSession.accept secret clientPublic wrappedKey

def describe (signingPublic : Key) (peer : Except Fault PeerSession) (request : FormPost) :
    Description where
  url := request.url.text
  fields := request.fields.map fun field => (field.1, field.2.length)
  clientKey := (request.field? "clientKey").getD []
  signed := (verifySignature signingPublic ((request.field? "requestKey").getD [])
    ((request.field? "signature").getD [])).isOk
  body := do (← peer).decode ((request.field? "requestData").getD [])
  wireLength := request.wire.length

end LongPoll.Rehearsal
