import LongPoll.Rehearsal.Description
import LongPoll.Rehearsal.Tamper

set_option autoImplicit false

/-!
Dialogues between the two sides of a session, over a line on which bodies may be changed.
-/

namespace LongPoll.Rehearsal

/-- Something said over a session, or the response to a request. -/
inductive Utterance
  /-- The client decodes a body. -/
  | clientHears (body : Bytes)
  /-- The server decodes a body. -/
  | serverHears (body : Bytes)
  /-- The server decodes what the client has sealed. -/
  | clientSays (data : Bytes) (tamper : Tamper)
  /-- The client decodes what the server has sealed. -/
  | serverSays (data : Bytes) (tamper : Tamper)
  /-- The client seals one payload twice. -/
  | clientRepeats (data : Bytes)
  | request (url : String) (body : Bytes)
  | response (status : Nat) (body : Bytes)
  | sealedResponse (status : Nat) (data : Bytes) (tamper : Tamper)

inductive Reception
  /-- What was decoded, and the length of the sealed body if one was made. -/
  | decoded (result : Except Fault Bytes) (sealedLength : Option Nat)
  | differ (differ : Bool)
  | urlRejected (fault : UrlFault)
  | described (description : Description)

/-- Both sides of a session. The server may have refused the client. -/
structure Dialogue where
  signingPublic : Key
  session : Session
  peer : Except Fault PeerSession
  entropy : Entropy := .counting

namespace Dialogue

/-- What the client makes of data that the server seals, and the length of the sealed body. A
server that has refused the client seals nothing. -/
def relay (peer : Except Fault PeerSession) (nonce : Nonce) (data : Bytes) (tamper : Tamper)
    (receive : Bytes → Except Fault Bytes) : Except Fault Bytes × Option Nat :=
  match peer with
  | .error fault => (.error fault, none)
  | .ok server =>
    let body := server.encode nonce data
    (receive (tamper.apply body), some body.length)

/-- One utterance, and the dialogue after it. -/
def hear (dialogue : Dialogue) : Utterance → Reception × Dialogue
  | .clientHears body => (.decoded (dialogue.session.decode body) none, dialogue)
  | .serverHears body => (.decoded (dialogue.peer.bind (·.decode body)) none, dialogue)
  | .clientSays data tamper =>
    let (nonce, entropy) := dialogue.entropy.drawNonce
    let body := dialogue.session.encode nonce data
    let result := dialogue.peer.bind (·.decode (tamper.apply body))
    (.decoded result (some body.length), { dialogue with entropy })
  | .serverSays data tamper =>
    let (nonce, entropy) := dialogue.entropy.drawNonce
    let (result, sealedLength) := relay dialogue.peer nonce data tamper dialogue.session.decode
    (.decoded result sealedLength, { dialogue with entropy })
  | .clientRepeats data =>
    let (first, entropy) := dialogue.entropy.drawNonce
    let (second, entropy) := entropy.drawNonce
    (.differ (dialogue.session.encode first data != dialogue.session.encode second data),
      { dialogue with entropy })
  | .request text body =>
    match Url.parse text with
    | .error fault => (.urlRejected fault, dialogue)
    | .ok url =>
      let (nonce, entropy) := dialogue.entropy.drawNonce
      let request := dialogue.session.request url nonce body
      (.described (describe dialogue.signingPublic dialogue.peer request),
        { dialogue with entropy })
  | .response status body =>
    (.decoded (dialogue.session.receive { status, body }) none, dialogue)
  | .sealedResponse status data tamper =>
    let (nonce, entropy) := dialogue.entropy.drawNonce
    let receive := fun body => dialogue.session.receive { status, body }
    (.decoded (relay dialogue.peer nonce data tamper receive).1 none, { dialogue with entropy })

def run : Dialogue → List Utterance → List Reception
  | _, [] => []
  | dialogue, first :: rest =>
    let (reception, next) := dialogue.hear first
    reception :: run next rest

end Dialogue
end LongPoll.Rehearsal
