import LongPoll.Crypto.Ed25519
import LongPoll.Crypto.Sealed
import LongPoll.Crypto.X25519
import LongPoll.Http.Form
import LongPoll.Http.Response
import LongPoll.Key.Text

set_option autoImplicit false

/-!
Sessions between a client and a server. The client draws a session key for each server it is bound
to, wraps it under a key that both sides derive from their agreement, and signs the wrapped key.
Bodies are sealed under the session key.
-/

namespace LongPoll

/-- The long-term private keys of a client: one for agreement and one for signing. -/
structure ClientKeys where
  agreement : Key
  signing : Key
deriving DecidableEq, Repr

namespace ClientKeys

def generate (entropy : Entropy) : ClientKeys × Entropy :=
  let (agreement, entropy) := entropy.drawKey
  let (signing, entropy) := entropy.drawKey
  ({ agreement, signing }, entropy)

def agreementPublic (keys : ClientKeys) : Key := X25519.publicKey keys.agreement

def signingPublic (keys : ClientKeys) : Key := Ed25519.publicKey keys.signing

def fingerprint (keys : ClientKeys) : Bytes :=
  Sha2.digest Sha2.sha256 keys.agreementPublic.bytes

/-- The text for inspection, which shows no private key. -/
def inspect (keys : ClientKeys) : String :=
  "ClientKeyPair \x7b fingerprint: \"" ++ Hex.text keys.fingerprint ++ "\", .. \x7d"

end ClientKeys

/-- What separates this derivation of keys from others. -/
def wrapContext : Bytes := utf8 "synclink/session-key-wrap/v1"

/-- The key that a session key is wrapped under: a hash of the shared secret and of both public
keys. A secret that one side alone determines is refused. -/
def wrappingKey (shared clientPublic serverPublic : Key) : Except Fault Key :=
  if X25519.isContributory shared then
    .ok ⟨Sha2.digest Sha2.sha256
      (wrapContext ++ shared.bytes ++ clientPublic.bytes ++ serverPublic.bytes),
      Sha2.length_digest Sha2.sha256 _⟩
  else .error .nonContributoryKey

/-- The client's side of a session with one server. -/
structure Session where
  serverKey : Key
  clientPublic : Key
  sessionKey : Key
  /-- The session key, sealed for the server. -/
  wrappedKey : Bytes
  /-- The client's signature over the wrapped key. -/
  signature : Bytes
deriving DecidableEq

namespace Session

/-- Makes a session from a session key and the nonce that wraps it. -/
def make (keys : ClientKeys) (serverKey sessionKey : Key) (nonce : Nonce) :
    Except Fault Session :=
  (wrappingKey (X25519.agree keys.agreement serverKey) keys.agreementPublic serverKey).map
    fun wrapping =>
      let wrappedKey := Sealed.encode wrapping nonce sessionKey.bytes
      { serverKey, sessionKey, wrappedKey
        clientPublic := keys.agreementPublic
        signature := Ed25519.sign keys.signing wrappedKey }

def establish (keys : ClientKeys) (serverKey : Key) (entropy : Entropy) :
    Except Fault (Session × Entropy) :=
  let (sessionKey, entropy) := entropy.drawKey
  let (nonce, entropy) := entropy.drawNonce
  (make keys serverKey sessionKey nonce).map fun session => (session, entropy)

def encode (session : Session) (nonce : Nonce) (data : Bytes) : Bytes :=
  Sealed.encode session.sessionKey nonce data

def decode (session : Session) (body : Bytes) : Except Fault Bytes :=
  Sealed.decode session.sessionKey body

/-- The text for inspection, which shows the server's key only. -/
def inspect (session : Session) : String :=
  "EncoderDecoder \x7b server_key: " ++ session.serverKey.inspect ++ ", .. \x7d"

/-- The encrypted request for an operation. -/
def request (session : Session) (url : Url) (nonce : Nonce) (body : Bytes) : FormPost :=
  let post : FormPost := { url }
  (((post.set "signature" session.signature).set "requestKey" session.wrappedKey).set
    "requestData" (session.encode nonce body)).set "clientKey" session.clientPublic.bytes

/-- The payload of a response; nothing if the poll window elapsed. -/
def receive (session : Session) (response : Response) : Except Fault Bytes :=
  if !response.isSuccess then .error (.badStatus response.status)
  else if response.isEmptyPoll then .ok []
  else session.decode response.body

end Session

structure PeerSession where
  sessionKey : Key
deriving DecidableEq

namespace PeerSession

def unwrap (wrapping : Key) (wrappedKey : Bytes) : Except Fault PeerSession :=
  (Sealed.decode wrapping wrappedKey).bind fun bytes =>
    match Key.ofBytes? bytes with
    | none => .error .badKey
    | some sessionKey => .ok { sessionKey }

/-- Unwraps the session key that a client sent along with its request. -/
def accept (serverSecret clientPublic : Key) (wrappedKey : Bytes) : Except Fault PeerSession :=
  (wrappingKey (X25519.agree serverSecret clientPublic) clientPublic
    (X25519.publicKey serverSecret)).bind fun wrapping => unwrap wrapping wrappedKey

def encode (session : PeerSession) (nonce : Nonce) (data : Bytes) : Bytes :=
  Sealed.encode session.sessionKey nonce data

def decode (session : PeerSession) (body : Bytes) : Except Fault Bytes :=
  Sealed.decode session.sessionKey body

end PeerSession

/-- Checks a client's signature over its wrapped session key. -/
def verifySignature (signingPublic : Key) (wrappedKey signature : Bytes) : Except Fault Unit :=
  (Ed25519.Point.decode? signingPublic).elim (.error .badKey) fun point =>
    if signature.length = 64 ∧ Ed25519.accepts signingPublic point wrappedKey signature then .ok ()
    else .error .badSignature

end LongPoll
