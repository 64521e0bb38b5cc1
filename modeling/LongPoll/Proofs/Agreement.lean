import LongPoll.Proofs.Snapshot

set_option autoImplicit false

/-!
How the two sides of a session come to agree. Client and server each derive the wrapping key from
their own private key and the other's public key, with the public keys in the same order; the session
key that one has wrapped is the one that the other unwraps, and all bodies go under it. That the two
products of the curve are the same, and that signatures verify, is taken from the curves.
-/

namespace LongPoll

/-! ### Signatures -/

namespace Ed25519

/-- Verification accepts the signature that the holder of a private key makes of a message. -/
def acceptsOwn (secret : Key) (message : Bytes) : Bool :=
  (Point.decode? (publicKey secret)).any fun point =>
    accepts (publicKey secret) point message (sign secret message)

theorem acceptsOwn_of {secret verifying : Key} {message signature : Bytes}
    (made : publicBytes secret = verifying.bytes) (signed : sign secret message = signature)
    (valid : (Point.decode? verifying).any
      (fun point => accepts verifying point message signature) = true) :
    acceptsOwn secret message = true := by
  have same : publicKey secret = verifying := Key.ext_bytes made
  rw [acceptsOwn, same, signed]
  exact valid

theorem Point.length_encode (point : Point) : point.encode.length = 32 :=
  Bytes.length_ofNatLE 32 _

theorem length_sign (secret : Key) (message : Bytes) : (sign secret message).length = 64 := by
  unfold sign
  generalize expand secret = expanded
  obtain ⟨scalar, hashed⟩ := expanded
  rw [List.length_append, Point.length_encode, Bytes.length_ofNatLE]

end Ed25519

theorem verifySignature_eq_ok {signingPublic : Key} {point : Ed25519.Point}
    {message signature : Bytes} (decoded : Ed25519.Point.decode? signingPublic = some point)
    (size : signature.length = 64)
    (accepted : Ed25519.accepts signingPublic point message signature = true) :
    verifySignature signingPublic message signature = .ok () := by
  unfold verifySignature
  rw [decoded, Option.elim_some, if_pos ⟨size, accepted⟩]

theorem verifySignature_sign {secret : Key} {message : Bytes}
    (accepted : Ed25519.acceptsOwn secret message = true) :
    verifySignature (Ed25519.publicKey secret) message (Ed25519.sign secret message) = .ok () := by
  unfold Ed25519.acceptsOwn at accepted
  obtain ⟨point, decoded, verified⟩ := (Option.any_eq_true _ _).mp accepted
  exact verifySignature_eq_ok decoded (Ed25519.length_sign secret message) verified

/-! ### Making a session -/

namespace Session

variable {keys : ClientKeys} {serverKey : Key} {session : Session}

theorem established_any {entropy : Entropy} {test : Session × Entropy → Bool}
    (passes : (establish keys serverKey entropy).toOption.any test = true) :
    ∃ session rest, establish keys serverKey entropy = .ok (session, rest) ∧
      test (session, rest) = true := by
  obtain ⟨⟨session, rest⟩, found, held⟩ := (Option.any_eq_true _ _).mp passes
  cases given : establish keys serverKey entropy with
  | ok made =>
      rw [given] at found
      cases found
      exact ⟨session, rest, rfl, held⟩
  | error fault =>
      rw [given] at found
      cases found

theorem DerivedFor.client (derived : session.DerivedFor keys serverKey) :
    session.clientPublic = keys.agreementPublic ∧
      session.signature = Ed25519.sign keys.signing session.wrappedKey := by
  obtain ⟨sessionKey, nonce, made⟩ := derived
  obtain ⟨wrapping, _, rfl⟩ := Except.exists_of_map_eq_ok made
  exact ⟨rfl, rfl⟩

theorem derivedFor_of_establish {entropy rest : Entropy}
    (established : establish keys serverKey entropy = .ok (session, rest)) :
    session.DerivedFor keys serverKey := by
  unfold establish at established
  obtain ⟨made, derived, same⟩ := Except.exists_of_map_eq_ok established
  cases same
  exact ⟨_, _, derived⟩

end Session

/-- A server that shares the wrapping key unwraps the session key. -/
theorem PeerSession.accept_encode {secret clientPublic wrapping : Key}
    (shared : wrappingKey (X25519.agree secret clientPublic) clientPublic
      (X25519.publicKey secret) = .ok wrapping) (nonce : Nonce) (sessionKey : Key) :
    PeerSession.accept secret clientPublic (Sealed.encode wrapping nonce sessionKey.bytes) =
      .ok { sessionKey } := by
  unfold PeerSession.accept
  rw [shared]
  change PeerSession.unwrap wrapping (Sealed.encode wrapping nonce sessionKey.bytes) = _
  unfold PeerSession.unwrap
  rw [Sealed.decode_encode]
  simp only [Except.bind, Key.ofBytes?_bytes]

/-! ### Requests and responses -/

theorem Session.request_fields (session : Session) (url : Url) (nonce : Nonce) (body : Bytes) :
    (session.request url nonce body).fields =
      [("signature", session.signature), ("requestKey", session.wrappedKey),
        ("requestData", Sealed.encode session.sessionKey nonce body),
        ("clientKey", session.clientPublic.bytes)] := by
  simp [Session.request, Session.encode, FormPost.set, FormPost.setIn]

/-- No sealed body is taken for an empty poll, not even that of an empty reply. -/
theorem Session.receive_encode (session : Session) {status : Nat} (least : 200 ≤ status)
    (most : status < 300) (filled : status ≠ 204) (headers : List (String × String))
    (nonce : Nonce) (reply : Bytes) :
    session.receive { status, headers, body := Sealed.encode session.sessionKey nonce reply } =
      .ok reply := by
  have long := Sealed.length_encode session.sessionKey nonce reply
  have body : (Sealed.encode session.sessionKey nonce reply).isEmpty = false := by
    cases given : Sealed.encode session.sessionKey nonce reply with
    | nil =>
        rw [given] at long
        simp at long
    | cons byte rest => rfl
  have success : Response.isSuccess
      { status, headers, body := Sealed.encode session.sessionKey nonce reply } = true := by
    simp [Response.isSuccess, least, most]
  have poll : Response.isEmptyPoll
      { status, headers, body := Sealed.encode session.sessionKey nonce reply } = false := by
    simp [Response.isEmptyPoll, filled, body]
  unfold Session.receive
  rw [success, poll]
  exact Sealed.decode_encode session.sessionKey nonce reply

/-! ### Both sides -/

/-- What a client and a server make of an operation, from the client's keys and random bytes and the
server's private key. The request carries four fields; from these and its private key alone the
server accepts the session, reads the body, and finds the wrapped key signed by the client. The
client reads every reply that the server seals, empty or not. -/
theorem Session.operation_agreed {keys : ClientKeys} {secret : Key} {entropy rest : Entropy}
    {session : Session}
    (established : Session.establish keys (X25519.publicKey secret) entropy = .ok (session, rest))
    (symmetric : X25519.agree keys.agreement (X25519.publicKey secret) =
      X25519.agree secret (X25519.publicKey keys.agreement))
    (accepted : Ed25519.acceptsOwn keys.signing session.wrappedKey = true)
    (url : Url) (nonce : Nonce) (body : Bytes) :
    (session.request url nonce body).url = url ∧
    ∃ signature wrappedKey sealedBody clientKey,
      (session.request url nonce body).fields =
        [("signature", signature), ("requestKey", wrappedKey), ("requestData", sealedBody),
          ("clientKey", clientKey)] ∧
      ∃ clientPublic peer, Key.ofBytes? clientKey = some clientPublic ∧
        PeerSession.accept secret clientPublic wrappedKey = .ok peer ∧
        peer.decode sealedBody = .ok body ∧
        verifySignature keys.signingPublic wrappedKey signature = .ok () ∧
        ∀ (status : Nat) (headers : List (String × String)) (nonce : Nonce) (reply : Bytes),
          200 ≤ status → status < 300 → status ≠ 204 →
            session.receive { status, headers, body := peer.encode nonce reply } = .ok reply := by
  have derived := Session.derivedFor_of_establish established
  obtain ⟨_, wrapping, drawn, shared, wrapped⟩ := derived.wrapped
  obtain ⟨client, signed⟩ := derived.client
  have own : wrappingKey (X25519.agree secret keys.agreementPublic) keys.agreementPublic
      (X25519.publicKey secret) = .ok wrapping := by
    rw [← shared, symmetric]
    rfl
  refine ⟨rfl, _, _, _, _, session.request_fields url nonce body, keys.agreementPublic,
    { sessionKey := session.sessionKey }, ?_, ?_, ?_, ?_, ?_⟩
  · rw [client]
    exact Key.ofBytes?_bytes keys.agreementPublic
  · rw [wrapped]
    exact PeerSession.accept_encode own drawn session.sessionKey
  · exact Sealed.decode_encode session.sessionKey nonce body
  · rw [signed]
    exact verifySignature_sign accepted
  · intro status headers other reply least most filled
    exact session.receive_encode least most filled headers other reply

namespace Uniform

def keys : ClientKeys := ⟨.uniform 1, .uniform 2⟩

def verifying : Key :=
  ⟨Bytes.ofNatBE 32 0x8139770ea87d175f56a35466c34c7ecccb8d8a91b4ee37a25df60f5b8fc9b394,
    Bytes.length_ofNatBE 32 _⟩

def wrapped : Bytes :=
  Bytes.ofNatBE 60 <|
    0x202122232425262728292a2b75731c400f91d9ae6b0660ed4ce109fbae544468 <<< 224 |||
    0x03dcae1541e347dd4a67978c962d60b85708b0165c595c3011cc4d2d

def signature : Bytes :=
  Bytes.ofNatBE 64 <|
    0x29080fc5df2388f044eeb6a05b03398e1f441863689397d0a277d08bd83547bb <<< 256 |||
    0x783ee7bf7088885bacabe085be344136ebe65d56a3f235d7e778e2e532f5af0f

end Uniform

/-- Two parties with uniform keys, and an empty reply. -/
theorem Session.operation_agreed_uniform : ∃ session rest,
    Session.establish Uniform.keys (X25519.publicKey (.uniform 42)) .counting =
      .ok (session, rest) ∧
    ∃ signature wrappedKey sealedBody clientKey,
      (session.request (Channel.Trial.server 1).url Entropy.counting.drawNonce.1 [1, 2, 3]).fields =
        [("signature", signature), ("requestKey", wrappedKey), ("requestData", sealedBody),
          ("clientKey", clientKey)] ∧
      ∃ clientPublic peer, Key.ofBytes? clientKey = some clientPublic ∧
        PeerSession.accept (.uniform 42) clientPublic wrappedKey = .ok peer ∧
        peer.decode sealedBody = .ok [1, 2, 3] ∧
        verifySignature Uniform.keys.signingPublic wrappedKey signature = .ok () ∧
        session.receive
          { status := 200, body := peer.encode Entropy.counting.drawNonce.1 [] } = .ok [] := by
  have seen : (Session.establish Uniform.keys (X25519.publicKey (.uniform 42))
      .counting).toOption.any (fun made => made.1.wrappedKey = Uniform.wrapped) = true := by
    decide +kernel
  have agreed : (X25519.agree Uniform.keys.agreement (X25519.publicKey (.uniform 42))).bytes =
      (X25519.agree (.uniform 42) (X25519.publicKey Uniform.keys.agreement)).bytes := by
    decide +kernel
  have made : Ed25519.publicBytes Uniform.keys.signing = Uniform.verifying.bytes := by
    decide +kernel
  have signed : Ed25519.sign Uniform.keys.signing Uniform.wrapped = Uniform.signature := by
    decide +kernel
  have valid : (Ed25519.Point.decode? Uniform.verifying).any (fun point =>
      Ed25519.accepts Uniform.verifying point Uniform.wrapped Uniform.signature) = true := by
    decide +kernel
  obtain ⟨session, rest, established, wrapped⟩ := Session.established_any seen
  have accepted : Ed25519.acceptsOwn Uniform.keys.signing session.wrappedKey = true := by
    rw [of_decide_eq_true wrapped]
    exact Ed25519.acceptsOwn_of made signed valid
  obtain ⟨_, signature, wrappedKey, sealedBody, clientKey, fields, clientPublic, peer, client,
    shared, body, verified, replies⟩ := Session.operation_agreed established
      (Key.ext_bytes agreed) accepted (Channel.Trial.server 1).url Entropy.counting.drawNonce.1
      [1, 2, 3]
  exact ⟨session, rest, established, signature, wrappedKey, sealedBody, clientKey, fields,
    clientPublic, peer, client, shared, body, verified,
    replies 200 [] Entropy.counting.drawNonce.1 [] (by decide) (by decide) (by decide)⟩

end LongPoll
