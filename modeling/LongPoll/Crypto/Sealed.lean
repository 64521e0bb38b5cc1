import LongPoll.Crypto.ChaCha20
import LongPoll.Crypto.Poly1305
import LongPoll.Fault

set_option autoImplicit false

/-!
Sealed bodies: a nonce, the data under ChaCha20, and a Poly1305 tag. Main statements: opening what
was sealed gives the data back, and a sealed body is 28 bytes longer than its data.
-/

namespace LongPoll.Sealed

def nonceLength : Nat := 12

def tagLength : Nat := 16

def keyLength : Nat := 32

/-- Zeros up to a multiple of sixteen bytes. -/
def padding (length : Nat) : Bytes := List.replicate ((16 - length % 16) % 16) 0

/-- Encryption and decryption alike: exclusive or with the key stream after its first block. -/
def crypt (key : Key) (nonce : Nonce) (data : Bytes) : Bytes :=
  Bytes.xor data (ChaCha20.keystream key nonce 1 data.length)

/-- The tag of a ciphertext, under the one-time key that the first block of the key stream gives. -/
def tag (key : Key) (nonce : Nonce) (ciphertext : Bytes) : Bytes :=
  Poly1305.tag (ChaCha20.keystream key nonce 0 32)
    (ciphertext ++ padding ciphertext.length ++ Bytes.ofNatLE 8 0
      ++ Bytes.ofNatLE 8 ciphertext.length)

def encode (key : Key) (nonce : Nonce) (data : Bytes) : Bytes :=
  nonce.bytes ++ crypt key nonce data ++ tag key nonce (crypt key nonce data)

/-- A body too short for a nonce and a tag is malformed; one whose tag does not belong to its
ciphertext is not decrypted. -/
def decode (key : Key) (body : Bytes) : Except Fault Bytes :=
  if body.length < nonceLength + tagLength then .error (.malformedSeal body.length)
  else if size : (body.take nonceLength).length = 12 then
    let nonce : Nonce := ⟨body.take nonceLength, size⟩
    let ciphertext := (body.drop nonceLength).take (body.length - nonceLength - tagLength)
    if tag key nonce ciphertext = body.drop (body.length - tagLength) then
      .ok (crypt key nonce ciphertext)
    else .error .decryptionFailed
  else .error (.malformedSeal body.length)

theorem length_crypt (key : Key) (nonce : Nonce) (data : Bytes) :
    (crypt key nonce data).length = data.length :=
  Bytes.length_xor _ _ (Nat.le_of_eq (ChaCha20.length_keystream key nonce 1 data.length).symm)

theorem crypt_crypt (key : Key) (nonce : Nonce) (data : Bytes) :
    crypt key nonce (crypt key nonce data) = data := by
  have same := length_crypt key nonce data
  rw [crypt, same, crypt]
  exact Bytes.xor_xor_cancel _ _
    (Nat.le_of_eq (ChaCha20.length_keystream key nonce 1 data.length).symm)

theorem length_tag (key : Key) (nonce : Nonce) (ciphertext : Bytes) :
    (tag key nonce ciphertext).length = tagLength :=
  Poly1305.length_tag _ _

theorem length_encode (key : Key) (nonce : Nonce) (data : Bytes) :
    (encode key nonce data).length = data.length + 28 := by
  simp only [encode, List.length_append, nonce.size, length_crypt, length_tag, tagLength]
  omega

theorem decode_of_short (key : Key) {body : Bytes} (short : body.length < 28) :
    decode key body = .error (.malformedSeal body.length) :=
  if_pos short

/-- A body is opened part by part. -/
theorem decode_append (key : Key) (nonce : Nonce) (ciphertext received : Bytes)
    (full : received.length = tagLength) :
    decode key (nonce.bytes ++ ciphertext ++ received) =
      if tag key nonce ciphertext = received then .ok (crypt key nonce ciphertext)
      else .error .decryptionFailed := by
  have long : (nonce.bytes ++ ciphertext).length = nonceLength + ciphertext.length := by
    rw [List.length_append, nonce.size, nonceLength]
  have whole : (nonce.bytes ++ ciphertext ++ received).length =
      nonceLength + ciphertext.length + tagLength := by
    rw [List.length_append, long, full]
  have enough : ¬ (nonce.bytes ++ ciphertext ++ received).length < nonceLength + tagLength := by
    omega
  have front : (nonce.bytes ++ ciphertext ++ received).take nonceLength = nonce.bytes := by
    rw [List.append_assoc]
    exact List.take_left' nonce.size
  have back : (nonce.bytes ++ ciphertext ++ received).drop nonceLength = ciphertext ++ received := by
    rw [List.append_assoc]
    exact List.drop_left' nonce.size
  have middle : ((nonce.bytes ++ ciphertext ++ received).drop nonceLength).take
      ((nonce.bytes ++ ciphertext ++ received).length - nonceLength - tagLength) = ciphertext := by
    rw [back, whole]
    exact List.take_left' (by omega)
  have last : (nonce.bytes ++ ciphertext ++ received).drop
      ((nonce.bytes ++ ciphertext ++ received).length - tagLength) = received :=
    List.drop_left' (by omega)
  have size : ((nonce.bytes ++ ciphertext ++ received).take nonceLength).length = 12 := by
    rw [front, nonce.size]
  have same : (⟨(nonce.bytes ++ ciphertext ++ received).take nonceLength, size⟩ : Nonce) = nonce :=
    Nonce.ext_bytes front
  unfold decode
  rw [if_neg enough, dif_pos size]
  simp only [same, middle, last]

theorem decode_encode (key : Key) (nonce : Nonce) (data : Bytes) :
    decode key (encode key nonce data) = .ok data := by
  rw [encode, decode_append key nonce _ _ (length_tag key nonce _), if_pos rfl, crypt_crypt]

end LongPoll.Sealed
