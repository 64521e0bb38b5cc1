import LongPoll.Crypto.Sealed

set_option autoImplicit false

/-!
Sealed bodies as a format. Every byte string that is long enough splits into a nonce, a ciphertext
and a tag, and opens only if its tag is the one that sealing gives. What opens is so the sealed form
of what it opens to.
-/

namespace LongPoll.Sealed

variable {key : Key} {body data : Bytes}

theorem exists_parts (long : 28 ≤ body.length) : ∃ (nonce : Nonce) (ciphertext received : Bytes),
    nonce.bytes = body.take 12 ∧ received.length = tagLength ∧
      body = nonce.bytes ++ ciphertext ++ received := by
  have size : (body.take 12).length = 12 := by
    rw [List.length_take]
    omega
  refine ⟨⟨body.take 12, size⟩, (body.drop 12).take (body.length - 28),
    (body.drop 12).drop (body.length - 28), rfl, ?_, ?_⟩
  · rw [List.length_drop, List.length_drop, tagLength]
    omega
  · rw [List.append_assoc, List.take_append_drop, List.take_append_drop]

/-- A body that is long enough is opened, or its tag is refused. -/
theorem decode_of_long (key : Key) (long : 28 ≤ body.length) :
    decode key body = .error .decryptionFailed ∨ ∃ data, decode key body = .ok data := by
  obtain ⟨nonce, ciphertext, received, _, full, parts⟩ := exists_parts long
  rw [parts, decode_append key nonce ciphertext received full]
  split
  · exact .inr ⟨_, rfl⟩
  · exact .inl rfl

theorem decode_eq_malformed_iff :
    decode key body = .error (.malformedSeal body.length) ↔ body.length < 28 := by
  constructor
  · intro malformed
    apply Nat.lt_of_not_le
    intro long
    rcases decode_of_long key long with refused | ⟨data, opened⟩
    · rw [malformed] at refused
      cases refused
    · rw [malformed] at opened
      cases opened
  · exact decode_of_short key

/-- What opens is the sealed form, under its own nonce, of what it opens to. -/
theorem encode_of_decode (opened : decode key body = .ok data) :
    ∃ nonce, nonce.bytes = body.take 12 ∧ encode key nonce data = body := by
  have long : 28 ≤ body.length := by
    apply Nat.le_of_not_lt
    intro short
    rw [decode_of_short key short] at opened
    cases opened
  obtain ⟨nonce, ciphertext, received, front, full, parts⟩ := exists_parts long
  rw [parts, decode_append key nonce ciphertext received full] at opened
  split at opened
  · rename_i agrees
    cases opened
    refine ⟨nonce, front, ?_⟩
    rw [encode, crypt_crypt, agrees, parts]
  · cases opened

/-- For each nonce a plaintext has one accepted form. -/
theorem eq_of_decode {other : Bytes} (same : body.take 12 = other.take 12)
    (opened : decode key body = .ok data) (again : decode key other = .ok data) : body = other := by
  obtain ⟨nonce, front, sealed⟩ := encode_of_decode opened
  obtain ⟨second, start, resealed⟩ := encode_of_decode again
  have own : nonce = second := Nonce.ext_bytes (front.trans (same.trans start.symm))
  rw [← sealed, ← resealed, own]

theorem decode_of_altered_tag {nonce : Nonce} {altered : Bytes}
    (length : altered.length = (encode key nonce data).length)
    (front : altered.take (data.length + 12) = (encode key nonce data).take (data.length + 12))
    (differs : altered ≠ encode key nonce data) :
    decode key altered = .error .decryptionFailed := by
  have size := length_encode key nonce data
  have ahead : (nonce.bytes ++ crypt key nonce data).length = data.length + 12 := by
    rw [List.length_append, nonce.size, length_crypt, Nat.add_comm]
  have kept : altered.take (data.length + 12) = nonce.bytes ++ crypt key nonce data := by
    rw [front, encode]
    exact List.take_left' ahead
  have parts :
      altered = nonce.bytes ++ crypt key nonce data ++ altered.drop (data.length + 12) := by
    rw [← kept, List.take_append_drop]
  have full : (altered.drop (data.length + 12)).length = tagLength := by
    rw [List.length_drop, tagLength]
    omega
  have forged : tag key nonce (crypt key nonce data) ≠ altered.drop (data.length + 12) := by
    intro agrees
    apply differs
    rw [parts, ← agrees, encode]
  rw [parts, decode_append key nonce _ _ full, if_neg forged]

/-- Sealing and opening are inverse to each other on the whole format. What is sealed is 28 bytes
longer and opens to the data. A byte string too short for a nonce and a tag is malformed; any other
is refused, or opens to the plaintext whose sealed form it is. So a plaintext has one accepted form
for each nonce, and a sealed body with nothing but its tag altered is refused. -/
theorem opens_iff_sealed (key : Key) :
    (∀ nonce data, decode key (encode key nonce data) = .ok data ∧
      (encode key nonce data).length = data.length + 28) ∧
    (∀ body, decode key body = .error (.malformedSeal body.length) ↔ body.length < 28) ∧
    (∀ body, 28 ≤ body.length → decode key body = .error .decryptionFailed ∨
      ∃ data nonce, decode key body = .ok data ∧ data.length = body.length - 28 ∧
        nonce.bytes = body.take 12 ∧ encode key nonce data = body) ∧
    (∀ first second data, first.take 12 = second.take 12 → decode key first = .ok data →
      decode key second = .ok data → first = second) ∧
    ∀ nonce data altered, altered.length = (encode key nonce data).length →
      altered.take (data.length + 12) = (encode key nonce data).take (data.length + 12) →
      altered ≠ encode key nonce data → decode key altered = .error .decryptionFailed := by
  refine ⟨?_, fun body => decode_eq_malformed_iff, ?_, ?_, ?_⟩
  · intro nonce data
    exact ⟨decode_encode key nonce data, length_encode key nonce data⟩
  · intro body long
    rcases decode_of_long key long with refused | ⟨data, opened⟩
    · exact .inl refused
    · obtain ⟨nonce, front, sealed⟩ := encode_of_decode opened
      have length := length_encode key nonce data
      rw [sealed] at length
      exact .inr ⟨data, nonce, opened, by omega, front, sealed⟩
  · intro first second data same opened again
    exact eq_of_decode same opened again
  · intro nonce data altered length front differs
    exact decode_of_altered_tag length front differs

/-- The sealed form of nothing, with zeros for its tag, is refused. -/
theorem opens_iff_sealed_zeroed : ∃ (nonce : Nonce) (altered : Bytes),
    altered.length = (encode (.uniform 3) nonce []).length ∧
    altered.take 12 = (encode (.uniform 3) nonce []).take 12 ∧
    altered ≠ encode (.uniform 3) nonce [] ∧
    decode (.uniform 3) altered = .error .decryptionFailed := by
  have length : (List.replicate 12 4 ++ List.replicate 16 0 : Bytes).length =
      (encode (.uniform 3) ⟨List.replicate 12 4, rfl⟩ []).length := by
    decide +kernel
  have front : (List.replicate 12 4 ++ List.replicate 16 0 : Bytes).take 12 =
      (encode (.uniform 3) ⟨List.replicate 12 4, rfl⟩ []).take 12 := by
    decide +kernel
  have differs : (List.replicate 12 4 ++ List.replicate 16 0 : Bytes) ≠
      encode (.uniform 3) ⟨List.replicate 12 4, rfl⟩ [] := by
    decide +kernel
  obtain ⟨_, _, _, _, altered_refused⟩ := opens_iff_sealed (.uniform 3)
  exact ⟨_, _, length, front, differs, altered_refused _ [] _ length front differs⟩

end LongPoll.Sealed
