import Rustls.Crypto.Cipher

/-!
TLS 1.3 record protection: `Tls13MessageEncrypter` and
`Tls13MessageDecrypter` of `crypto/ring/tls13.rs`.

The encrypter appends the real content type to the payload (the
`TLSInnerPlaintext`, with no padding), seals it under the nonce for the
sequence number, and sends it as application data with the length of the
sealed text as additional data.  The decrypter recomputes nonce and
additional data from its own sequence number and the received length, opens,
and strips the inner content type.

The AEAD is ring's `LessSafeKey`; it is the parameter `alg`, an
`Aead.Cipher`, and what is assumed of it is stated where it is used.
-/

namespace Rustls

variable {K : Type}

/-- `Tls13MessageEncrypter`: key, with its algorithm, and IV. -/
structure Tls13MessageEncrypter (K : Type) where
  alg : Aead.Cipher K
  encKey : K
  iv : Iv

/-- `Tls13MessageDecrypter`. -/
structure Tls13MessageDecrypter (K : Type) where
  alg : Aead.Cipher K
  decKey : K
  iv : Iv

namespace Tls13MessageEncrypter

/-- `encrypted_payload_len`. -/
def encryptedPayloadLen (e : Tls13MessageEncrypter K) (payloadLen : Nat) : Nat :=
  payloadLen + 1 + e.alg.tagLen

/-- `encrypt`: seal payload and type byte; the record claims to be TLS 1.2
application data. -/
def encrypt (e : Tls13MessageEncrypter K) (msg : OutboundPlainMessage) (seq : UInt64) :
    OutboundOpaqueMessage :=
  let totalLen := e.encryptedPayloadLen msg.payload.length
  let nonce := Nonce.new e.iv seq
  let aad := makeTls13Aad totalLen
  ⟨.applicationData, .tlsv1_2, e.alg.aeadSeal e.encKey nonce aad (msg.payload ++ [msg.typ.toU8])⟩

theorem length_encrypt {e : Tls13MessageEncrypter K} (hc : e.alg.Correct)
    (msg : OutboundPlainMessage) (seq : UInt64) :
    (e.encrypt msg seq).payload.length = e.encryptedPayloadLen msg.payload.length := by
  simp [encrypt, encryptedPayloadLen, hc.length_seal]

end Tls13MessageEncrypter

/-- `Tls13MessageDecrypter::decrypt`. -/
def Tls13MessageDecrypter.decrypt (d : Tls13MessageDecrypter K) (msg : InboundOpaqueMessage)
    (seq : UInt64) : Except Error InboundPlainMessage :=
  if msg.payload.length < d.alg.tagLen then .error .decryptError
  else
    let nonce := Nonce.new d.iv seq
    let aad := makeTls13Aad msg.payload.length
    match d.alg.aeadOpen d.decKey nonce aad msg.payload with
    | none => .error .decryptError
    | some plain => InboundOpaqueMessage.intoTls13UnpaddedMessage { msg with payload := plain }

/-! ### Round trip -/

section RoundTrip

variable {alg : Aead.Cipher K} {key : K} {iv : Iv}

/-- The encrypter's record passes the record reader whenever the tag is the
sixteen bytes of ring's algorithms and the payload is at most a fragment. -/
theorem readable_encrypt (hc : alg.Correct) (htag : alg.tagLen = 16)
    {msg : OutboundPlainMessage} (hlen : msg.payload.length ≤ maxFragmentLen) (seq : UInt64) :
    (Tls13MessageEncrypter.encrypt ⟨alg, key, iv⟩ msg seq).Readable where
  typ_named x := by simp [Tls13MessageEncrypter.encrypt]
  version_canonical := rfl
  version_accepted := rfl
  length_lt := by
    rw [Tls13MessageEncrypter.length_encrypt hc]
    simp only [Tls13MessageEncrypter.encryptedPayloadLen, htag, maxPayload]
    simp only [maxFragmentLen] at hlen
    omega
  nonempty h := absurd rfl h

/-- The sealed text is never shorter than the tag, so the decrypter's first
check passes. -/
theorem not_short_encrypt (hc : alg.Correct) (key : K) (iv : Iv) (msg : OutboundPlainMessage)
    (seq : UInt64) :
    ¬ (Tls13MessageEncrypter.encrypt ⟨alg, key, iv⟩ msg seq).payload.length < alg.tagLen := by
  rw [Tls13MessageEncrypter.length_encrypt hc]
  show ¬ msg.payload.length + 1 + alg.tagLen < alg.tagLen
  omega

/-- **Decrypting at the same sequence number gives back type and payload.** -/
theorem decrypt_encrypt (hc : alg.Correct) {msg : OutboundPlainMessage}
    (hcanon : msg.typ.IsCanonical) (hzero : msg.typ.toU8 ≠ 0)
    (hlen : msg.payload.length ≤ maxFragmentLen) (seq : UInt64) (t : ContentType)
    (v : ProtocolVersion) :
    Tls13MessageDecrypter.decrypt ⟨alg, key, iv⟩
        ⟨t, v, (Tls13MessageEncrypter.encrypt ⟨alg, key, iv⟩ msg seq).payload⟩ seq =
      .ok ⟨msg.typ, .tlsv1_3, msg.payload⟩ := by
  have hsealed := @Tls13MessageEncrypter.length_encrypt _ ⟨alg, key, iv⟩ hc msg seq
  have hnotshort := not_short_encrypt hc key iv msg seq
  unfold Tls13MessageDecrypter.decrypt
  rw [if_neg hnotshort, hsealed]
  simp only [Tls13MessageEncrypter.encrypt, Tls13MessageEncrypter.encryptedPayloadLen,
    hc.open_seal]
  exact intoTls13UnpaddedMessage_append hcanon hzero hlen v t

/-- **Decrypting at any other sequence number fails**, for a cipher that binds
the sealed text to its nonce and additional data. -/
theorem decrypt_encrypt_ne (hc : alg.Correct) {msg : OutboundPlainMessage} {seq seq' : UInt64}
    (hbind : alg.Binds key (Nonce.new iv seq)
      (makeTls13Aad (msg.payload.length + 1 + alg.tagLen)) (msg.payload ++ [msg.typ.toU8]))
    (hne : seq' ≠ seq) (t : ContentType) (v : ProtocolVersion) :
    Tls13MessageDecrypter.decrypt ⟨alg, key, iv⟩
        ⟨t, v, (Tls13MessageEncrypter.encrypt ⟨alg, key, iv⟩ msg seq).payload⟩ seq' =
      .error .decryptError := by
  have hnotshort := not_short_encrypt hc key iv msg seq
  -- the nonce differs, so the sealed text does not open
  have hnonce : Nonce.new iv seq' ≠ Nonce.new iv seq := fun h => hne (Nonce.new_injective h)
  unfold Tls13MessageDecrypter.decrypt
  rw [if_neg hnotshort]
  simp only [Tls13MessageEncrypter.encrypt, Tls13MessageEncrypter.encryptedPayloadLen]
  rw [hbind.open_of_ne_nonce hnonce]

end RoundTrip

end Rustls
