import Rustls.Crypto.Ring.Tls13
import Rustls.Crypto.Ring.Tls12

/-!
Record protection end to end: a record encrypted, encoded, deframed by
`DeframerIter` and decrypted at the same sequence number gives the message
back, and at any other sequence number fails.

The receive path goes through the record reader, and that reader refuses
unnamed content types and versions outside `0x03XX`.  A TLS 1.3 record always
travels as application data of version 0x0303, so only its inner type matters,
and that type must read back as itself; a TLS 1.2 record travels under the
message's own type and version, so those must pass the reader too.  A TLS 1.2
message of an unnamed type is rejected before decryption
(`openRecord_unknown_type`).
-/

namespace Rustls

variable {K : Type}

/-- The receive path of the round trip: deframe the first record of `wire`,
then decrypt it at `seq`. -/
def openRecord (decrypt : InboundOpaqueMessage → UInt64 → Except Error InboundPlainMessage)
    (wire : List UInt8) (seq : UInt64) : Option (Except Error InboundPlainMessage) :=
  (DeframerIter.new wire).next.map fun r => r.bind fun p => decrypt p.1 seq

/-- Deframing an encoded readable record hands its own type, version and
payload to the decrypter. -/
theorem openRecord_encode {m : OutboundOpaqueMessage} (h : m.Readable)
    (decrypt : InboundOpaqueMessage → UInt64 → Except Error InboundPlainMessage)
    (seq : UInt64) :
    openRecord decrypt m.encode seq = some (decrypt ⟨m.typ, m.version, m.payload⟩ seq) := by
  have hnext := next_encode h [] 0
  rw [List.append_nil] at hnext
  simp only [openRecord, DeframerIter.new, hnext, Option.map_some]
  rfl

section RoundTrip

variable {alg : Aead.Cipher K} {key : K}

theorem tls13_openRecord_encrypt (hc : alg.Correct) (htag : alg.tagLen = 16) (iv : Iv)
    {msg : OutboundPlainMessage} (hlen : msg.payload.length ≤ maxFragmentLen) (seq seq' : UInt64) :
    openRecord (Tls13MessageDecrypter.decrypt ⟨alg, key, iv⟩)
        (Tls13MessageEncrypter.encrypt ⟨alg, key, iv⟩ msg seq).encode seq' =
      some (Tls13MessageDecrypter.decrypt ⟨alg, key, iv⟩
        ⟨.applicationData, .tlsv1_2, (Tls13MessageEncrypter.encrypt ⟨alg, key, iv⟩ msg seq).payload⟩
        seq') :=
  openRecord_encode (readable_encrypt hc htag hlen seq) _ seq'

theorem gcm_openRecord_encrypt (hc : alg.Correct) (htag : alg.tagLen = 16)
    {writeIv explicit : List UInt8} (hw : writeIv.length = 4) (he : explicit.length = 8)
    {msg : OutboundPlainMessage} (hlen : msg.payload.length ≤ maxFragmentLen)
    (htyp : ∀ x, msg.typ ≠ .unknown x) (hver : msg.version.IsCanonical)
    (hacc : versionAccepted msg.version = true) (seq seq' : UInt64) :
    openRecord (GcmMessageDecrypter.decrypt ⟨alg, key, writeIv⟩)
        (GcmMessageEncrypter.encrypt ⟨alg, key, gcmIv writeIv explicit hw he⟩ msg seq).encode
        seq' =
      some (GcmMessageDecrypter.decrypt ⟨alg, key, writeIv⟩
        ⟨msg.typ, msg.version,
          (GcmMessageEncrypter.encrypt ⟨alg, key, gcmIv writeIv explicit hw he⟩ msg seq).payload⟩
        seq') := by
  have hsealed := length_gcm_encrypt hc key (gcmIv writeIv explicit hw he) msg seq
  refine openRecord_encode (readable_of_sealed htyp hver hacc ?_ ?_) _ seq'
  · rw [hsealed, htag]
    simp only [maxPayload]
    simp only [maxFragmentLen] at hlen
    omega
  · rw [hsealed]
    omega

theorem chacha_openRecord_encrypt (hc : alg.Correct) (htag : alg.tagLen = 16) (iv : Iv)
    {msg : OutboundPlainMessage} (hlen : msg.payload.length ≤ maxFragmentLen)
    (htyp : ∀ x, msg.typ ≠ .unknown x) (hver : msg.version.IsCanonical)
    (hacc : versionAccepted msg.version = true) (seq seq' : UInt64) :
    openRecord (ChaCha20Poly1305MessageDecrypter.decrypt ⟨alg, key, iv⟩)
        (ChaCha20Poly1305MessageEncrypter.encrypt ⟨alg, key, iv⟩ msg seq).encode seq' =
      some (ChaCha20Poly1305MessageDecrypter.decrypt ⟨alg, key, iv⟩
        ⟨msg.typ, msg.version,
          (ChaCha20Poly1305MessageEncrypter.encrypt ⟨alg, key, iv⟩ msg seq).payload⟩ seq') := by
  have hsealed := length_chacha_encrypt hc key iv msg seq
  refine openRecord_encode (readable_of_sealed htyp hver hacc ?_ ?_) _ seq'
  · rw [hsealed, htag]
    simp only [maxPayload]
    simp only [maxFragmentLen] at hlen
    omega
  · rw [hsealed, htag]
    omega

end RoundTrip

/-- **Record protection round-trips for the three ring constructions.**
Built from the same key and IV (for TLS 1.2, the writer's key, IV and
explicit block against the reader's key and IV), with a correct cipher with
ring's sixteen-byte tags: for every message of at most a fragment, whose
content type reads back as itself (for TLS 1.3, with a non-zero byte; for
TLS 1.2, a named type and a version the record reader accepts), decrypting
the deframed record at the same sequence number gives the message back, and at
any other sequence number fails whenever the cipher binds that sealed text to
its nonce and additional data. -/
theorem record_protection_round_trip (alg : Aead.Cipher K) (hc : alg.Correct)
    (htag : alg.tagLen = 16) (key : K) (msg : OutboundPlainMessage)
    (hlen : msg.payload.length ≤ maxFragmentLen) (seq : UInt64) :
    (∀ iv : Iv, msg.typ.IsCanonical → msg.typ.toU8 ≠ 0 →
      openRecord (Tls13MessageDecrypter.decrypt ⟨alg, key, iv⟩)
          (Tls13MessageEncrypter.encrypt ⟨alg, key, iv⟩ msg seq).encode seq =
        some (.ok ⟨msg.typ, .tlsv1_3, msg.payload⟩) ∧
      ∀ seq', seq' ≠ seq →
        alg.Binds key (Nonce.new iv seq) (makeTls13Aad (msg.payload.length + 1 + alg.tagLen))
          (msg.payload ++ [msg.typ.toU8]) →
        openRecord (Tls13MessageDecrypter.decrypt ⟨alg, key, iv⟩)
            (Tls13MessageEncrypter.encrypt ⟨alg, key, iv⟩ msg seq).encode seq' =
          some (.error .decryptError)) ∧
    (∀ (writeIv explicit : List UInt8) (hw : writeIv.length = 4) (he : explicit.length = 8),
      (∀ x, msg.typ ≠ .unknown x) → msg.version.IsCanonical →
        versionAccepted msg.version = true →
      openRecord (GcmMessageDecrypter.decrypt ⟨alg, key, writeIv⟩)
          (GcmMessageEncrypter.encrypt ⟨alg, key, gcmIv writeIv explicit hw he⟩ msg seq).encode
          seq =
        some (.ok ⟨msg.typ, msg.version, msg.payload⟩) ∧
      ∀ seq', seq' ≠ seq →
        alg.Binds key (Nonce.new (gcmIv writeIv explicit hw he) seq)
          (makeTls12Aad seq msg.typ msg.version msg.payload.length) msg.payload →
        openRecord (GcmMessageDecrypter.decrypt ⟨alg, key, writeIv⟩)
            (GcmMessageEncrypter.encrypt ⟨alg, key, gcmIv writeIv explicit hw he⟩ msg seq).encode
            seq' =
          some (.error .decryptError)) ∧
    (∀ iv : Iv, (∀ x, msg.typ ≠ .unknown x) → msg.version.IsCanonical →
        versionAccepted msg.version = true →
      openRecord (ChaCha20Poly1305MessageDecrypter.decrypt ⟨alg, key, iv⟩)
          (ChaCha20Poly1305MessageEncrypter.encrypt ⟨alg, key, iv⟩ msg seq).encode seq =
        some (.ok ⟨msg.typ, msg.version, msg.payload⟩) ∧
      ∀ seq', seq' ≠ seq →
        alg.Binds key (Nonce.new iv seq) (makeTls12Aad seq msg.typ msg.version msg.payload.length)
          msg.payload →
        openRecord (ChaCha20Poly1305MessageDecrypter.decrypt ⟨alg, key, iv⟩)
            (ChaCha20Poly1305MessageEncrypter.encrypt ⟨alg, key, iv⟩ msg seq).encode seq' =
          some (.error .decryptError)) := by
  refine ⟨?tls13, ?gcm, ?chacha⟩
  case tls13 =>
    intro iv hcanon hzero
    refine ⟨?_, fun seq' hne hbind => ?_⟩
    · rw [tls13_openRecord_encrypt hc htag iv hlen,
        decrypt_encrypt hc hcanon hzero hlen]
    · rw [tls13_openRecord_encrypt hc htag iv hlen,
        decrypt_encrypt_ne hc hbind hne]
  case gcm =>
    intro writeIv explicit hw he htyp hver hacc
    refine ⟨?_, fun seq' hne hbind => ?_⟩
    · rw [gcm_openRecord_encrypt hc htag hw he hlen htyp hver hacc,
        gcm_decrypt_encrypt hc htag hlen]
    · rw [gcm_openRecord_encrypt hc htag hw he hlen htyp hver hacc,
        gcm_decrypt_encrypt_ne hc htag hbind hne]
  case chacha =>
    intro iv htyp hver hacc
    refine ⟨?_, fun seq' hne hbind => ?_⟩
    · rw [chacha_openRecord_encrypt hc htag iv hlen htyp hver hacc,
        chacha_decrypt_encrypt hc htag hlen]
    · rw [chacha_openRecord_encrypt hc htag iv hlen htyp hver hacc,
        chacha_decrypt_encrypt_ne hc htag hbind hne]

/-- An all-zero IV, for the concrete cases below. -/
def zeroIv : Iv := ⟨List.replicate 12 0, rfl⟩

/-- The round trip at one message: a handshake record under the ChaCha20
construction, sealed by the marking cipher. -/
theorem record_protection_round_trip_handshake :
    (Aead.marking (Nonce.new zeroIv 7)
        (makeTls12Aad 7 .handshake .tlsv1_2 1)).Correct ∧
      openRecord (ChaCha20Poly1305MessageDecrypter.decrypt
          ⟨Aead.marking (Nonce.new zeroIv 7) (makeTls12Aad 7 .handshake .tlsv1_2 1), (), zeroIv⟩)
          (ChaCha20Poly1305MessageEncrypter.encrypt
            ⟨Aead.marking (Nonce.new zeroIv 7) (makeTls12Aad 7 .handshake .tlsv1_2 1), (), zeroIv⟩
            ⟨.handshake, .tlsv1_2, [1]⟩ 7).encode 8 =
        some (.error .decryptError) :=
  ⟨Aead.marking_correct _ _,
    ((record_protection_round_trip _ (Aead.marking_correct _ _) rfl () ⟨.handshake, .tlsv1_2, [1]⟩
      (by decide) 7).2.2 zeroIv (by intro x h; cases h) rfl rfl).2 8 (by decide)
      (Aead.marking_binds _ _ _)⟩

/-- **A TLS 1.2 record of an unnamed content type never reaches the
decrypter**: the record reader rejects its header. -/
theorem openRecord_unknown_type :
    openRecord (ChaCha20Poly1305MessageDecrypter.decrypt ⟨Aead.marking [] [], (), zeroIv⟩)
        (ChaCha20Poly1305MessageEncrypter.encrypt ⟨Aead.marking [] [], (), zeroIv⟩
          ⟨.unknown 0x99, .tlsv1_2, []⟩ 0).encode 0 =
      some (.error (.invalidMessage .invalidContentType)) := by
  decide

end Rustls
