import Rustls.Crypto.Cipher

/-!
TLS 1.2 record protection: the AES-GCM and ChaCha20-Poly1305 encrypters and
decrypters of `crypto/ring/tls12.rs`.

The two constructions differ in where the nonce comes from.  GCM sends the
last eight bytes of its nonce in front of the sealed text and the decrypter
reads them back from the wire, joined to its four-byte salt; ChaCha20 sends
nothing and the decrypter recomputes the nonce from the sequence number.  In
both, the sequence number also opens the additional data.  The decrypters
recover the plaintext length from the received length by fixed overheads,
`GCM_OVERHEAD` and `CHACHAPOLY1305_OVERHEAD`, which match the encrypters only
because ring's tags are sixteen bytes long.
-/

namespace Rustls

variable {K : Type}

/-- `GCM_EXPLICIT_NONCE_LEN`. -/
def gcmExplicitNonceLen : Nat := 8

/-- `GCM_OVERHEAD`. -/
def gcmOverhead : Nat := gcmExplicitNonceLen + 16

/-- `CHACHAPOLY1305_OVERHEAD`. -/
def chachapoly1305Overhead : Nat := 16

/-- `gcm_iv`: the four-byte salt from the key block followed by the eight
explicit bytes. -/
def gcmIv (writeIv explicit : List UInt8) (hw : writeIv.length = 4)
    (he : explicit.length = 8) : Iv :=
  ⟨writeIv ++ explicit, by simp [hw, he, nonceLen]⟩

/-- `GcmMessageEncrypter`. -/
structure GcmMessageEncrypter (K : Type) where
  alg : Aead.Cipher K
  encKey : K
  iv : Iv

/-- `GcmMessageDecrypter`: the salt is the peer's four-byte write IV. -/
structure GcmMessageDecrypter (K : Type) where
  alg : Aead.Cipher K
  decKey : K
  decSalt : List UInt8

/-- `ChaCha20Poly1305MessageEncrypter`. -/
structure ChaCha20Poly1305MessageEncrypter (K : Type) where
  alg : Aead.Cipher K
  encKey : K
  encOffset : Iv

/-- `ChaCha20Poly1305MessageDecrypter`. -/
structure ChaCha20Poly1305MessageDecrypter (K : Type) where
  alg : Aead.Cipher K
  decKey : K
  decOffset : Iv

/-- `GcmMessageEncrypter::encrypt`: explicit nonce, then the sealed payload
with its tag. -/
def GcmMessageEncrypter.encrypt (e : GcmMessageEncrypter K) (msg : OutboundPlainMessage)
    (seq : UInt64) : OutboundOpaqueMessage :=
  let nonce := Nonce.new e.iv seq
  let aad := makeTls12Aad seq msg.typ msg.version msg.payload.length
  ⟨msg.typ, msg.version, nonce.drop 4 ++ e.alg.aeadSeal e.encKey nonce aad msg.payload⟩

/-- `GcmMessageDecrypter::decrypt`. -/
def GcmMessageDecrypter.decrypt (d : GcmMessageDecrypter K) (msg : InboundOpaqueMessage)
    (seq : UInt64) : Except Error InboundPlainMessage :=
  if msg.payload.length < gcmOverhead then .error .decryptError
  else
    let nonce := d.decSalt ++ msg.payload.take 8
    let aad := makeTls12Aad seq msg.typ msg.version (msg.payload.length - gcmOverhead)
    match d.alg.aeadOpen d.decKey nonce aad (msg.payload.drop gcmExplicitNonceLen) with
    | none => .error .decryptError
    | some plain =>
      if plain.length > maxFragmentLen then .error .peerSentOversizedRecord
      else .ok ({ msg with payload := plain }.intoPlainMessage)

/-- `ChaCha20Poly1305MessageEncrypter::encrypt`. -/
def ChaCha20Poly1305MessageEncrypter.encrypt (e : ChaCha20Poly1305MessageEncrypter K)
    (msg : OutboundPlainMessage) (seq : UInt64) : OutboundOpaqueMessage :=
  let nonce := Nonce.new e.encOffset seq
  let aad := makeTls12Aad seq msg.typ msg.version msg.payload.length
  ⟨msg.typ, msg.version, e.alg.aeadSeal e.encKey nonce aad msg.payload⟩

/-- `GcmMessageEncrypter::encrypted_payload_len`. -/
def GcmMessageEncrypter.encryptedPayloadLen (e : GcmMessageEncrypter K) (payloadLen : Nat) : Nat :=
  payloadLen + gcmExplicitNonceLen + e.alg.tagLen

/-- `ChaCha20Poly1305MessageEncrypter::encrypted_payload_len`. -/
def ChaCha20Poly1305MessageEncrypter.encryptedPayloadLen (e : ChaCha20Poly1305MessageEncrypter K)
    (payloadLen : Nat) : Nat :=
  payloadLen + e.alg.tagLen

/-- `ChaCha20Poly1305MessageDecrypter::decrypt`. -/
def ChaCha20Poly1305MessageDecrypter.decrypt (d : ChaCha20Poly1305MessageDecrypter K)
    (msg : InboundOpaqueMessage) (seq : UInt64) : Except Error InboundPlainMessage :=
  if msg.payload.length < chachapoly1305Overhead then .error .decryptError
  else
    let nonce := Nonce.new d.decOffset seq
    let aad := makeTls12Aad seq msg.typ msg.version (msg.payload.length - chachapoly1305Overhead)
    match d.alg.aeadOpen d.decKey nonce aad msg.payload with
    | none => .error .decryptError
    | some plain =>
      if plain.length > maxFragmentLen then .error .peerSentOversizedRecord
      else .ok ({ msg with payload := plain }.intoPlainMessage)

/-! ### The GCM nonce on the wire -/

/-- Masking the GCM IV keeps its salt in front: the first four bytes of the
counter block are zero. -/
theorem nonce_gcmIv (writeIv explicit : List UInt8) (hw : writeIv.length = 4)
    (he : explicit.length = 8) (seq : UInt64) :
    Nonce.new (gcmIv writeIv explicit hw he) seq =
      writeIv ++ Bytes.xorBytes (Bytes.be 8 seq.toNat) explicit := by
  have hzero : Bytes.xorBytes (List.replicate 4 0) writeIv = writeIv := by
    obtain ⟨a, b, c, d, rfl⟩ : ∃ a b c d, writeIv = [a, b, c, d] := by
      match writeIv, hw with
      | [a, b, c, d], _ => exact ⟨a, b, c, d, rfl⟩
    simp [Bytes.xorBytes]
  simp only [Nonce.new, gcmIv]
  rw [Bytes.xorBytes_append (by simp [hw]), hzero]

/-! ### Round trips -/

section RoundTrip

variable {alg : Aead.Cipher K} {key : K}

theorem length_gcm_encrypt (hc : alg.Correct) (key : K) (iv : Iv) (msg : OutboundPlainMessage)
    (seq : UInt64) :
    (GcmMessageEncrypter.encrypt ⟨alg, key, iv⟩ msg seq).payload.length =
      8 + msg.payload.length + alg.tagLen := by
  simp [GcmMessageEncrypter.encrypt, hc.length_seal, nonceLen]
  omega

theorem length_chacha_encrypt (hc : alg.Correct) (key : K) (iv : Iv) (msg : OutboundPlainMessage)
    (seq : UInt64) :
    (ChaCha20Poly1305MessageEncrypter.encrypt ⟨alg, key, iv⟩ msg seq).payload.length =
      msg.payload.length + alg.tagLen := by
  simp [ChaCha20Poly1305MessageEncrypter.encrypt, hc.length_seal]

/-- The GCM encrypter seals exactly the length it predicts. -/
theorem GcmMessageEncrypter.length_encrypt {e : GcmMessageEncrypter K} (hc : e.alg.Correct)
    (msg : OutboundPlainMessage) (seq : UInt64) :
    (e.encrypt msg seq).payload.length = e.encryptedPayloadLen msg.payload.length := by
  obtain ⟨alg, key, iv⟩ := e
  rw [encryptedPayloadLen, gcmExplicitNonceLen, length_gcm_encrypt hc]
  omega

/-- The ChaCha20-Poly1305 encrypter seals exactly the length it predicts. -/
theorem ChaCha20Poly1305MessageEncrypter.length_encrypt {e : ChaCha20Poly1305MessageEncrypter K}
    (hc : e.alg.Correct) (msg : OutboundPlainMessage) (seq : UInt64) :
    (e.encrypt msg seq).payload.length = e.encryptedPayloadLen msg.payload.length := by
  obtain ⟨alg, key, iv⟩ := e
  rw [encryptedPayloadLen, length_chacha_encrypt hc]

/-- The encrypted record passes the reader when its type and version do. -/
theorem readable_of_sealed {m : OutboundOpaqueMessage} (htyp : ∀ x, m.typ ≠ .unknown x)
    (hcanon : m.version.IsCanonical) (hacc : versionAccepted m.version = true)
    (hlen : m.payload.length < maxPayload) (hpos : 0 < m.payload.length) : m.Readable where
  typ_named := htyp
  version_canonical := hcanon
  version_accepted := hacc
  length_lt := hlen
  nonempty _ := List.ne_nil_of_length_pos hpos

section Gcm

variable {writeIv explicit : List UInt8}

/-- The explicit nonce on the wire completes the peer's salt to the
encrypter's nonce. -/
theorem gcm_salt_take_encrypt (alg : Aead.Cipher K) (key : K) (hw : writeIv.length = 4) (he : explicit.length = 8)
    (msg : OutboundPlainMessage) (seq : UInt64) :
    writeIv ++ (GcmMessageEncrypter.encrypt ⟨alg, key, gcmIv writeIv explicit hw he⟩
      msg seq).payload.take 8 = Nonce.new (gcmIv writeIv explicit hw he) seq := by
  have hex : (Bytes.xorBytes (Bytes.be 8 seq.toNat) explicit).length = 8 := by simp [he]
  simp only [GcmMessageEncrypter.encrypt]
  rw [nonce_gcmIv writeIv explicit hw he seq, List.drop_left' hw, List.take_left' hex]

/-- Behind the explicit nonce the record carries the sealed payload. -/
theorem gcm_drop_encrypt (alg : Aead.Cipher K) (key : K) (hw : writeIv.length = 4) (he : explicit.length = 8)
    (msg : OutboundPlainMessage) (seq : UInt64) :
    (GcmMessageEncrypter.encrypt ⟨alg, key, gcmIv writeIv explicit hw he⟩
      msg seq).payload.drop gcmExplicitNonceLen =
      alg.aeadSeal key (Nonce.new (gcmIv writeIv explicit hw he) seq)
        (makeTls12Aad seq msg.typ msg.version msg.payload.length) msg.payload := by
  have hex : (Bytes.xorBytes (Bytes.be 8 seq.toNat) explicit).length = 8 := by simp [he]
  simp only [GcmMessageEncrypter.encrypt]
  rw [nonce_gcmIv writeIv explicit hw he seq, List.drop_left' hw]
  exact List.drop_left' hex

variable {hw : writeIv.length = 4} {he : explicit.length = 8}

/-- **GCM: decrypting at the same sequence number gives the message back.** -/
theorem gcm_decrypt_encrypt (hc : alg.Correct) (htag : alg.tagLen = 16)
    {msg : OutboundPlainMessage} (hlen : msg.payload.length ≤ maxFragmentLen) (seq : UInt64) :
    GcmMessageDecrypter.decrypt ⟨alg, key, writeIv⟩
        ⟨msg.typ, msg.version,
          (GcmMessageEncrypter.encrypt ⟨alg, key, gcmIv writeIv explicit hw he⟩ msg seq).payload⟩
        seq =
      .ok ⟨msg.typ, msg.version, msg.payload⟩ := by
  have hsealed := length_gcm_encrypt hc key (gcmIv writeIv explicit hw he) msg seq
  -- the explicit part on the wire is the tail of the encrypter's nonce
  have hwire := gcm_salt_take_encrypt alg key hw he msg seq
  have hbody := gcm_drop_encrypt alg key hw he msg seq
  unfold GcmMessageDecrypter.decrypt
  rw [if_neg (by rw [hsealed, htag]; simp [gcmOverhead, gcmExplicitNonceLen])]
  simp only [hwire, hbody, hsealed, htag]
  rw [show 8 + msg.payload.length + 16 - gcmOverhead = msg.payload.length by
    simp [gcmOverhead, gcmExplicitNonceLen]]
  rw [hc.open_seal]
  dsimp only
  rw [if_neg (by omega)]
  rfl

/-- **GCM: decrypting at any other sequence number fails.**  The nonce is
read from the wire and is the same; the additional data is not. -/
theorem gcm_decrypt_encrypt_ne (hc : alg.Correct) (htag : alg.tagLen = 16)
    {msg : OutboundPlainMessage} {seq seq' : UInt64}
    (hbind : alg.Binds key (Nonce.new (gcmIv writeIv explicit hw he) seq)
      (makeTls12Aad seq msg.typ msg.version msg.payload.length) msg.payload)
    (hne : seq' ≠ seq) :
    GcmMessageDecrypter.decrypt ⟨alg, key, writeIv⟩
        ⟨msg.typ, msg.version,
          (GcmMessageEncrypter.encrypt ⟨alg, key, gcmIv writeIv explicit hw he⟩ msg seq).payload⟩
        seq' =
      .error .decryptError := by
  have hsealed := length_gcm_encrypt hc key (gcmIv writeIv explicit hw he) msg seq
  have hbody := gcm_drop_encrypt alg key hw he msg seq
  have haad : makeTls12Aad seq' msg.typ msg.version msg.payload.length ≠
      makeTls12Aad seq msg.typ msg.version msg.payload.length :=
    fun h => hne (makeTls12Aad_seq_injective h)
  unfold GcmMessageDecrypter.decrypt
  rw [if_neg (by rw [hsealed, htag]; simp [gcmOverhead, gcmExplicitNonceLen])]
  simp only [hbody, hsealed, htag]
  rw [show 8 + msg.payload.length + 16 - gcmOverhead = msg.payload.length by
    simp [gcmOverhead, gcmExplicitNonceLen]]
  rw [hbind.open_of_ne_data haad]

end Gcm

section ChaCha

variable {iv : Iv}

/-- **ChaCha20-Poly1305: decrypting at the same sequence number gives the
message back.** -/
theorem chacha_decrypt_encrypt (hc : alg.Correct) (htag : alg.tagLen = 16)
    {msg : OutboundPlainMessage} (hlen : msg.payload.length ≤ maxFragmentLen) (seq : UInt64) :
    ChaCha20Poly1305MessageDecrypter.decrypt ⟨alg, key, iv⟩
        ⟨msg.typ, msg.version,
          (ChaCha20Poly1305MessageEncrypter.encrypt ⟨alg, key, iv⟩ msg seq).payload⟩ seq =
      .ok ⟨msg.typ, msg.version, msg.payload⟩ := by
  have hsealed := length_chacha_encrypt hc key iv msg seq
  unfold ChaCha20Poly1305MessageDecrypter.decrypt
  rw [if_neg (by rw [hsealed, htag]; simp [chachapoly1305Overhead])]
  simp only [hsealed, htag, chachapoly1305Overhead, Nat.add_sub_cancel]
  simp only [ChaCha20Poly1305MessageEncrypter.encrypt]
  rw [hc.open_seal]
  dsimp only
  rw [if_neg (by omega)]
  rfl

/-- **ChaCha20-Poly1305: decrypting at any other sequence number fails.** -/
theorem chacha_decrypt_encrypt_ne (hc : alg.Correct) (htag : alg.tagLen = 16)
    {msg : OutboundPlainMessage} {seq seq' : UInt64}
    (hbind : alg.Binds key (Nonce.new iv seq)
      (makeTls12Aad seq msg.typ msg.version msg.payload.length) msg.payload)
    (hne : seq' ≠ seq) :
    ChaCha20Poly1305MessageDecrypter.decrypt ⟨alg, key, iv⟩
        ⟨msg.typ, msg.version,
          (ChaCha20Poly1305MessageEncrypter.encrypt ⟨alg, key, iv⟩ msg seq).payload⟩ seq' =
      .error .decryptError := by
  have hsealed := length_chacha_encrypt hc key iv msg seq
  have hnonce : Nonce.new iv seq' ≠ Nonce.new iv seq := fun h => hne (Nonce.new_injective h)
  unfold ChaCha20Poly1305MessageDecrypter.decrypt
  rw [if_neg (by rw [hsealed, htag]; simp [chachapoly1305Overhead])]
  simp only [ChaCha20Poly1305MessageEncrypter.encrypt]
  rw [hbind.open_of_ne_nonce hnonce]

end ChaCha

end RoundTrip

end Rustls
