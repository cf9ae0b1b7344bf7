import Rustls.Msgs.Message
import Rustls.Lib.Aead

/-!
Nonces and additional data for record protection: `crypto/cipher.rs`, and the
TLS 1.3 inner-plaintext decoding of `msgs/message/inbound.rs`.

A record's nonce is the connection's fixed `Iv` with the 64-bit sequence
number xored into its last eight bytes; since the mask is fixed, distinct
sequence numbers give distinct nonces (`Nonce.new_injective`).  The TLS 1.2
additional data starts with the sequence number itself, so it too separates
sequence numbers (`makeTls12Aad_seq_injective`).  These two facts are what
make a record sealed for one sequence number fail to open under another.
-/

namespace Rustls

/-- `NONCE_LEN`. -/
def nonceLen : Nat := 12

/-- `Iv`: a twelve-byte array. -/
structure Iv where
  bytes : List UInt8
  length_eq : bytes.length = nonceLen

/-- `Nonce::new`: `iv ^ seq` where `seq` is encoded as a 96-bit big-endian
integer. -/
def Nonce.new (iv : Iv) (seq : UInt64) : List UInt8 :=
  Bytes.xorBytes (List.replicate 4 0 ++ Bytes.be 8 seq.toNat) iv.bytes

@[simp] theorem Nonce.length_new (iv : Iv) (seq : UInt64) :
    (Nonce.new iv seq).length = nonceLen := by
  simp [Nonce.new, iv.length_eq, nonceLen]

/-- **Distinct sequence numbers give distinct nonces.** -/
theorem Nonce.new_injective {iv : Iv} {s s' : UInt64} (h : Nonce.new iv s = Nonce.new iv s') :
    s = s' := by
  have hlen : ∀ t : UInt64, (List.replicate 4 (0 : UInt8) ++ Bytes.be 8 t.toNat).length =
      iv.bytes.length := by
    intro t
    simp [iv.length_eq, nonceLen]
  have hbe := List.append_cancel_left
    (Bytes.xorBytes_left_injective (hlen s) (hlen s') h)
  have hlt : ∀ t : UInt64, t.toNat < 256 ^ 8 := fun t => t.toNat_lt
  exact UInt64.toNat_inj.mp (Bytes.be_injective (hlt s) (hlt s') hbe)

/-- `make_tls13_aad`: the header of the outer record, with the length cast to
two bytes. -/
def makeTls13Aad (payloadLen : Nat) : List UInt8 :=
  [ContentType.applicationData.toU8] ++ ProtocolVersion.tlsv1_2.toArray ++
    [UInt8.ofNat (payloadLen >>> 8), UInt8.ofNat (payloadLen &&& 0xff)]

/-- `make_tls12_aad`: sequence number, type, version and length (`as u16`). -/
def makeTls12Aad (seq : UInt64) (typ : ContentType) (vers : ProtocolVersion) (len : Nat) :
    List UInt8 :=
  Bytes.be 8 seq.toNat ++ [typ.toU8] ++ Bytes.be 2 vers.toU16.toNat ++ Bytes.be 2 len

theorem makeTls12Aad_seq_injective {s s' : UInt64} {t t' : ContentType}
    {v v' : ProtocolVersion} {l l' : Nat}
    (h : makeTls12Aad s t v l = makeTls12Aad s' t' v' l') : s = s' := by
  have htake := congrArg (List.take 8) h
  simp only [makeTls12Aad, List.append_assoc] at htake
  rw [List.take_left' (Bytes.length_be 8 _), List.take_left' (Bytes.length_be 8 _)] at htake
  exact UInt64.toNat_inj.mp (Bytes.be_injective s.toNat_lt s'.toNat_lt htake)

/-! ### TLS 1.3 inner plaintext -/

/-- The pops of `unpad_tls13_payload`, over the payload read from its end. -/
def unpadRev : List UInt8 → ContentType × List UInt8
  | [] => (.unknown 0, [])
  | b :: rest => if b = 0 then unpadRev rest else (ContentType.ofU8 b, rest.reverse)

/-- `unpad_tls13_payload`: strip trailing zeros; the last non-zero byte is
the content type, and `Unknown(0)` stands for "none". -/
def unpadTls13Payload (p : List UInt8) : ContentType × List UInt8 :=
  unpadRev p.reverse

theorem unpadTls13Payload_append {b : UInt8} (hb : b ≠ 0) (p : List UInt8) :
    unpadTls13Payload (p ++ [b]) = (ContentType.ofU8 b, p) := by
  simp [unpadTls13Payload, unpadRev, hb]

/-- `InboundOpaqueMessage::into_tls13_unpadded_message`. -/
def InboundOpaqueMessage.intoTls13UnpaddedMessage (m : InboundOpaqueMessage) :
    Except Error InboundPlainMessage :=
  if m.payload.length > maxFragmentLen + 1 then .error .peerSentOversizedRecord
  else
    let (typ, payload) := unpadTls13Payload m.payload
    if typ = .unknown 0 then .error (.peerMisbehaved .illegalTlsInnerPlaintext)
    else if payload.length > maxFragmentLen then .error .peerSentOversizedRecord
    else .ok ⟨typ, .tlsv1_3, payload⟩

theorem ofU8_ne_unknown_zero {b : UInt8} (hb : b ≠ 0) : ContentType.ofU8 b ≠ .unknown 0 := by
  intro h
  have := congrArg ContentType.toU8 h
  rw [ContentType.toU8_ofU8] at this
  exact hb this

/-- An inner plaintext of a canonical non-zero type and at most a fragment
of payload unpads to that type and payload. -/
theorem intoTls13UnpaddedMessage_append {typ : ContentType} (hcanon : typ.IsCanonical)
    (hzero : typ.toU8 ≠ 0) {p : List UInt8} (hp : p.length ≤ maxFragmentLen)
    (v : ProtocolVersion) (t : ContentType) :
    InboundOpaqueMessage.intoTls13UnpaddedMessage ⟨t, v, p ++ [typ.toU8]⟩ =
      .ok ⟨typ, .tlsv1_3, p⟩ := by
  have hun := unpadTls13Payload_append hzero p
  rw [hcanon] at hun
  have hne : typ ≠ .unknown 0 := by
    rw [← hcanon]
    exact ofU8_ne_unknown_zero hzero
  simp only [InboundOpaqueMessage.intoTls13UnpaddedMessage, List.length_append,
    List.length_singleton, hun]
  rw [if_neg (by omega), if_neg hne, if_neg (by omega)]

end Rustls
