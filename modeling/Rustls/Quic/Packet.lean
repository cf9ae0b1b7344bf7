import Mathlib
import Rustls.Quic.Keys
import Rustls.Crypto.Ring.Quic

/-!
QUIC packet protection with *ring*: `PacketKey` and `KeyBuilder` of
`crypto/ring/quic.rs`, the `quic::Algorithm` rustls ships.

A packet key seals a packet's payload in place, under a nonce made from its
IV and the packet number and with the packet's header as associated data,
and hands the tag back separately; the receiver opens payload and tag
together (`decryptInPlace_encryptInPlace`).  Put together with the keys both
ends derive (`Quic.Keys`), a packet either end of a TLS 1.3 connection
protects at some key phase opens at the other end under its key of the same
phase (`quic_packets_open_at_peer`).

*ring*'s AEAD is an `Aead.Cipher`, sealing without failure: its
`seal_in_place_separate_tag` fails only past a maximum input length, which the
cipher here does not have.  Every *ring* AEAD has a 16-byte tag, so the copy
into `Tag` does not panic; the tag is kept as its bytes.
-/

namespace Rustls

variable {K : Type}

/-- `PacketKey` of `crypto/ring/quic.rs`: the AEAD key, the IV its nonces
are made from, and the limits it reports. -/
structure PacketKey (K : Type) where
  alg : Aead.Cipher K
  key : K
  iv : Iv
  confidentialityLimit : UInt64
  integrityLimit : UInt64

namespace PacketKey

/-- `PacketKey::new`; `UnboundKey::new`, which cannot fail on a key of the
algorithm's length, is `unboundKey`. -/
def new (key : List UInt8) (iv : Iv) (confidentialityLimit integrityLimit : UInt64)
    (aeadAlgorithm : Aead.Cipher K) (unboundKey : List UInt8 → K) : PacketKey K :=
  ⟨aeadAlgorithm, unboundKey key, iv, confidentialityLimit, integrityLimit⟩

/-- `encrypt_in_place`: the payload overwritten by its ciphertext, and the
tag. -/
def encryptInPlace (k : PacketKey K) (packetNumber : UInt64) (header payload : List UInt8) :
    List UInt8 × List UInt8 :=
  let sealed := k.alg.aeadSeal k.key (Nonce.new k.iv packetNumber) header payload
  (sealed.take payload.length, sealed.drop payload.length)

/-- `decrypt_in_place`: the payload, with its tag, opened in place; what is
returned is the plaintext `open_in_place` leaves in front of the tag. -/
def decryptInPlace (k : PacketKey K) (packetNumber : UInt64) (header payload : List UInt8) :
    Except Error (List UInt8) :=
  match k.alg.aeadOpen k.key (Nonce.new k.iv packetNumber) header payload with
  | none => .error .decryptError
  | some plain => .ok plain

/-- The ciphertext takes the payload's place, and the tag has the
algorithm's tag length. -/
theorem length_encryptInPlace {k : PacketKey K} (hc : k.alg.Correct) (packetNumber : UInt64)
    (header payload : List UInt8) :
    (k.encryptInPlace packetNumber header payload).1.length = payload.length ∧
      (k.encryptInPlace packetNumber header payload).2.length = k.alg.tagLen := by
  simp [encryptInPlace, hc.length_seal]

/-- A packet opens, under the key, packet number and header it was sealed
with, to its payload. -/
theorem decryptInPlace_encryptInPlace {k : PacketKey K} (hc : k.alg.Correct) (packetNumber : UInt64)
    (header payload : List UInt8) :
    k.decryptInPlace packetNumber header
        ((k.encryptInPlace packetNumber header payload).1 ++ (k.encryptInPlace packetNumber header payload).2) =
      .ok payload := by
  simp only [encryptInPlace, List.take_append_drop, decryptInPlace, hc.open_seal]

end PacketKey

/-- `KeyBuilder` of `crypto/ring/quic.rs`: *ring*'s packet algorithm with
the length of its keys, its header protection algorithm (`HeaderProtectionKey::new`
on the key bytes), and the suite's limits. -/
structure KeyBuilder (K : Type) where
  packetAlg : Aead.Cipher K
  unboundKey : List UInt8 → K
  keyLen : Nat
  keyLen_le : keyLen ≤ 32
  headerAlg : List UInt8 → HeaderProtectionKey
  confidentialityLimit : UInt64
  integrityLimit : UInt64

/-- The `quic::Algorithm` implementation of `KeyBuilder`. -/
def KeyBuilder.toAlgorithm (b : KeyBuilder K) : Quic.Algorithm (PacketKey K) HeaderProtectionKey where
  packetKey key iv := .new key iv b.confidentialityLimit b.integrityLimit b.packetAlg b.unboundKey
  headerProtectionKey := b.headerAlg
  aeadKeyLen := b.keyLen
  aeadKeyLen_le := b.keyLen_le

open Quic

variable {E : Type} (expand : E → List (List UInt8) → (n : Nat) → Vector UInt8 n)

/-- Every packet key of every key phase seals with *ring*'s packet
algorithm. -/
theorem alg_of_mem_keyPhases (b : KeyBuilder K) {s : Secrets E (PacketKey K) HeaderProtectionKey}
    (hs : s.quic = b.toAlgorithm) {n : Nat} {k : PacketKeySet (PacketKey K)}
    (hk : k ∈ s.keyPhases expand n) : k.local.alg = b.packetAlg ∧ k.remote.alg = b.packetAlg := by
  obtain ⟨s', hquic, rfl⟩ := Secrets.exists_of_mem_keyPhases expand hk
  rw [hs] at hquic
  -- both keys come from the same builder, whose packet keys all use its algorithm
  simp only [PacketKeySet.new, KeyBuilder.packetKey, KeyBuilder.new, hquic]
  exact ⟨rfl, rfl⟩

/-- **A packet one end protects opens at the other.**  For every TLS 1.3
handshake carried over QUIC with *ring*'s keys, key phase by key phase: what
the client seals with its local packet key, under any packet number and
header, the server opens with its remote packet key of the same phase, and
the other way round. -/
theorem quic_packets_open_at_peer (h : Tls13Handshake E) (b : KeyBuilder K) (hc : b.packetAlg.Correct)
    (version : Version) (crl srl : SecretRecordLayer) (n : Nat) :
    List.Forall₂
      (fun kc ks : PacketKeySet (PacketKey K) => ∀ packetNumber header payload,
        ks.remote.decryptInPlace packetNumber header
            ((kc.local.encryptInPlace packetNumber header payload).1 ++
              (kc.local.encryptInPlace packetNumber header payload).2) = .ok payload ∧
          kc.remote.decryptInPlace packetNumber header
            ((ks.local.encryptInPlace packetNumber header payload).1 ++
              (ks.local.encryptInPlace packetNumber header payload).2) = .ok payload)
      (((h.clientRun crl).traffic.quicSecrets b.toAlgorithm .client version).keyPhases expand n)
      (((h.serverRun srl).traffic.quicSecrets b.toAlgorithm .server version).keyPhases expand n) := by
  -- the server's keys of each phase are the client's, swapped
  rw [h.traffic_quicSecrets_peer b.toAlgorithm version crl srl, Secrets.keyPhases_peer,
    List.forall₂_map_right_iff, List.forall₂_same]
  intro k hk packetNumber header payload
  obtain ⟨hlocal, hremote⟩ := alg_of_mem_keyPhases expand b rfl hk
  constructor
  · exact PacketKey.decryptInPlace_encryptInPlace (hlocal ▸ hc) packetNumber header payload
  · exact PacketKey.decryptInPlace_encryptInPlace (hremote ▸ hc) packetNumber header payload

/-- *ring*'s keys over the marking cipher, without header protection. -/
def markingKeyBuilder : KeyBuilder Unit :=
  ⟨Aead.marking [] [], fun _ => (), 16, aes128KeyLen_le, fun _ => ⟨fun _ => none⟩, 0, 0⟩

theorem resumed_packets_open_for_two_phases :
    List.Forall₂
      (fun kc ks : PacketKeySet (PacketKey Unit) => ∀ packetNumber header payload,
        ks.remote.decryptInPlace packetNumber header
            ((kc.local.encryptInPlace packetNumber header payload).1 ++
              (kc.local.encryptInPlace packetNumber header payload).2) = .ok payload ∧
          kc.remote.decryptInPlace packetNumber header
            ((ks.local.encryptInPlace packetNumber header payload).1 ++
              (ks.local.encryptInPlace packetNumber header payload).2) = .ok payload)
      (((resumedHandshake.clientRun idleRecordLayer).traffic.quicSecrets markingKeyBuilder.toAlgorithm .client
        .v1).keyPhases zeroExpand 2)
      (((resumedHandshake.serverRun idleRecordLayer).traffic.quicSecrets markingKeyBuilder.toAlgorithm .server
        .v1).keyPhases zeroExpand 2) :=
  quic_packets_open_at_peer zeroExpand resumedHandshake markingKeyBuilder (Aead.marking_correct [] []) .v1
    idleRecordLayer idleRecordLayer 2

end Rustls
