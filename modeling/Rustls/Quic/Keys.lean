import Rustls.Tls13.Epochs
import Rustls.Crypto.Cipher

/-!
The keys of a QUIC connection, from `quic.rs`.

QUIC takes no records from TLS, only secrets: it protects its packets itself.
Each encryption level has a pair of secrets, the client's and the server's
(`Secrets`).  The Initial level's come from the client's first destination
connection ID and the version's salt (`Keys::initial`); the Handshake and
1-RTT levels' are the traffic secrets of the TLS 1.3 key schedule, which
`into_handshake`, `into_traffic` and `into_traffic_with_client_finished_pending`
store for QUIC.  From one secret a `KeyBuilder` derives the key and IV of a
packet key and the key of a header protection key, under labels that depend
on the QUIC version.  Each end protects what it sends with its own secret and
reads with its peer's (`local_remote`).  A key update replaces both secrets by
their expansion under the version's key update label; it renews the packet
keys only (`next_packet_keys`), never the header protection keys.

So two ends that hold the same pair of secrets on opposite sides agree on
every key: one end's local key is the other's remote key, at every key phase
(`Keys.new_peer`, `Secrets.keyPhases_peer`).  Both ends of a TLS 1.3
handshake reach the same handshake and traffic schedules (`Tls13Handshake`),
so this holds at every level of every connection (`quic_keys_agree`).

HKDF-Expand into a fixed-size array (`crypto::tls13::expand`, through
`HkdfExpander::expand_slice`) is the parameter `expand`, uninterpreted like
the rest of the suite's `Hkdf`; its `expect` cannot fire for the 12 and 32
bytes asked here.  The suite's `quic` algorithm, which the key schedule
`unwrap`s, is passed in.
-/

namespace Rustls

namespace Quic

/-- `Version` of `quic.rs`. -/
inductive Version
  | v1Draft
  | v1
  | v2
  deriving DecidableEq, Repr

namespace Version

/-- `initial_salt`. -/
def initialSalt : Version → List UInt8
  | .v1Draft => [0xaf, 0xbf, 0xec, 0x28, 0x99, 0x93, 0xd2, 0x4c, 0x9e, 0x97, 0x86, 0xf1, 0x9c, 0x61,
      0x11, 0xe0, 0x43, 0x90, 0xa8, 0x99]
  | .v1 => [0x38, 0x76, 0x2c, 0xf7, 0xf5, 0x59, 0x34, 0xb3, 0x4d, 0x17, 0x9a, 0xe6, 0xa4, 0xc8,
      0x0c, 0xad, 0xcc, 0xbb, 0x7f, 0x0a]
  | .v2 => [0x0d, 0xed, 0xe3, 0xde, 0xf7, 0x00, 0xa6, 0xdb, 0x81, 0x93, 0x81, 0xbe, 0x6e, 0x26,
      0x9d, 0xcb, 0xf9, 0xbd, 0x2e, 0xd9]

/-- The label of one derivation: one text for the drafts and version 1, another
for version 2. -/
def label (v1Label v2Label : String) : Version → List UInt8
  | .v1Draft | .v1 => Bytes.ascii v1Label
  | .v2 => Bytes.ascii v2Label

/-- `packet_key_label`. -/
def packetKeyLabel (v : Version) : List UInt8 := label "quic key" "quicv2 key" v

/-- `packet_iv_label`. -/
def packetIvLabel (v : Version) : List UInt8 := label "quic iv" "quicv2 iv" v

/-- `header_key_label`. -/
def headerKeyLabel (v : Version) : List UInt8 := label "quic hp" "quicv2 hp" v

/-- `key_update_label`. -/
def keyUpdateLabel (v : Version) : List UInt8 := label "quic ku" "quicv2 ku" v

end Version

/-- The `Algorithm` trait: the packet key and the header protection key made
from derived key material, and the length of their keys.  An `AeadKey` holds
at most 32 bytes, and `with_length` asserts that the length fits. -/
structure Algorithm (P H : Type) where
  packetKey : List UInt8 → Iv → P
  headerProtectionKey : List UInt8 → H
  aeadKeyLen : Nat
  aeadKeyLen_le : aeadKeyLen ≤ 32

variable {E P H : Type} (expand : E → List (List UInt8) → (n : Nat) → Vector UInt8 n)

/-- `hkdf_expand_label`: HKDF-Expand-Label into an array of `n` bytes. -/
def hkdfExpandLabel (expander : E) (n : Nat) (label context : List UInt8) : Vector UInt8 n :=
  expand expander (hkdfExpandLabelInfo n label context) n

/-- `hkdf_expand_label_aead_key`: the info asks for `keyLen` bytes, the
expansion fills the 32 bytes of an `AeadKey`, and `with_length` keeps the
first `keyLen`. -/
def hkdfExpandLabelAeadKey (expander : E) (keyLen : Nat) (label context : List UInt8) :
    List UInt8 :=
  (expand expander (hkdfExpandLabelInfo keyLen label context) 32).toList.take keyLen

/-- `KeyBuilder`: the expander of one secret, with the version and algorithm. -/
structure KeyBuilder (E P H : Type) where
  expander : E
  version : Version
  alg : Algorithm P H

namespace KeyBuilder

/-- `KeyBuilder::new`. -/
def new (secret : List UInt8) (version : Version) (alg : Algorithm P H) (hkdf : Hkdf E) :
    KeyBuilder E P H :=
  ⟨hkdf.expanderForOkm secret, version, alg⟩

/-- `packet_key`. -/
def packetKey (b : KeyBuilder E P H) : P :=
  let packetKey := hkdfExpandLabelAeadKey expand b.expander b.alg.aeadKeyLen b.version.packetKeyLabel []
  let packetIv := hkdfExpandLabel expand b.expander nonceLen b.version.packetIvLabel []
  b.alg.packetKey packetKey ⟨packetIv.toList, by simp⟩

/-- `header_protection_key`. -/
def headerProtectionKey (b : KeyBuilder E P H) : H :=
  b.alg.headerProtectionKey
    (hkdfExpandLabelAeadKey expand b.expander b.alg.aeadKeyLen b.version.headerKeyLabel [])

end KeyBuilder

/-- `Secrets`: the client's and the server's secret of one level, with what
derives keys from them and the side of the end that holds them. -/
structure Secrets (E P H : Type) where
  client : List UInt8
  server : List UInt8
  suite : Tls13CipherSuite E
  quic : Algorithm P H
  side : Side
  version : Version

/-- `PacketKeySet`: the packet key for what this end sends, and the one for
what it receives. -/
structure PacketKeySet (P : Type) where
  «local» : P
  remote : P

/-- `DirectionalKeys`. -/
structure DirectionalKeys (P H : Type) where
  header : H
  packet : P

/-- `Keys`: header and packet keys for each direction. -/
structure Keys (P H : Type) where
  «local» : DirectionalKeys P H
  remote : DirectionalKeys P H

namespace Secrets

/-- `Secrets::new`. -/
def new (client server : List UInt8) (suite : Tls13CipherSuite E) (quic : Algorithm P H)
    (side : Side) (version : Version) : Secrets E P H :=
  ⟨client, server, suite, quic, side, version⟩

/-- `update`: both secrets expanded under the key update label. -/
def update (s : Secrets E P H) : Secrets E P H :=
  let hkdf := s.suite.hkdfProvider
  { s with
    client := hkdfExpandLabelBlock hkdf (hkdf.expanderForOkm s.client) s.version.keyUpdateLabel []
    server := hkdfExpandLabelBlock hkdf (hkdf.expanderForOkm s.server) s.version.keyUpdateLabel [] }

/-- `local_remote`: this end's secret, then its peer's. -/
def localRemote (s : Secrets E P H) : List UInt8 × List UInt8 :=
  match s.side with
  | .client => (s.client, s.server)
  | .server => (s.server, s.client)

end Secrets

/-- `PacketKeySet::new`. -/
def PacketKeySet.new (s : Secrets E P H) : PacketKeySet P :=
  let (l, r) := s.localRemote
  ⟨(KeyBuilder.new l s.version s.quic s.suite.hkdfProvider).packetKey expand,
    (KeyBuilder.new r s.version s.quic s.suite.hkdfProvider).packetKey expand⟩

/-- `next_packet_keys`: the packet keys of the current secrets, and the
secrets of the next key phase. -/
def Secrets.nextPacketKeys (s : Secrets E P H) : PacketKeySet P × Secrets E P H :=
  (PacketKeySet.new expand s, s.update)

/-- `DirectionalKeys::new`. -/
def DirectionalKeys.new (suite : Tls13CipherSuite E) (quic : Algorithm P H) (secret : List UInt8)
    (version : Version) : DirectionalKeys P H :=
  let builder := KeyBuilder.new secret version quic suite.hkdfProvider
  ⟨builder.headerProtectionKey expand, builder.packetKey expand⟩

/-- `Keys::new`. -/
def Keys.new (s : Secrets E P H) : Keys P H :=
  let (l, r) := s.localRemote
  ⟨DirectionalKeys.new expand s.suite s.quic l s.version,
    DirectionalKeys.new expand s.suite s.quic r s.version⟩

/-- `Keys::initial`: the secrets of the Initial level, from the client's
first destination connection ID under the version's salt. -/
def Keys.initial (version : Version) (suite : Tls13CipherSuite E) (quic : Algorithm P H)
    (clientDstConnectionId : List UInt8) (side : Side) : Keys P H :=
  let hsSecret := suite.hkdfProvider.extractFromSecret (some version.initialSalt) clientDstConnectionId
  Keys.new expand
    ⟨hkdfExpandLabelBlock suite.hkdfProvider hsSecret (Bytes.ascii "client in") [],
      hkdfExpandLabelBlock suite.hkdfProvider hsSecret (Bytes.ascii "server in") [],
      suite, quic, side, version⟩

/-! ### The two ends -/

/-- The other end's secrets: the same pair, held on the other side. -/
def Secrets.peer (s : Secrets E P H) : Secrets E P H :=
  { s with side := s.side.peer }

/-- The keys of the other end: what one sends with, the other reads with. -/
def PacketKeySet.swap (k : PacketKeySet P) : PacketKeySet P :=
  ⟨k.remote, k.local⟩

/-- `Keys.swap`: the directions exchanged. -/
def Keys.swap (k : Keys P H) : Keys P H :=
  ⟨k.remote, k.local⟩

namespace Secrets

@[simp] theorem peer_peer (s : Secrets E P H) : s.peer.peer = s := by
  simp [peer]

theorem localRemote_peer (s : Secrets E P H) : s.peer.localRemote = s.localRemote.swap := by
  cases hside : s.side with
  | client => simp [peer, localRemote, hside, Side.peer]
  | server => simp [peer, localRemote, hside, Side.peer]

/-- A key update does not look at the side, so the two ends stay each
other's peers after one. -/
theorem update_peer (s : Secrets E P H) : s.peer.update = s.update.peer := rfl

end Secrets

theorem PacketKeySet.new_peer (s : Secrets E P H) :
    PacketKeySet.new expand s.peer = (PacketKeySet.new expand s).swap := by
  unfold PacketKeySet.new
  rw [Secrets.localRemote_peer]
  rfl

theorem Keys.new_peer (s : Secrets E P H) : Keys.new expand s.peer = (Keys.new expand s).swap := by
  unfold Keys.new
  rw [Secrets.localRemote_peer]
  rfl

/-- The packet keys of the Keys' directions are those of `PacketKeySet::new`:
the first key phase uses the keys handed over with the level. -/
theorem Keys.new_packet (s : Secrets E P H) :
    (Keys.new expand s).local.packet = (PacketKeySet.new expand s).local ∧
      (Keys.new expand s).remote.packet = (PacketKeySet.new expand s).remote := ⟨rfl, rfl⟩

theorem Keys.initial_peer (version : Version) (suite : Tls13CipherSuite E) (quic : Algorithm P H)
    (clientDstConnectionId : List UInt8) (side : Side) :
    Keys.initial expand version suite quic clientDstConnectionId side.peer =
      (Keys.initial expand version suite quic clientDstConnectionId side).swap :=
  Keys.new_peer expand ⟨_, _, suite, quic, side, version⟩

namespace Secrets

/-- The packet keys of `n` key phases, as `n` calls of `next_packet_keys`
return them. -/
def keyPhases : Secrets E P H → Nat → List (PacketKeySet P)
  | _, 0 => []
  | s, n + 1 => (s.nextPacketKeys expand).1 :: keyPhases (s.nextPacketKeys expand).2 n

@[simp] theorem length_keyPhases (s : Secrets E P H) (n : Nat) : (s.keyPhases expand n).length = n := by
  induction n generalizing s with
  | zero => rfl
  | succ n ih => simp [keyPhases, ih]

/-- Every key phase's keys are those of secrets some key updates on, with the
algorithm they started with. -/
theorem exists_of_mem_keyPhases {s : Secrets E P H} {n : Nat} {k : PacketKeySet P}
    (hk : k ∈ s.keyPhases expand n) : ∃ s' : Secrets E P H, s'.quic = s.quic ∧ k = PacketKeySet.new expand s' := by
  induction n generalizing s with
  | zero => cases hk
  | succ n ih =>
    rcases List.mem_cons.mp hk with rfl | hlater
    · exact ⟨s, rfl, rfl⟩
    · obtain ⟨s', hquic, rfl⟩ := ih hlater
      exact ⟨s', hquic, rfl⟩

/-- **Key updates keep the ends in step.**  After any number of key updates
at each end, the two ends' packet keys of each phase are each other's. -/
theorem keyPhases_peer (s : Secrets E P H) (n : Nat) :
    s.peer.keyPhases expand n = (s.keyPhases expand n).map PacketKeySet.swap := by
  induction n generalizing s with
  | zero => rfl
  | succ n ih =>
    simp only [keyPhases, nextPacketKeys, List.map_cons, PacketKeySet.new_peer, update_peer, ih]

end Secrets

end Quic

open Quic

variable {E P H : Type}

/-- The QUIC secrets `into_handshake` stores: the two handshake traffic
secrets, for this end's side. -/
def KeyScheduleHandshake.quicSecrets (ks : KeyScheduleHandshake E) (quic : Algorithm P H) (side : Side)
    (version : Version) : Secrets E P H :=
  .new ks.clientHandshakeTrafficSecret ks.serverHandshakeTrafficSecret ks.ks.suite quic side version

/-- The QUIC secrets `into_traffic` (at the client) and
`into_traffic_with_client_finished_pending` (at the server) store: the two
application traffic secrets. -/
def KeyScheduleTraffic.quicSecrets (t : KeyScheduleTraffic E) (quic : Algorithm P H) (side : Side)
    (version : Version) : Secrets E P H :=
  .new t.currentClientTrafficSecret t.currentServerTrafficSecret t.ks.suite quic side version

namespace Tls13Handshake

variable (h : Tls13Handshake E)

/-- The handshake schedule the client reaches in `handle_server_hello`. -/
def clientHandshakeSchedule (rl : SecretRecordLayer) : KeyScheduleHandshake E :=
  (h.clientServerHello (h.clientHello rl).1 (h.clientHello rl).2.1 (h.clientHello rl).2.2).1

theorem clientHandshakeSchedule_eq (rl : SecretRecordLayer) :
    h.clientHandshakeSchedule rl = h.handshakeSchedule := by
  unfold clientHandshakeSchedule
  rw [clientHello_fst, clientServerHello_eq]
  exact (h.clientHandshakeSecrets_preHandshake _ _).1

variable (quic : Algorithm P H) (version : Version) (crl srl : SecretRecordLayer)

/-- The server stores for QUIC the handshake secrets the client stores, on
its own side. -/
theorem handshake_quicSecrets_peer :
    (h.serverHello srl).1.quicSecrets quic .server version =
      ((h.clientHandshakeSchedule crl).quicSecrets quic .client version).peer := by
  rw [(h.serverHello_spec srl).1, h.clientHandshakeSchedule_eq]
  rfl

/-- The server stores for QUIC the traffic secrets the client stores, on its
own side. -/
theorem traffic_quicSecrets_peer :
    (h.serverRun srl).traffic.quicSecrets quic .server version =
      ((h.clientRun crl).traffic.quicSecrets quic .client version).peer := by
  rw [h.serverRun_traffic, h.clientRun_traffic]
  rfl

end Tls13Handshake

variable (expand : E → List (List UInt8) → (n : Nat) → Vector UInt8 n)

/-- **The two ends of a QUIC connection agree on every key.**  For every
TLS 1.3 handshake, version and algorithm, the keys the server derives are the
client's with the directions exchanged: the Initial keys from the client's
connection ID, the Handshake keys from the secrets `into_handshake` stores at
each end, the 1-RTT keys from those of the traffic schedules, and the packet
keys of every key phase from there on. -/
theorem quic_keys_agree (h : Tls13Handshake E) (quic : Algorithm P H) (version : Version)
    (suite : Tls13CipherSuite E) (clientDstConnectionId : List UInt8) (crl srl : SecretRecordLayer)
    (n : Nat) :
    Keys.initial expand version suite quic clientDstConnectionId .server =
        (Keys.initial expand version suite quic clientDstConnectionId .client).swap ∧
      Keys.new expand ((h.serverHello srl).1.quicSecrets quic .server version) =
        (Keys.new expand ((h.clientHandshakeSchedule crl).quicSecrets quic .client version)).swap ∧
      Keys.new expand ((h.serverRun srl).traffic.quicSecrets quic .server version) =
        (Keys.new expand ((h.clientRun crl).traffic.quicSecrets quic .client version)).swap ∧
      ((h.serverRun srl).traffic.quicSecrets quic .server version).keyPhases expand n =
        (((h.clientRun crl).traffic.quicSecrets quic .client version).keyPhases expand n).map
          PacketKeySet.swap := by
  refine ⟨Keys.initial_peer expand version suite quic clientDstConnectionId .client, ?_, ?_, ?_⟩
  · rw [h.handshake_quicSecrets_peer quic version crl srl, Keys.new_peer]
  · rw [h.traffic_quicSecrets_peer quic version crl srl, Keys.new_peer]
  · rw [h.traffic_quicSecrets_peer quic version crl srl, Secrets.keyPhases_peer]

/-- An HKDF expansion that fills every array with zeros. -/
def zeroExpand : Unit → List (List UInt8) → (n : Nat) → Vector UInt8 n :=
  fun _ _ n => Vector.replicate n 0

/-- A 16-byte key, as AES-128's, fits an `AeadKey`. -/
theorem aes128KeyLen_le : (16 : Nat) ≤ 32 := by decide

/-- An algorithm whose keys carry nothing. -/
def unitAlgorithm : Algorithm Unit Unit :=
  ⟨fun _ _ => (), fun _ => (), 16, aes128KeyLen_le⟩

end Rustls
