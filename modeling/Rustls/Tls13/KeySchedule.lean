import Rustls.RecordLayer

/-!
The TLS 1.3 key schedule of `tls13/key_schedule.rs`.

`KeySchedule` holds the current HKDF expander and the suite.  The typestates
around it (`KeyScheduleEarly`, `KeySchedulePreHandshake`,
`KeyScheduleHandshakeStart`, `KeyScheduleHandshake`,
`KeyScheduleClientBeforeFinished`, `KeyScheduleTrafficWithClientFinishedPending`,
`KeyScheduleTraffic`) fix which secrets can be derived at which point of a
handshake, and which of them each end installs in its record layer.

HKDF is the suite's `Hkdf` provider of `crypto/tls13.rs`, left uninterpreted:
nothing here depends on what it computes, only on which arguments each end
passes it.  The record layer the key schedule writes to holds, for each
direction, the traffic secret its cipher was derived from: `set_encrypter`
and `set_decrypter` derive key and IV from the secret with the suite's HKDF
(`derive_traffic_key`, `derive_traffic_iv`), a fixed function of suite and
secret, so two ends on one suite that install the same secret install the
same cipher.  The key log and the QUIC secrets are not modelled.
-/

namespace Rustls

/-- The `Hkdf` trait of `crypto/tls13.rs` with the `HkdfExpander`s it returns,
as uninterpreted functions: `E` is `Box<dyn HkdfExpander>`, and an `info` is
the list of slices HKDF-Expand joins. -/
structure Hkdf (E : Type) where
  extractFromZeroIkm : Option (List UInt8) → E
  extractFromSecret : Option (List UInt8) → List UInt8 → E
  expanderForOkm : List UInt8 → E
  expandBlock : E → List (List UInt8) → List UInt8
  hashLen : E → Nat
  hmacSign : List UInt8 → List UInt8 → List UInt8

/-- What is read of a `Tls13CipherSuite`: its code point (`common.suite`), its
HKDF provider, the hash of the empty string under its hash provider, and the
confidentiality limit handed to the record layer. -/
structure Tls13CipherSuite (E : Type) where
  commonSuite : CipherSuite
  hkdfProvider : Hkdf E
  emptyHash : List UInt8
  confidentialityLimit : UInt64

/-- The record layer as the key schedule fills it: each cipher is given by
the traffic secret it was derived from. -/
abbrev SecretRecordLayer := RecordLayer (List UInt8) (List UInt8)

/-- `SecretKind`. -/
inductive SecretKind
  | resumptionPskBinderKey
  | clientEarlyTrafficSecret
  | clientHandshakeTrafficSecret
  | serverHandshakeTrafficSecret
  | clientApplicationTrafficSecret
  | serverApplicationTrafficSecret
  | exporterMasterSecret
  | resumptionMasterSecret
  | derivedSecret
  | serverEchConfirmationSecret
  | serverEchHrrConfirmationSecret
  deriving DecidableEq, Repr

/-- `SecretKind::to_bytes`: the HKDF label of each secret. -/
def SecretKind.toBytes : SecretKind → List UInt8
  | .resumptionPskBinderKey => Bytes.ascii "res binder"
  | .clientEarlyTrafficSecret => Bytes.ascii "c e traffic"
  | .clientHandshakeTrafficSecret => Bytes.ascii "c hs traffic"
  | .serverHandshakeTrafficSecret => Bytes.ascii "s hs traffic"
  | .clientApplicationTrafficSecret => Bytes.ascii "c ap traffic"
  | .serverApplicationTrafficSecret => Bytes.ascii "s ap traffic"
  | .exporterMasterSecret => Bytes.ascii "exp master"
  | .resumptionMasterSecret => Bytes.ascii "res master"
  | .derivedSecret => Bytes.ascii "derived"
  | .serverEchConfirmationSecret => Bytes.ascii "ech accept confirmation"
  | .serverEchHrrConfirmationSecret => Bytes.ascii "hrr ech accept confirmation"

/-- The `info` of `hkdf_expand_label_inner`: the output length `as u16`, the
label length `as u8`, `"tls13 "`, the label, the context length `as u8` and
the context. -/
def hkdfExpandLabelInfo (n : Nat) (label context : List UInt8) : List (List UInt8) :=
  let labelPrefix := Bytes.ascii "tls13 "
  [Bytes.be 2 n, [UInt8.ofNat (labelPrefix.length + label.length)], labelPrefix, label,
    [UInt8.ofNat context.length], context]

/-- `hkdf_expand_label_block`: one hash-length block. -/
def hkdfExpandLabelBlock {E : Type} (h : Hkdf E) (expander : E) (label context : List UInt8) :
    List UInt8 :=
  h.expandBlock expander (hkdfExpandLabelInfo (h.hashLen expander) label context)

/-- `KeySchedule`: the current secret, as its expander, and the suite. -/
structure KeySchedule (E : Type) where
  current : E
  suite : Tls13CipherSuite E

namespace KeySchedule

variable {E : Type}

/-- `KeySchedule::new`: extract from the given secret with no salt. -/
def new (suite : Tls13CipherSuite E) (secret : List UInt8) : KeySchedule E :=
  ⟨suite.hkdfProvider.extractFromSecret none secret, suite⟩

/-- `KeySchedule::new_with_empty_secret`. -/
def newWithEmptySecret (suite : Tls13CipherSuite E) : KeySchedule E :=
  ⟨suite.hkdfProvider.extractFromZeroIkm none, suite⟩

/-- `derive`: a secret of the given kind over the handshake hash. -/
def derive (ks : KeySchedule E) (kind : SecretKind) (hsHash : List UInt8) : List UInt8 :=
  hkdfExpandLabelBlock ks.suite.hkdfProvider ks.current kind.toBytes hsHash

/-- `derive_logged_secret`: `derive`, and a line to the key log. -/
def deriveLoggedSecret (ks : KeySchedule E) (kind : SecretKind) (hsHash : List UInt8) :
    List UInt8 :=
  ks.derive kind hsHash

/-- `derive_for_empty_hash`. -/
def deriveForEmptyHash (ks : KeySchedule E) (kind : SecretKind) : List UInt8 :=
  ks.derive kind ks.suite.emptyHash

/-- `input_empty`: the next stage, with the derived salt and no input. -/
def inputEmpty (ks : KeySchedule E) : KeySchedule E :=
  let salt := ks.deriveForEmptyHash .derivedSecret
  { ks with current := ks.suite.hkdfProvider.extractFromZeroIkm (some salt) }

/-- `input_secret`: the next stage, with the derived salt and the given input. -/
def inputSecret (ks : KeySchedule E) (secret : List UInt8) : KeySchedule E :=
  let salt := ks.deriveForEmptyHash .derivedSecret
  { ks with current := ks.suite.hkdfProvider.extractFromSecret (some salt) secret }

/-- `sign_verify_data`: HMAC under the `"finished"` key of `baseKey`. -/
def signVerifyData (ks : KeySchedule E) (baseKey hsHash : List UInt8) : List UInt8 :=
  let expander := ks.suite.hkdfProvider.expanderForOkm baseKey
  let hmacKey := hkdfExpandLabelBlock ks.suite.hkdfProvider expander (Bytes.ascii "finished") []
  ks.suite.hkdfProvider.hmacSign hmacKey hsHash

/-- `sign_finish`. -/
def signFinish (ks : KeySchedule E) (baseKey hsHash : List UInt8) : List UInt8 :=
  ks.signVerifyData baseKey hsHash

/-- `derive_next`: the next application traffic secret. -/
def deriveNext (ks : KeySchedule E) (baseKey : List UInt8) : List UInt8 :=
  let expander := ks.suite.hkdfProvider.expanderForOkm baseKey
  hkdfExpandLabelBlock ks.suite.hkdfProvider expander (Bytes.ascii "traffic upd") []

/-- `derive_ticket_psk`. -/
def deriveTicketPsk (ks : KeySchedule E) (rms nonce : List UInt8) : List UInt8 :=
  let expander := ks.suite.hkdfProvider.expanderForOkm rms
  hkdfExpandLabelBlock ks.suite.hkdfProvider expander (Bytes.ascii "resumption") nonce

/-- `set_encrypter`: encrypt from now on with the cipher of `secret`. -/
def setEncrypter (ks : KeySchedule E) (secret : List UInt8) (rl : SecretRecordLayer) :
    SecretRecordLayer :=
  rl.setMessageEncrypter secret ks.suite.confidentialityLimit

/-- `set_decrypter`. -/
def setDecrypter (_ks : KeySchedule E) (secret : List UInt8) (rl : SecretRecordLayer) :
    SecretRecordLayer :=
  rl.setMessageDecrypter secret

@[simp] theorem setEncrypter_messageEncrypter (ks : KeySchedule E) (s : List UInt8)
    (rl : SecretRecordLayer) : (ks.setEncrypter s rl).messageEncrypter = s := rfl

@[simp] theorem setEncrypter_messageDecrypter (ks : KeySchedule E) (s : List UInt8)
    (rl : SecretRecordLayer) : (ks.setEncrypter s rl).messageDecrypter = rl.messageDecrypter := rfl

@[simp] theorem setDecrypter_messageDecrypter (ks : KeySchedule E) (s : List UInt8)
    (rl : SecretRecordLayer) : (ks.setDecrypter s rl).messageDecrypter = s := rfl

@[simp] theorem setDecrypter_messageEncrypter (ks : KeySchedule E) (s : List UInt8)
    (rl : SecretRecordLayer) : (ks.setDecrypter s rl).messageEncrypter = rl.messageEncrypter := rfl

end KeySchedule

/-! ### The typestates -/

/-- `KeyScheduleEarly`. -/
structure KeyScheduleEarly (E : Type) where
  ks : KeySchedule E

/-- `KeySchedulePreHandshake`. -/
structure KeySchedulePreHandshake (E : Type) where
  ks : KeySchedule E

/-- `KeyScheduleHandshakeStart`. -/
structure KeyScheduleHandshakeStart (E : Type) where
  ks : KeySchedule E

/-- `KeyScheduleHandshake`. -/
structure KeyScheduleHandshake (E : Type) where
  ks : KeySchedule E
  clientHandshakeTrafficSecret : List UInt8
  serverHandshakeTrafficSecret : List UInt8

/-- `KeyScheduleTraffic`. -/
structure KeyScheduleTraffic (E : Type) where
  ks : KeySchedule E
  currentClientTrafficSecret : List UInt8
  currentServerTrafficSecret : List UInt8
  currentExporterSecret : List UInt8

/-- `KeyScheduleClientBeforeFinished`. -/
structure KeyScheduleClientBeforeFinished (E : Type) where
  traffic : KeyScheduleTraffic E

/-- `KeyScheduleTrafficWithClientFinishedPending`. -/
structure KeyScheduleTrafficWithClientFinishedPending (E : Type) where
  handshakeClientTrafficSecret : List UInt8
  traffic : KeyScheduleTraffic E

variable {E : Type}

namespace KeyScheduleEarly

/-- `KeyScheduleEarly::new`. -/
def new (suite : Tls13CipherSuite E) (secret : List UInt8) : KeyScheduleEarly E :=
  ⟨KeySchedule.new suite secret⟩

/-- `client_early_traffic_secret`: the client encrypts early data under it,
the server decrypts. -/
def clientEarlyTrafficSecret (e : KeyScheduleEarly E) (hsHash : List UInt8) (side : Side)
    (rl : SecretRecordLayer) : SecretRecordLayer :=
  let secret := e.ks.deriveLoggedSecret .clientEarlyTrafficSecret hsHash
  match side with
  | .client => e.ks.setEncrypter secret rl
  | .server => e.ks.setDecrypter secret rl

/-- `resumption_psk_binder_key_and_sign_verify_data`. -/
def resumptionPskBinderKeyAndSignVerifyData (e : KeyScheduleEarly E) (hsHash : List UInt8) :
    List UInt8 :=
  let resumptionPskBinderKey := e.ks.deriveForEmptyHash .resumptionPskBinderKey
  e.ks.signVerifyData resumptionPskBinderKey hsHash

end KeyScheduleEarly

namespace KeySchedulePreHandshake

/-- `KeySchedulePreHandshake::new`: no PSK. -/
def new (suite : Tls13CipherSuite E) : KeySchedulePreHandshake E :=
  ⟨KeySchedule.newWithEmptySecret suite⟩

/-- `From<KeyScheduleEarly>`: continue from the PSK's schedule. -/
def ofEarly (e : KeyScheduleEarly E) : KeySchedulePreHandshake E :=
  ⟨e.ks⟩

/-- `into_handshake`: input the (EC)DHE shared secret. -/
def intoHandshake (p : KeySchedulePreHandshake E) (sharedSecret : List UInt8) :
    KeyScheduleHandshakeStart E :=
  ⟨p.ks.inputSecret sharedSecret⟩

end KeySchedulePreHandshake

namespace KeyScheduleHandshakeStart

/-- The private `into_handshake`: both handshake traffic secrets over the
hash at the ServerHello. -/
def intoHandshake (s : KeyScheduleHandshakeStart E) (hsHash : List UInt8) :
    KeyScheduleHandshake E :=
  let clientSecret := s.ks.deriveLoggedSecret .clientHandshakeTrafficSecret hsHash
  let serverSecret := s.ks.deriveLoggedSecret .serverHandshakeTrafficSecret hsHash
  ⟨s.ks, clientSecret, serverSecret⟩

/-- `derive_client_handshake_secrets`: the suite is replaced (it may have
changed on resumption); decrypt with the server's secret, and encrypt with
the client's unless early data is still being sent. -/
def deriveClientHandshakeSecrets (s : KeyScheduleHandshakeStart E) (earlyDataEnabled : Bool)
    (hsHash : List UInt8) (suite : Tls13CipherSuite E) (rl : SecretRecordLayer) :
    KeyScheduleHandshake E × SecretRecordLayer :=
  let new := KeyScheduleHandshakeStart.intoHandshake ⟨{ s.ks with suite := suite }⟩ hsHash
  let rl := new.ks.setDecrypter new.serverHandshakeTrafficSecret rl
  let rl := if earlyDataEnabled then rl else new.ks.setEncrypter new.clientHandshakeTrafficSecret rl
  (new, rl)

/-- `derive_server_handshake_secrets`: encrypt with the server's secret; the
decrypter stays as it is. -/
def deriveServerHandshakeSecrets (s : KeyScheduleHandshakeStart E) (hsHash : List UInt8)
    (rl : SecretRecordLayer) : KeyScheduleHandshake E × SecretRecordLayer :=
  let new := s.intoHandshake hsHash
  (new, new.ks.setEncrypter new.serverHandshakeTrafficSecret rl)

end KeyScheduleHandshakeStart

namespace KeyScheduleTraffic

/-- `KeyScheduleTraffic::new`: input the empty secret, then the three
secrets over the hash at the server's Finished. -/
def new (ks : KeySchedule E) (hsHash : List UInt8) : KeyScheduleTraffic E :=
  let ks := ks.inputEmpty
  ⟨ks, ks.deriveLoggedSecret .clientApplicationTrafficSecret hsHash,
    ks.deriveLoggedSecret .serverApplicationTrafficSecret hsHash,
    ks.deriveLoggedSecret .exporterMasterSecret hsHash⟩

/-- The current application traffic secret of one side. -/
def currentTrafficSecret (t : KeyScheduleTraffic E) : Side → List UInt8
  | .client => t.currentClientTrafficSecret
  | .server => t.currentServerTrafficSecret

/-- `next_application_traffic_secret`: advance one side's secret and return it. -/
def nextApplicationTrafficSecret (t : KeyScheduleTraffic E) (side : Side) :
    List UInt8 × KeyScheduleTraffic E :=
  match side with
  | .client =>
    let secret := t.ks.deriveNext t.currentClientTrafficSecret
    (secret, { t with currentClientTrafficSecret := secret })
  | .server =>
    let secret := t.ks.deriveNext t.currentServerTrafficSecret
    (secret, { t with currentServerTrafficSecret := secret })

/-- `update_encrypter_and_notify`, for an end on `side`.  The KeyUpdate it
queues goes out under the old key; it is not modelled. -/
def updateEncrypterAndNotify (t : KeyScheduleTraffic E) (side : Side) (rl : SecretRecordLayer) :
    KeyScheduleTraffic E × SecretRecordLayer :=
  let (secret, t) := t.nextApplicationTrafficSecret side
  (t, t.ks.setEncrypter secret rl)

/-- `request_key_update_and_update_encrypter`: refused while a handshake
message is half received (`check_aligned_handshake`). -/
def requestKeyUpdateAndUpdateEncrypter (t : KeyScheduleTraffic E) (side : Side)
    (alignedHandshake : Bool) (rl : SecretRecordLayer) :
    Except Error (KeyScheduleTraffic E × SecretRecordLayer) :=
  if !alignedHandshake then .error (.peerMisbehaved .keyEpochWithPendingFragment)
  else
    let (secret, t) := t.nextApplicationTrafficSecret side
    .ok (t, t.ks.setEncrypter secret rl)

/-- `update_decrypter`: advance the peer's secret and decrypt with it. -/
def updateDecrypter (t : KeyScheduleTraffic E) (side : Side) (rl : SecretRecordLayer) :
    KeyScheduleTraffic E × SecretRecordLayer :=
  let (secret, t) := t.nextApplicationTrafficSecret side.peer
  (t, t.ks.setDecrypter secret rl)

/-- `resumption_master_secret_and_derive_ticket_psk`. -/
def resumptionMasterSecretAndDeriveTicketPsk (t : KeyScheduleTraffic E)
    (hsHash nonce : List UInt8) : List UInt8 :=
  let resumptionMasterSecret := t.ks.derive .resumptionMasterSecret hsHash
  t.ks.deriveTicketPsk resumptionMasterSecret nonce

end KeyScheduleTraffic

namespace KeyScheduleHandshake

/-- `sign_server_finish`. -/
def signServerFinish (h : KeyScheduleHandshake E) (hsHash : List UInt8) : List UInt8 :=
  h.ks.signFinish h.serverHandshakeTrafficSecret hsHash

/-- `set_handshake_encrypter` (client). -/
def setHandshakeEncrypter (h : KeyScheduleHandshake E) (rl : SecretRecordLayer) :
    SecretRecordLayer :=
  h.ks.setEncrypter h.clientHandshakeTrafficSecret rl

/-- `set_handshake_decrypter` (server): with a byte allowance when rejected
early data may still arrive. -/
def setHandshakeDecrypter (h : KeyScheduleHandshake E) (skipRequested : Option Nat)
    (rl : SecretRecordLayer) : SecretRecordLayer :=
  match skipRequested with
  | none => h.ks.setDecrypter h.clientHandshakeTrafficSecret rl
  | some maxEarlyDataSize =>
    rl.setMessageDecrypterWithTrialDecryption h.clientHandshakeTrafficSecret maxEarlyDataSize

/-- `into_traffic_with_client_finished_pending` (server): encrypt with the
server's first application secret. -/
def intoTrafficWithClientFinishedPending (h : KeyScheduleHandshake E) (hsHash : List UInt8)
    (rl : SecretRecordLayer) :
    KeyScheduleTrafficWithClientFinishedPending E × SecretRecordLayer :=
  let traffic := KeyScheduleTraffic.new h.ks hsHash
  (⟨h.clientHandshakeTrafficSecret, traffic⟩,
    traffic.ks.setEncrypter traffic.currentServerTrafficSecret rl)

/-- `into_pre_finished_client_traffic` (client): the traffic schedule, and the
client's Finished over the hash after its own flight. -/
def intoPreFinishedClientTraffic (h : KeyScheduleHandshake E)
    (preFinishedHash handshakeHash : List UInt8) :
    KeyScheduleClientBeforeFinished E × List UInt8 :=
  let traffic := KeyScheduleTraffic.new h.ks preFinishedHash
  let tag := traffic.ks.signFinish h.clientHandshakeTrafficSecret handshakeHash
  (⟨traffic⟩, tag)

end KeyScheduleHandshake

/-- `KeyScheduleClientBeforeFinished::into_traffic`: decrypt with the server's
and encrypt with the client's first application secret. -/
def KeyScheduleClientBeforeFinished.intoTraffic (c : KeyScheduleClientBeforeFinished E)
    (rl : SecretRecordLayer) : KeyScheduleTraffic E × SecretRecordLayer :=
  let rl := c.traffic.ks.setDecrypter c.traffic.currentServerTrafficSecret rl
  let rl := c.traffic.ks.setEncrypter c.traffic.currentClientTrafficSecret rl
  (c.traffic, rl)

namespace KeyScheduleTrafficWithClientFinishedPending

/-- `update_decrypter` (server, on EndOfEarlyData): the client's handshake
secret. -/
def updateDecrypter (p : KeyScheduleTrafficWithClientFinishedPending E)
    (rl : SecretRecordLayer) : SecretRecordLayer :=
  p.traffic.ks.setDecrypter p.handshakeClientTrafficSecret rl

/-- `sign_client_finish`: the Finished the client must send, and the switch
to the client's first application secret for reading. -/
def signClientFinish (p : KeyScheduleTrafficWithClientFinishedPending E) (hsHash : List UInt8)
    (rl : SecretRecordLayer) : (KeyScheduleTraffic E × List UInt8) × SecretRecordLayer :=
  let tag := p.traffic.ks.signFinish p.handshakeClientTrafficSecret hsHash
  let rl := p.traffic.ks.setDecrypter p.traffic.currentClientTrafficSecret rl
  ((p.traffic, tag), rl)

end KeyScheduleTrafficWithClientFinishedPending

/-! ### What each step installs

The typestate steps that touch the record layer, each with what it leaves
in the two directions.  `derive_client_handshake_secrets` re-reads the suite
it is given; when that is the suite the schedule already has, it derives
exactly the secrets of the private `into_handshake`. -/

@[simp] theorem KeySchedule.suite_inputSecret (ks : KeySchedule E) (secret : List UInt8) :
    (ks.inputSecret secret).suite = ks.suite := rfl

@[simp] theorem KeySchedule.suite_inputEmpty (ks : KeySchedule E) :
    (ks.inputEmpty).suite = ks.suite := rfl

namespace KeyScheduleHandshakeStart

variable {s : KeyScheduleHandshakeStart E} {suite : Tls13CipherSuite E}

theorem deriveClientHandshakeSecrets_fst (hs : s.ks.suite = suite) (e : Bool)
    (hsHash : List UInt8) (rl : SecretRecordLayer) :
    (s.deriveClientHandshakeSecrets e hsHash suite rl).1 = s.intoHandshake hsHash := by
  subst hs
  rfl

theorem deriveClientHandshakeSecrets_decrypter (hs : s.ks.suite = suite) (e : Bool)
    (hsHash : List UInt8) (rl : SecretRecordLayer) :
    (s.deriveClientHandshakeSecrets e hsHash suite rl).2.messageDecrypter =
      (s.intoHandshake hsHash).serverHandshakeTrafficSecret := by
  subst hs
  cases e <;> rfl

theorem deriveClientHandshakeSecrets_encrypter (hs : s.ks.suite = suite) (e : Bool)
    (hsHash : List UInt8) (rl : SecretRecordLayer) :
    (s.deriveClientHandshakeSecrets e hsHash suite rl).2.messageEncrypter =
      if e then rl.messageEncrypter else (s.intoHandshake hsHash).clientHandshakeTrafficSecret := by
  subst hs
  cases e <;> rfl

@[simp] theorem deriveServerHandshakeSecrets_fst (hsHash : List UInt8) (rl : SecretRecordLayer) :
    (s.deriveServerHandshakeSecrets hsHash rl).1 = s.intoHandshake hsHash := rfl

@[simp] theorem deriveServerHandshakeSecrets_encrypter (hsHash : List UInt8)
    (rl : SecretRecordLayer) :
    (s.deriveServerHandshakeSecrets hsHash rl).2.messageEncrypter =
      (s.intoHandshake hsHash).serverHandshakeTrafficSecret := rfl

@[simp] theorem deriveServerHandshakeSecrets_decrypter (hsHash : List UInt8)
    (rl : SecretRecordLayer) :
    (s.deriveServerHandshakeSecrets hsHash rl).2.messageDecrypter = rl.messageDecrypter := rfl

end KeyScheduleHandshakeStart

namespace KeyScheduleHandshake

variable (ks : KeyScheduleHandshake E) (rl : SecretRecordLayer)

@[simp] theorem setHandshakeEncrypter_encrypter :
    (ks.setHandshakeEncrypter rl).messageEncrypter = ks.clientHandshakeTrafficSecret := rfl

@[simp] theorem setHandshakeEncrypter_decrypter :
    (ks.setHandshakeEncrypter rl).messageDecrypter = rl.messageDecrypter := rfl

/-- Both forms of `set_handshake_decrypter` read the client's handshake
secret; they differ only in the trial-decryption allowance. -/
@[simp] theorem setHandshakeDecrypter_decrypter (skip : Option Nat) :
    (ks.setHandshakeDecrypter skip rl).messageDecrypter = ks.clientHandshakeTrafficSecret := by
  cases skip <;> rfl

@[simp] theorem setHandshakeDecrypter_encrypter (skip : Option Nat) :
    (ks.setHandshakeDecrypter skip rl).messageEncrypter = rl.messageEncrypter := by
  cases skip <;> rfl

variable (hsHash : List UInt8)

@[simp] theorem intoTrafficWithClientFinishedPending_traffic :
    (ks.intoTrafficWithClientFinishedPending hsHash rl).1.traffic =
      KeyScheduleTraffic.new ks.ks hsHash := rfl

@[simp] theorem intoTrafficWithClientFinishedPending_handshakeClientTrafficSecret :
    (ks.intoTrafficWithClientFinishedPending hsHash rl).1.handshakeClientTrafficSecret =
      ks.clientHandshakeTrafficSecret := rfl

@[simp] theorem intoTrafficWithClientFinishedPending_encrypter :
    (ks.intoTrafficWithClientFinishedPending hsHash rl).2.messageEncrypter =
      (KeyScheduleTraffic.new ks.ks hsHash).currentServerTrafficSecret := rfl

@[simp] theorem intoTrafficWithClientFinishedPending_decrypter :
    (ks.intoTrafficWithClientFinishedPending hsHash rl).2.messageDecrypter = rl.messageDecrypter := rfl

@[simp] theorem intoPreFinishedClientTraffic_traffic (handshakeHash : List UInt8) :
    (ks.intoPreFinishedClientTraffic hsHash handshakeHash).1.traffic =
      KeyScheduleTraffic.new ks.ks hsHash := rfl

end KeyScheduleHandshake

@[simp] theorem KeyScheduleClientBeforeFinished.intoTraffic_fst
    (c : KeyScheduleClientBeforeFinished E) (rl : SecretRecordLayer) :
    (c.intoTraffic rl).1 = c.traffic := rfl

namespace KeyScheduleTrafficWithClientFinishedPending

variable (p : KeyScheduleTrafficWithClientFinishedPending E) (rl : SecretRecordLayer)

@[simp] theorem updateDecrypter_decrypter :
    (p.updateDecrypter rl).messageDecrypter = p.handshakeClientTrafficSecret := rfl

@[simp] theorem updateDecrypter_encrypter :
    (p.updateDecrypter rl).messageEncrypter = rl.messageEncrypter := rfl

variable (hsHash : List UInt8)

@[simp] theorem signClientFinish_traffic :
    (p.signClientFinish hsHash rl).1.1 = p.traffic := rfl

@[simp] theorem signClientFinish_decrypter :
    (p.signClientFinish hsHash rl).2.messageDecrypter = p.traffic.currentClientTrafficSecret := rfl

@[simp] theorem signClientFinish_encrypter :
    (p.signClientFinish hsHash rl).2.messageEncrypter = rl.messageEncrypter := rfl

end KeyScheduleTrafficWithClientFinishedPending

/-! ### Key updates

At the traffic stage each end only advances application traffic secrets:
its own when it updates its encrypter, its peer's when it processes the
peer's KeyUpdate.  A run of such calls therefore leaves each side's secret
at the traffic secret it started from, advanced once per call that touches
that side (`currentTrafficSecret_updates`), and keeps the record layer on
the current secrets (`Installed`). -/

/-- A key-schedule call of `KeyScheduleTraffic` at the traffic stage. -/
inductive TrafficUpdate
  | updateEncrypterAndNotify
  | requestKeyUpdateAndUpdateEncrypter (alignedHandshake : Bool)
  | updateDecrypter
  deriving DecidableEq, Repr

namespace TrafficUpdate

/-- The call, made by the end on `side`. -/
def apply (u : TrafficUpdate) (side : Side) (t : KeyScheduleTraffic E) (rl : SecretRecordLayer) :
    Except Error (KeyScheduleTraffic E × SecretRecordLayer) :=
  match u with
  | .updateEncrypterAndNotify => .ok (t.updateEncrypterAndNotify side rl)
  | .requestKeyUpdateAndUpdateEncrypter aligned => t.requestKeyUpdateAndUpdateEncrypter side aligned rl
  | .updateDecrypter => .ok (t.updateDecrypter side rl)

/-- Whether the call, made by the end on `side`, advances the secret of `s`. -/
def advances (side s : Side) : TrafficUpdate → Bool
  | .updateDecrypter => s == side.peer
  | _ => s == side

end TrafficUpdate

namespace KeyScheduleTraffic

/-- The calls of one end, in order; the first refused call ends the run. -/
def updates (side : Side) : List TrafficUpdate → KeyScheduleTraffic E → SecretRecordLayer →
    Except Error (KeyScheduleTraffic E × SecretRecordLayer)
  | [], t, rl => .ok (t, rl)
  | u :: us, t, rl =>
    match u.apply side t rl with
    | .ok (t', rl') => updates side us t' rl'
    | .error e => .error e

/-- The record layer of the end on `side` uses the current secrets: its own
for encrypting, its peer's for decrypting. -/
structure Installed (side : Side) (t : KeyScheduleTraffic E) (rl : SecretRecordLayer) : Prop where
  encrypter : rl.messageEncrypter = t.currentTrafficSecret side
  decrypter : rl.messageDecrypter = t.currentTrafficSecret side.peer

@[simp] theorem ks_nextApplicationTrafficSecret (t : KeyScheduleTraffic E) (side : Side) :
    (t.nextApplicationTrafficSecret side).2.ks = t.ks := by
  cases side <;> rfl

@[simp] theorem fst_nextApplicationTrafficSecret (t : KeyScheduleTraffic E) (side : Side) :
    (t.nextApplicationTrafficSecret side).1 = t.ks.deriveNext (t.currentTrafficSecret side) := by
  cases side <;> rfl

/-- Advancing one side's secret leaves the other's as it was. -/
theorem currentTrafficSecret_next (t : KeyScheduleTraffic E) (side s : Side) :
    (t.nextApplicationTrafficSecret side).2.currentTrafficSecret s =
      if s = side then t.ks.deriveNext (t.currentTrafficSecret s) else t.currentTrafficSecret s := by
  cases side <;> cases s <;> rfl

/-- **One call**: the schedule keeps its stage, each secret advances exactly
when the call touches it, and the record layer stays on the current secrets. -/
theorem apply_ok {u : TrafficUpdate} {side : Side} {t t' : KeyScheduleTraffic E}
    {rl rl' : SecretRecordLayer} (h : u.apply side t rl = .ok (t', rl'))
    (hinst : Installed side t rl) :
    t'.ks = t.ks ∧
      (∀ s, t'.currentTrafficSecret s =
        if u.advances side s then t.ks.deriveNext (t.currentTrafficSecret s)
        else t.currentTrafficSecret s) ∧
      Installed side t' rl' := by
  -- the two encrypter updates advance our own secret, `updateDecrypter` the peer's
  have henc : t.updateEncrypterAndNotify side rl = (t', rl') →
      t'.ks = t.ks ∧
        (∀ s, t'.currentTrafficSecret s =
          if s = side then t.ks.deriveNext (t.currentTrafficSecret s)
          else t.currentTrafficSecret s) ∧
        Installed side t' rl' := by
    intro he
    simp only [updateEncrypterAndNotify, Prod.mk.injEq] at he
    obtain ⟨rfl, rfl⟩ := he
    refine ⟨by simp, fun s => currentTrafficSecret_next t side s, ?_, ?_⟩
    · simp [currentTrafficSecret_next]
    · have hne : side.peer ≠ side := by cases side <;> decide
      simp [currentTrafficSecret_next, hne, hinst.decrypter]
  cases u with
  | updateEncrypterAndNotify =>
    simp only [TrafficUpdate.apply, Except.ok.injEq] at h
    simpa [TrafficUpdate.advances] using henc h
  | requestKeyUpdateAndUpdateEncrypter aligned =>
    cases aligned with
    | false => simp [TrafficUpdate.apply, requestKeyUpdateAndUpdateEncrypter] at h
    | true =>
      simp only [TrafficUpdate.apply, requestKeyUpdateAndUpdateEncrypter, Bool.not_true,
        Bool.false_eq_true, if_false, Except.ok.injEq] at h
      simpa [TrafficUpdate.advances] using henc h
  | updateDecrypter =>
    simp only [TrafficUpdate.apply, updateDecrypter, Except.ok.injEq, Prod.mk.injEq] at h
    obtain ⟨rfl, rfl⟩ := h
    have hne : side ≠ side.peer := by cases side <;> decide
    refine ⟨by simp, ?_, ?_, ?_⟩
    · intro s
      simpa [TrafficUpdate.advances] using currentTrafficSecret_next t side.peer s
    · simp [currentTrafficSecret_next, hne, hinst.encrypter]
    · simp [currentTrafficSecret_next]

/-- The number of calls among `us` that advance the secret of `s`. -/
def advanced (side s : Side) (us : List TrafficUpdate) : Nat :=
  us.countP (TrafficUpdate.advances side s)

/-- **A whole run**: each side's secret is its starting secret advanced once
per call that touches it, and the record layer is on the current secrets. -/
theorem updates_ok (side : Side) :
    ∀ (us : List TrafficUpdate) {t t' : KeyScheduleTraffic E} {rl rl' : SecretRecordLayer},
      updates side us t rl = .ok (t', rl') → Installed side t rl →
      t'.ks = t.ks ∧
        (∀ s, t'.currentTrafficSecret s =
          t.ks.deriveNext^[advanced side s us] (t.currentTrafficSecret s)) ∧
        Installed side t' rl' := by
  intro us
  induction us with
  | nil =>
    intro t t' rl rl' h hinst
    simp only [updates, Except.ok.injEq, Prod.mk.injEq] at h
    obtain ⟨rfl, rfl⟩ := h
    exact ⟨rfl, fun s => rfl, hinst⟩
  | cons u us ih =>
    intro t t' rl rl' h hinst
    simp only [updates] at h
    split at h
    · rename_i t₁ rl₁ h₁
      obtain ⟨hks₁, hsec₁, hinst₁⟩ := apply_ok h₁ hinst
      obtain ⟨hks, hsec, hinst'⟩ := ih h hinst₁
      refine ⟨hks.trans hks₁, fun s => ?_, hinst'⟩
      rw [hsec s, hsec₁ s, hks₁]
      -- the first call contributes one step exactly when it touches `s`
      by_cases hu : u.advances side s
      · simp only [hu, if_true, advanced, List.countP_cons_of_pos hu]
        rw [Function.iterate_succ_apply]
      · simp only [hu, if_false, advanced, Bool.false_eq_true, not_false_eq_true,
          List.countP_cons_of_neg]
    · simp at h

end KeyScheduleTraffic

/-- `into_traffic` leaves the client reading the server's first application
secret and writing its own. -/
theorem KeyScheduleClientBeforeFinished.installed_intoTraffic
    (c : KeyScheduleClientBeforeFinished E) (rl : SecretRecordLayer) :
    KeyScheduleTraffic.Installed .client c.traffic (c.intoTraffic rl).2 :=
  ⟨rfl, rfl⟩

end Rustls
