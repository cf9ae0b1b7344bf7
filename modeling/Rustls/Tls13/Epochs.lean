import Rustls.Tls13.KeySchedule
import Rustls.Tls12.ConnectionSecrets

/-!
Which keys the two ends of a TLS 1.3 handshake install, and when.

The client (`client/hs.rs`, `client/tls13.rs`) and the server
(`server/tls13.rs`) drive the key schedule from different handlers and in a
different order: the client derives the early-data secret when it sends the
ClientHello and switches its encrypter at one of three points depending on
what became of its early data, while the server derives everything when it
sends the ServerHello and switches its decrypter at one of two.  Below, the
key-schedule steps of each handler are cut out of it as functions over the
record layer, and the two ends are run side by side on what they share:
suite, PSK, (EC)DHE secret and transcript hashes.

The main facts are that both ends reach the same handshake schedule
(`clientServerHello_eq`, `serverHello_spec`) and the same traffic schedule
(`clientRun_traffic`, `serverRun_traffic`), and that at every point where
one end encrypts, the other decrypts with the same secret.
-/

namespace Rustls

variable {E : Type}

/-- `EarlyDataDecision` of `server/tls13.rs`. -/
inductive EarlyDataDecision
  | disabled
  | requestedButRejected
  | accepted
  deriving DecidableEq, Repr

/-- The private `max_early_data_size` of `server/tls13.rs`: how much rejected
early data the server skips; with early data switched off, one record. -/
def maxEarlyDataSize (configured : UInt32) : Nat :=
  if configured ≠ 0 then configured.toNat else 16384

/-- One TLS 1.3 handshake as both key schedules see it: what the client
offers, what the server chooses and announces, and the shared secret and
transcript hashes both compute.  The server resumes only a PSK the client
offered, and accepts early data only on a resumption that sent some, and
the client sends early data only with a PSK. -/
structure Tls13Handshake (E : Type) where
  suite : Tls13CipherSuite E
  offeredPsk : Option (List UInt8)
  earlyData : Bool
  pskAccepted : Bool
  earlyDataAccepted : Bool
  sharedSecret : List UInt8
  clientHelloHash : List UInt8
  serverHelloHash : List UInt8
  serverFinishedHash : List UInt8
  clientFinishedHash : List UInt8
  configMaxEarlyDataSize : UInt32
  early_data_offered : earlyData = true → offeredPsk.isSome
  psk_offered : pskAccepted = true → offeredPsk.isSome
  early_data_accepted : earlyDataAccepted = true → pskAccepted = true ∧ earlyData = true

namespace Tls13Handshake

variable (h : Tls13Handshake E)

/-- The PSK the server resumes with. -/
def resumingPsk : Option (List UInt8) :=
  if h.pskAccepted then h.offeredPsk else none

/-- What the server decided about the client's early data. -/
def earlyDataDecision : EarlyDataDecision :=
  if h.earlyDataAccepted then .accepted
  else if h.earlyData then .requestedButRejected
  else .disabled

/-! ### The client -/

/-- The key-schedule steps of `emit_client_hello_for_retry`:
`fill_in_psk_binder` builds the early schedule from the offered PSK, and
`derive_early_traffic_secret` installs the early-data encrypter when early
data is sent.  The flag is `common.early_traffic`. -/
def clientHello (rl : SecretRecordLayer) :
    Option (KeyScheduleEarly E) × Bool × SecretRecordLayer :=
  match h.offeredPsk with
  | none => (none, false, rl)
  | some psk =>
    let schedule := KeyScheduleEarly.new h.suite psk
    if h.earlyData then
      (some schedule, true, schedule.clientEarlyTrafficSecret h.clientHelloHash .client rl)
    else (some schedule, false, rl)

/-- `into_handshake` and `derive_client_handshake_secrets`, as
`handle_server_hello` calls them on either branch. -/
def clientHandshakeSecrets (pre : KeySchedulePreHandshake E) (earlyTraffic : Bool)
    (rl : SecretRecordLayer) : KeyScheduleHandshake E × Bool × SecretRecordLayer :=
  let next := (pre.intoHandshake h.sharedSecret).deriveClientHandshakeSecrets earlyTraffic
    h.serverHelloHash h.suite rl
  (next.1, earlyTraffic, next.2)

/-- The key-schedule steps of `handle_server_hello`: continue from the early
schedule if the server took the PSK, else start afresh and stop early data. -/
def clientServerHello (early : Option (KeyScheduleEarly E)) (earlyTraffic : Bool)
    (rl : SecretRecordLayer) : KeyScheduleHandshake E × Bool × SecretRecordLayer :=
  match h.pskAccepted, early with
  | true, some schedule => h.clientHandshakeSecrets (.ofEarly schedule) earlyTraffic rl
  | _, _ => h.clientHandshakeSecrets (.new h.suite) false rl

/-- The key-schedule step of `ExpectEncryptedExtensions::handle`: early data
the server did not acknowledge is over, and the handshake encrypter takes
its place. -/
def clientEncryptedExtensions (ks : KeyScheduleHandshake E) (earlyTraffic : Bool)
    (rl : SecretRecordLayer) : Bool × SecretRecordLayer :=
  if earlyTraffic && !h.earlyDataAccepted then (false, ks.setHandshakeEncrypter rl)
  else (earlyTraffic, rl)

/-- The key-schedule steps of `ExpectFinished::handle`: after EndOfEarlyData
the handshake encrypter, under which the client's flight goes out; then the
traffic secrets.  Returns the record layer of the flight and of traffic. -/
def clientFinished (ks : KeyScheduleHandshake E) (earlyTraffic : Bool) (rl : SecretRecordLayer) :
    SecretRecordLayer × KeyScheduleTraffic E × SecretRecordLayer :=
  let rl := if earlyTraffic then ks.setHandshakeEncrypter rl else rl
  let preFinished := (ks.intoPreFinishedClientTraffic h.serverFinishedHash h.clientFinishedHash).1
  let next := preFinished.intoTraffic rl
  (rl, next.1, next.2)

/-! ### The server -/

/-- `into_handshake` and `derive_server_handshake_secrets`, as
`emit_server_hello` calls them on either branch. -/
def serverHandshakeSecrets (pre : KeySchedulePreHandshake E) (rl : SecretRecordLayer) :
    KeyScheduleHandshake E × SecretRecordLayer :=
  (pre.intoHandshake h.sharedSecret).deriveServerHandshakeSecrets h.serverHelloHash rl

/-- The key-schedule steps of `emit_server_hello`: on resumption the early
schedule and the early-data decrypter, then the handshake secrets. -/
def serverHello (rl : SecretRecordLayer) : KeyScheduleHandshake E × SecretRecordLayer :=
  match h.resumingPsk with
  | some psk =>
    let early := KeyScheduleEarly.new h.suite psk
    h.serverHandshakeSecrets (.ofEarly early) (early.clientEarlyTrafficSecret h.clientHelloHash .server rl)
  | none => h.serverHandshakeSecrets (.new h.suite) rl

/-- The decrypter switch of `handle_client_hello`: unless early data is
accepted, read the handshake secret from now on, skipping rejected early
data if some was offered. -/
def serverEarlyDataDecision (ks : KeyScheduleHandshake E) (rl : SecretRecordLayer) :
    SecretRecordLayer :=
  match h.earlyDataDecision with
  | .disabled => ks.setHandshakeDecrypter none rl
  | .requestedButRejected => ks.setHandshakeDecrypter (some (maxEarlyDataSize h.configMaxEarlyDataSize)) rl
  | .accepted => rl

/-- The key-schedule step of `emit_finished_tls13`. -/
def serverFinished (ks : KeyScheduleHandshake E) (rl : SecretRecordLayer) :
    KeyScheduleTrafficWithClientFinishedPending E × SecretRecordLayer :=
  ks.intoTrafficWithClientFinishedPending h.serverFinishedHash rl

/-- The key-schedule step of `ExpectEarlyData::handle` on EndOfEarlyData, when
early data was accepted. -/
def serverEndOfEarlyData (p : KeyScheduleTrafficWithClientFinishedPending E)
    (rl : SecretRecordLayer) : SecretRecordLayer :=
  if h.earlyDataAccepted then p.updateDecrypter rl else rl

/-- The key-schedule step of `ExpectFinished::handle`. -/
def serverClientFinished (p : KeyScheduleTrafficWithClientFinishedPending E)
    (rl : SecretRecordLayer) : (KeyScheduleTraffic E × List UInt8) × SecretRecordLayer :=
  p.signClientFinish h.clientFinishedHash rl

/-! ### The two runs -/

/-- The client's record layer where it uses a new key: while it sends early
data, while it reads the server's flight, while it sends its own flight,
and in traffic, with its traffic schedule. -/
structure ClientKeys (E : Type) where
  earlyData : SecretRecordLayer
  handshakeRead : SecretRecordLayer
  handshakeWrite : SecretRecordLayer
  traffic : KeyScheduleTraffic E
  trafficLayer : SecretRecordLayer

/-- The server's record layer where it uses a new key: while it sends its
flight, while it reads early data, while it reads the client's flight, and
in traffic, with its traffic schedule. -/
structure ServerKeys (E : Type) where
  handshakeWrite : SecretRecordLayer
  earlyData : SecretRecordLayer
  handshakeRead : SecretRecordLayer
  traffic : KeyScheduleTraffic E
  trafficLayer : SecretRecordLayer

/-- The client's handshake, handler after handler. -/
def clientRun (rl : SecretRecordLayer) : ClientKeys E :=
  let hello := h.clientHello rl
  let serverHello := h.clientServerHello hello.1 hello.2.1 hello.2.2
  let extensions := h.clientEncryptedExtensions serverHello.1 serverHello.2.1 serverHello.2.2
  let finished := h.clientFinished serverHello.1 extensions.1 extensions.2
  ⟨hello.2.2, serverHello.2.2, finished.1, finished.2.1, finished.2.2⟩

/-- The server's handshake, handler after handler. -/
def serverRun (rl : SecretRecordLayer) : ServerKeys E :=
  let hello := h.serverHello rl
  let decided := h.serverEarlyDataDecision hello.1 hello.2
  let finished := h.serverFinished hello.1 decided
  let endOfEarlyData := h.serverEndOfEarlyData finished.1 finished.2
  let clientFinished := h.serverClientFinished finished.1 endOfEarlyData
  ⟨hello.2, decided, endOfEarlyData, clientFinished.1.1, clientFinished.2⟩

/-! ### What both ends compute -/

/-- The schedule both ends derive the handshake secrets from: the PSK's, on
resumption. -/
def preHandshake : KeySchedulePreHandshake E :=
  match h.resumingPsk with
  | some psk => .ofEarly (KeyScheduleEarly.new h.suite psk)
  | none => .new h.suite

/-- The handshake schedule both ends reach. -/
def handshakeSchedule : KeyScheduleHandshake E :=
  (h.preHandshake.intoHandshake h.sharedSecret).intoHandshake h.serverHelloHash

/-- The traffic schedule both ends reach. -/
def trafficSchedule : KeyScheduleTraffic E :=
  KeyScheduleTraffic.new h.handshakeSchedule.ks h.serverFinishedHash

/-- The client's early traffic secret under a PSK. -/
def earlyTrafficSecret (psk : List UInt8) : List UInt8 :=
  (KeyScheduleEarly.new h.suite psk).ks.deriveLoggedSecret .clientEarlyTrafficSecret
    h.clientHelloHash

theorem suite_preHandshake : h.preHandshake.ks.suite = h.suite := by
  unfold preHandshake
  split <;> rfl

/-! ### The client's steps -/

variable (rl : SecretRecordLayer)

theorem clientHello_fst : (h.clientHello rl).1 = h.offeredPsk.map (KeyScheduleEarly.new h.suite) := by
  unfold clientHello
  split
  · rename_i hnone
    rw [hnone]
    rfl
  · rename_i psk hpsk
    rw [hpsk]
    cases h.earlyData <;> rfl

/-- The client sends early data exactly when it is enabled: there is a PSK
whenever it is. -/
theorem clientHello_earlyTraffic : (h.clientHello rl).2.1 = h.earlyData := by
  unfold clientHello
  split
  · rename_i hnone
    cases hed : h.earlyData with
    | false => rfl
    | true =>
      have hsome := h.early_data_offered hed
      simp [hnone] at hsome
  · cases h.earlyData <;> rfl

theorem clientHello_encrypter {psk : List UInt8} (hpsk : h.offeredPsk = some psk)
    (hed : h.earlyData = true) :
    (h.clientHello rl).2.2.messageEncrypter = h.earlyTrafficSecret psk := by
  unfold clientHello
  rw [hpsk]
  simp only [hed, if_true]
  rfl

/-- On either branch of `handle_server_hello` the client continues from the
schedule the server continues from, and it keeps sending early data only on
a resumption. -/
theorem clientServerHello_eq (e : Bool) :
    h.clientServerHello (h.offeredPsk.map (KeyScheduleEarly.new h.suite)) e rl =
      h.clientHandshakeSecrets h.preHandshake (e && h.pskAccepted) rl := by
  unfold clientServerHello preHandshake resumingPsk
  cases hacc : h.pskAccepted with
  | false => simp
  | true =>
    obtain ⟨psk, hpsk⟩ := Option.isSome_iff_exists.mp (h.psk_offered hacc)
    simp [hpsk]

/-- What the client leaves after the ServerHello: the common handshake
schedule, the server's handshake secret for reading, and the client's for
writing unless it is still sending early data. -/
theorem clientHandshakeSecrets_preHandshake (e : Bool) :
    (h.clientHandshakeSecrets h.preHandshake e rl).1 = h.handshakeSchedule ∧
      (h.clientHandshakeSecrets h.preHandshake e rl).2.1 = e ∧
      (h.clientHandshakeSecrets h.preHandshake e rl).2.2.messageDecrypter =
        h.handshakeSchedule.serverHandshakeTrafficSecret ∧
      (h.clientHandshakeSecrets h.preHandshake e rl).2.2.messageEncrypter =
        if e then rl.messageEncrypter else h.handshakeSchedule.clientHandshakeTrafficSecret := by
  have hs : (h.preHandshake.intoHandshake h.sharedSecret).ks.suite = h.suite :=
    h.suite_preHandshake
  refine ⟨?_, rfl, ?_, ?_⟩
  · exact KeyScheduleHandshakeStart.deriveClientHandshakeSecrets_fst hs e h.serverHelloHash rl
  · exact KeyScheduleHandshakeStart.deriveClientHandshakeSecrets_decrypter hs e h.serverHelloHash rl
  · exact KeyScheduleHandshakeStart.deriveClientHandshakeSecrets_encrypter hs e h.serverHelloHash rl

/-! ### The server's steps -/

/-- On either branch of `emit_server_hello` the server reaches the common
handshake schedule, writes with its handshake secret and, on resumption,
reads early data. -/
theorem serverHello_spec :
    (h.serverHello rl).1 = h.handshakeSchedule ∧
      (h.serverHello rl).2.messageEncrypter = h.handshakeSchedule.serverHandshakeTrafficSecret ∧
      (h.serverHello rl).2.messageDecrypter =
        match h.resumingPsk with
        | some psk => h.earlyTrafficSecret psk
        | none => rl.messageDecrypter := by
  cases hr : h.resumingPsk with
  | none =>
    simp only [serverHello, handshakeSchedule, preHandshake, hr]
    exact ⟨rfl, rfl, rfl⟩
  | some psk =>
    simp only [serverHello, handshakeSchedule, preHandshake, hr]
    exact ⟨rfl, rfl, rfl⟩

/-! ### The two runs side by side -/

variable (rl' : SecretRecordLayer)

/-- The client reads the server's handshake flight with the secret the
server writes it with. -/
theorem handshake_server_to_client :
    (h.serverRun rl').handshakeWrite.messageEncrypter =
      (h.clientRun rl).handshakeRead.messageDecrypter := by
  simp only [serverRun, clientRun, clientHello_fst, clientServerHello_eq]
  rw [(h.serverHello_spec rl').2.1, (h.clientHandshakeSecrets_preHandshake _ _).2.2.1]

/-- From the ServerHello on, the client's own flight goes out under its
handshake secret: early data stopped at the ServerHello, at
EncryptedExtensions, or after EndOfEarlyData. -/
theorem clientFlight_encrypter (ks : KeyScheduleHandshake E) (e : Bool)
    (he : e = false → rl.messageEncrypter = ks.clientHandshakeTrafficSecret) :
    (h.clientFinished ks (h.clientEncryptedExtensions ks e rl).1
      (h.clientEncryptedExtensions ks e rl).2).1.messageEncrypter =
        ks.clientHandshakeTrafficSecret := by
  cases e with
  | false => simpa [clientEncryptedExtensions, clientFinished] using he rfl
  | true =>
    cases hacc : h.earlyDataAccepted <;> simp [clientEncryptedExtensions, clientFinished, hacc]

/-- The client writes its handshake flight with the client handshake secret. -/
theorem clientRun_handshakeWrite :
    (h.clientRun rl).handshakeWrite.messageEncrypter =
      h.handshakeSchedule.clientHandshakeTrafficSecret := by
  obtain ⟨hks, het, -, henc⟩ := h.clientHandshakeSecrets_preHandshake
    (h.clientHello rl).2.2 (h.earlyData && h.pskAccepted)
  simp only [clientRun, clientHello_fst, clientServerHello_eq, clientHello_earlyTraffic]
  rw [hks, het]
  refine h.clientFlight_encrypter _ _ _ fun hsent => ?_
  rw [henc, hsent, if_neg Bool.false_ne_true]

/-- The server reads the client's handshake flight with the client handshake
secret, switching to it at the ServerHello or at EndOfEarlyData. -/
theorem serverRun_handshakeRead :
    (h.serverRun rl').handshakeRead.messageDecrypter =
      h.handshakeSchedule.clientHandshakeTrafficSecret := by
  obtain ⟨hks, -, -⟩ := h.serverHello_spec rl'
  simp only [serverRun, serverEndOfEarlyData, serverFinished, serverEarlyDataDecision,
    earlyDataDecision, hks]
  cases hacc : h.earlyDataAccepted with
  | true => simp
  | false => cases h.earlyData <;> simp

/-- The client writes its handshake flight with the secret the server reads
it with. -/
theorem handshake_client_to_server :
    (h.clientRun rl).handshakeWrite.messageEncrypter =
      (h.serverRun rl').handshakeRead.messageDecrypter := by
  rw [clientRun_handshakeWrite, serverRun_handshakeRead]

/-- Accepted early data is read with the secret it was written with. -/
theorem earlyData_client_to_server (hacc : h.earlyDataAccepted = true) :
    (h.clientRun rl).earlyData.messageEncrypter =
      (h.serverRun rl').earlyData.messageDecrypter := by
  obtain ⟨hpsk, hed⟩ := h.early_data_accepted hacc
  obtain ⟨psk, hoffered⟩ := Option.isSome_iff_exists.mp (h.psk_offered hpsk)
  have hresuming : h.resumingPsk = some psk := by simp [resumingPsk, hpsk, hoffered]
  have hserver := (h.serverHello_spec rl').2.2
  rw [hresuming] at hserver
  simp only [clientRun, serverRun, serverEarlyDataDecision, earlyDataDecision, hacc, if_true]
  rw [h.clientHello_encrypter rl hoffered hed, hserver]

/-- Both ends reach the same traffic schedule. -/
theorem clientRun_traffic : (h.clientRun rl).traffic = h.trafficSchedule := by
  obtain ⟨hks, -⟩ := h.clientHandshakeSecrets_preHandshake (h.clientHello rl).2.2
    (h.earlyData && h.pskAccepted)
  simp only [clientRun, clientHello_fst, clientServerHello_eq, clientHello_earlyTraffic,
    clientFinished, KeyScheduleClientBeforeFinished.intoTraffic_fst,
    KeyScheduleHandshake.intoPreFinishedClientTraffic_traffic, hks]
  rfl

theorem serverRun_traffic : (h.serverRun rl').traffic = h.trafficSchedule := by
  obtain ⟨hks, -⟩ := h.serverHello_spec rl'
  simp only [serverRun, serverClientFinished, serverFinished, hks,
    KeyScheduleTrafficWithClientFinishedPending.signClientFinish_traffic,
    KeyScheduleHandshake.intoTrafficWithClientFinishedPending_traffic]
  rfl

theorem installed_clientRun :
    KeyScheduleTraffic.Installed .client (h.clientRun rl).traffic (h.clientRun rl).trafficLayer :=
  KeyScheduleClientBeforeFinished.installed_intoTraffic _ _

theorem installed_serverRun :
    KeyScheduleTraffic.Installed .server (h.serverRun rl').traffic (h.serverRun rl').trafficLayer := by
  obtain ⟨hks, -⟩ := h.serverHello_spec rl'
  constructor
  · simp only [serverRun, serverClientFinished, serverEndOfEarlyData, serverFinished, hks]
    split <;> simp [KeyScheduleTraffic.currentTrafficSecret]
  · simp [serverRun, serverClientFinished, serverFinished, Side.peer,
      KeyScheduleTraffic.currentTrafficSecret]

/-- **Key updates keep the ends in step.**  After any run of traffic-stage
calls at each end, the client's encrypter and the server's decrypter hold
the same secret once the server has processed as many client key updates as
the client made, and the other way round. -/
theorem updates_match {rlC rlS : SecretRecordLayer} {uc us : List TrafficUpdate}
    {tc ts : KeyScheduleTraffic E} {rc rs : SecretRecordLayer}
    (hc : KeyScheduleTraffic.updates .client uc (h.clientRun rlC).traffic
      (h.clientRun rlC).trafficLayer = .ok (tc, rc))
    (hs : KeyScheduleTraffic.updates .server us (h.serverRun rlS).traffic
      (h.serverRun rlS).trafficLayer = .ok (ts, rs)) :
    (KeyScheduleTraffic.advanced .client .client uc =
        KeyScheduleTraffic.advanced .server .client us →
      rc.messageEncrypter = rs.messageDecrypter) ∧
    (KeyScheduleTraffic.advanced .server .server us =
        KeyScheduleTraffic.advanced .client .server uc →
      rs.messageEncrypter = rc.messageDecrypter) := by
  obtain ⟨hksC, hsecC, hinstC⟩ :=
    KeyScheduleTraffic.updates_ok .client uc hc (h.installed_clientRun rlC)
  obtain ⟨hksS, hsecS, hinstS⟩ :=
    KeyScheduleTraffic.updates_ok .server us hs (h.installed_serverRun rlS)
  rw [clientRun_traffic] at hsecC
  rw [serverRun_traffic] at hsecS
  -- both ends advance the one traffic schedule they share
  constructor
  · intro hn
    rw [hinstC.encrypter, hinstS.decrypter]
    show tc.currentTrafficSecret .client = ts.currentTrafficSecret .client
    rw [hsecC, hsecS, hn]
  · intro hn
    rw [hinstS.encrypter, hinstC.decrypter]
    show ts.currentTrafficSecret .server = tc.currentTrafficSecret .server
    rw [hsecC, hsecS, hn]

end Tls13Handshake

/-- **Client and server install matching keys at every epoch.**  In TLS 1.3,
for any handshake both ends feed the same suite, PSK, (EC)DHE secret and
transcript hashes: accepted early data, both handshake flights and both
directions of application traffic are read with the secret they are written
with, also after any number of key updates made at one end and processed at
the other.  In TLS 1.2, each end's `make_cipher_pair` decrypts with the key
and IV its peer's encrypts with. -/
theorem keys_match_every_epoch {Enc Dec : Type} (h : Tls13Handshake E)
    (rlC rlS : SecretRecordLayer) :
    (h.earlyDataAccepted = true →
      (h.clientRun rlC).earlyData.messageEncrypter =
        (h.serverRun rlS).earlyData.messageDecrypter) ∧
    (h.serverRun rlS).handshakeWrite.messageEncrypter =
      (h.clientRun rlC).handshakeRead.messageDecrypter ∧
    (h.clientRun rlC).handshakeWrite.messageEncrypter =
      (h.serverRun rlS).handshakeRead.messageDecrypter ∧
    (h.clientRun rlC).trafficLayer.messageEncrypter =
      (h.serverRun rlS).trafficLayer.messageDecrypter ∧
    (h.serverRun rlS).trafficLayer.messageEncrypter =
      (h.clientRun rlC).trafficLayer.messageDecrypter ∧
    (∀ uc us tc rc ts rs,
      KeyScheduleTraffic.updates .client uc (h.clientRun rlC).traffic
        (h.clientRun rlC).trafficLayer = .ok (tc, rc) →
      KeyScheduleTraffic.updates .server us (h.serverRun rlS).traffic
        (h.serverRun rlS).trafficLayer = .ok (ts, rs) →
      (KeyScheduleTraffic.advanced .client .client uc =
          KeyScheduleTraffic.advanced .server .client us →
        rc.messageEncrypter = rs.messageDecrypter) ∧
      (KeyScheduleTraffic.advanced .server .server us =
          KeyScheduleTraffic.advanced .client .server uc →
        rs.messageEncrypter = rc.messageDecrypter)) ∧
    (∀ cs : ConnectionSecrets Enc Dec, ∃ clientKey clientIv serverKey serverIv extra,
      cs.makeCipherPair .client =
        (cs.suite.aeadAlg.decrypter serverKey serverIv,
          cs.suite.aeadAlg.encrypter clientKey clientIv extra) ∧
      cs.makeCipherPair .server =
        (cs.suite.aeadAlg.decrypter clientKey clientIv,
          cs.suite.aeadAlg.encrypter serverKey serverIv extra)) := by
  -- application traffic 0 is the run with no key updates at either end
  have hc : KeyScheduleTraffic.updates .client [] (h.clientRun rlC).traffic
      (h.clientRun rlC).trafficLayer = .ok ((h.clientRun rlC).traffic, (h.clientRun rlC).trafficLayer) :=
    rfl
  have hs : KeyScheduleTraffic.updates .server [] (h.serverRun rlS).traffic
      (h.serverRun rlS).trafficLayer = .ok ((h.serverRun rlS).traffic, (h.serverRun rlS).trafficLayer) :=
    rfl
  have htraffic := h.updates_match hc hs
  refine ⟨h.earlyData_client_to_server rlC rlS, h.handshake_server_to_client rlC rlS,
    h.handshake_client_to_server rlC rlS, htraffic.1 rfl, htraffic.2 rfl,
    fun _ _ _ _ _ _ hc hs => h.updates_match hc hs, ?_⟩
  exact ConnectionSecrets.makeCipherPair_halves

/-- A suite whose HKDF maps everything to one expander and empty blocks. -/
def constantSuite : Tls13CipherSuite Unit :=
  ⟨.tls13Aes128GcmSha256,
    ⟨fun _ => (), fun _ _ => (), fun _ => (), fun _ _ => [], fun _ => 32, fun _ _ => []⟩, [], 0⟩

/-- A resumption whose early data the server accepts. -/
def resumedHandshake : Tls13Handshake Unit where
  suite := constantSuite
  offeredPsk := some [1]
  earlyData := true
  pskAccepted := true
  earlyDataAccepted := true
  sharedSecret := [2]
  clientHelloHash := [3]
  serverHelloHash := [4]
  serverFinishedHash := [5]
  clientFinishedHash := [6]
  configMaxEarlyDataSize := 0
  early_data_offered _ := rfl
  psk_offered _ := rfl
  early_data_accepted _ := ⟨rfl, rfl⟩

/-- A record layer with no keys. -/
def idleRecordLayer : SecretRecordLayer :=
  RecordLayer.new [] []

theorem keys_match_resumed_after_update :
    (resumedHandshake.clientRun idleRecordLayer).earlyData.messageEncrypter =
      (resumedHandshake.serverRun idleRecordLayer).earlyData.messageDecrypter ∧
    ((resumedHandshake.clientRun idleRecordLayer).traffic.updateEncrypterAndNotify .client
        (resumedHandshake.clientRun idleRecordLayer).trafficLayer).2.messageEncrypter =
      ((resumedHandshake.serverRun idleRecordLayer).traffic.updateDecrypter .server
        (resumedHandshake.serverRun idleRecordLayer).trafficLayer).2.messageDecrypter := by
  obtain ⟨hearly, -, -, -, -, hupdates, -⟩ :=
    @keys_match_every_epoch Unit Unit Unit resumedHandshake idleRecordLayer idleRecordLayer
  exact ⟨hearly rfl,
    (hupdates [.updateEncrypterAndNotify] [.updateDecrypter] _ _ _ _ rfl rfl).1 rfl⟩

end Rustls
