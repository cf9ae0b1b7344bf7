import Rustls.Msgs.ServerExtension
import Rustls.Client.Hs

/-!
The TLS 1.3 client's handling of EncryptedExtensions:
`ExpectEncryptedExtensions::handle` and `validate_encrypted_extensions` of
`client/tls13.rs`, with what they use: `ClientHelloDetails` of
`client/common.rs`, `process_alpn_protocol` of `client/hs.rs`, and the early
data state `EarlyData` of `client/client_conn.rs`.

The client refuses a repeated extension, one it did not ask for, and one that
belongs in the ServerHello or only in TLS 1.2.  It takes the server's ALPN
protocol if it offered it, requires one under QUIC when it has protocols of
its own, and refuses an ECH extension unless ECH was offered and rejected.
Resuming with early data under way, it learns from the EarlyData extension
whether the server accepted it; not resuming, an EarlyData extension is an
error.

`EarlyData` keeps the early data state and the bytes still allowed; its
assertions are panics, `none` here.  The peer certificates copied from the
resumed session and the key schedule are not modelled; switching to the
handshake encrypter is recorded as a flag.
-/

namespace Rustls

/-- `ClientHelloDetails`: the types of the extensions sent, and whether
certificate compression was offered. -/
structure ClientHelloDetails where
  sentExtensions : List ExtensionType
  offeredCertCompression : Bool
  deriving DecidableEq, Repr

/-- `ClientHelloDetails::server_sent_unsolicited_extensions`. -/
def ClientHelloDetails.serverSentUnsolicitedExtensions (hello : ClientHelloDetails)
    (receivedExts : List ServerExtension) (allowedUnsolicited : List ExtensionType) : Bool :=
  receivedExts.any fun ext =>
    !hello.sentExtensions.contains ext.extType && !allowedUnsolicited.contains ext.extType

/-- `ALLOWED_PLAINTEXT_EXTS`: the extensions that belong in the ServerHello. -/
def allowedPlaintextExts : List ExtensionType :=
  [.keyShare, .preSharedKey, .supportedVersions]

/-- `DISALLOWED_TLS13_EXTS`. -/
def disallowedTls13Exts : List ExtensionType :=
  [.ecPointFormats, .sessionTicket, .renegotiationInfo, .extendedMasterSecret]

/-- `validate_encrypted_extensions`. -/
def validateEncryptedExtensions (hello : ClientHelloDetails) (exts : List ServerExtension) :
    Except HandshakeFailure Unit :=
  if HasServerExtensions.hasDuplicateExtension exts then
    .error (some .decodeError, .peerMisbehaved .duplicateEncryptedExtensions)
  else if hello.serverSentUnsolicitedExtensions exts [] then
    .error (some .unsupportedExtension, .peerMisbehaved .unsolicitedEncryptedExtension)
  else if exts.any fun ext =>
      allowedPlaintextExts.contains ext.extType || disallowedTls13Exts.contains ext.extType then
    .error (some .unsupportedExtension, .peerMisbehaved .disallowedEncryptedExtension)
  else .ok ()

/-- `process_alpn_protocol`: the protocol the server chose becomes the
connection's, if the client offered it. -/
def processAlpnProtocol (isQuic : Bool) (alpnProtocols : List (List UInt8)) (proto : Option (List UInt8)) :
    Except HandshakeFailure (Option (List UInt8)) :=
  match proto with
  | some alpnProtocol =>
    if !alpnProtocols.contains alpnProtocol then
      .error (some .illegalParameter, .peerMisbehaved .selectedUnofferedApplicationProtocol)
    else .ok proto
  | none =>
    -- QUIC requires ALPN whenever the client has protocols
    if isQuic && !alpnProtocols.isEmpty then .error (some .noApplicationProtocol, .noApplicationProtocol)
    else .ok none

/-! ### Early data -/

namespace Client

/-- `EarlyDataState` of `client/client_conn.rs`. -/
inductive EarlyDataState
  | disabled
  | ready
  | accepted
  | acceptedFinished
  | rejected
  deriving DecidableEq, Repr

/-- `EarlyData`: the state, and how many bytes may still be sent. -/
structure EarlyData where
  state : EarlyDataState
  left : Nat
  deriving DecidableEq, Repr

namespace EarlyData

/-- `EarlyData::new`. -/
def new : EarlyData :=
  ⟨.disabled, 0⟩

/-- `is_enabled`. -/
def isEnabled (ed : EarlyData) : Bool :=
  match ed.state with
  | .ready | .accepted => true
  | _ => false

/-- `is_accepted`. -/
def isAccepted (ed : EarlyData) : Bool :=
  match ed.state with
  | .accepted | .acceptedFinished => true
  | _ => false

/-- `enable`, which asserts that early data was disabled. -/
def enable (ed : EarlyData) (maxData : Nat) : Option EarlyData :=
  if ed.state = .disabled then some ⟨.ready, maxData⟩ else none

/-- `rejected`. -/
def rejected (ed : EarlyData) : EarlyData :=
  { ed with state := .rejected }

/-- `accepted`, which asserts that early data was ready. -/
def accepted (ed : EarlyData) : Option EarlyData :=
  if ed.state = .ready then some { ed with state := .accepted } else none

/-- `finished`, which panics unless early data was accepted. -/
def finished (ed : EarlyData) : Option EarlyData :=
  match ed.state with
  | .accepted => some { ed with state := .acceptedFinished }
  | _ => none

/-- `check_write_opt`: how many of `sz` bytes may be sent, or `none` once
early data is over; while disabled it is unreachable, a panic. -/
def checkWriteOpt (ed : EarlyData) (sz : Nat) : Option (Option Nat × EarlyData) :=
  match ed.state with
  | .disabled => none
  | .ready | .accepted =>
    if ed.left < sz then some (some ed.left, { ed with left := 0 })
    else some (some sz, { ed with left := ed.left - sz })
  | .rejected | .acceptedFinished => some (none, ed)

/-- `bytes_left`. -/
def bytesLeft (ed : EarlyData) : Nat :=
  ed.left

end EarlyData

end Client

/-! ### EncryptedExtensions -/

/-- `HandshakeKind`. -/
inductive HandshakeKind
  | full
  | fullWithHelloRetryRequest
  | resumed
  deriving DecidableEq, Repr

/-- What `ExpectEncryptedExtensions` reads of itself: the configuration's
ALPN protocols, whether a session is being resumed, and the ClientHello's
details. -/
structure ExpectEncryptedExtensions where
  alpnProtocols : List (List UInt8)
  resuming : Bool
  hello : ClientHelloDetails
  deriving DecidableEq, Repr

/-- What the handler reads of the connection: whether it runs QUIC, the ECH
status, whether early data is being sent, the early data state, and the kind
of handshake so far. -/
structure ClientEeContext where
  isQuic : Bool
  echStatus : EchStatus
  earlyTraffic : Bool
  earlyData : Client.EarlyData
  handshakeKind : Option HandshakeKind
  deriving DecidableEq, Repr

/-- The state the handshake goes on to. -/
inductive EncryptedExtensionsNext
  | expectFinished
  | expectCertificateOrCompressedCertificateOrCertReq
  | expectCertificateOrCertReq
  deriving DecidableEq, Repr

/-- Where a handled EncryptedExtensions leaves the client: the next state,
the ALPN protocol, the QUIC transport parameters, the ECH retry
configurations kept for the end of the handshake, the early data flag and
state, whether the handshake encrypter was set, and the kind of handshake. -/
structure EncryptedExtensionsHandled where
  next : EncryptedExtensionsNext
  alpnProtocol : Option (List UInt8)
  quicParams : Option (List UInt8)
  echRetryConfigs : Option (List UInt8)
  earlyTraffic : Bool
  earlyData : Client.EarlyData
  handshakeEncrypterSet : Bool
  handshakeKind : Option HandshakeKind
  deriving DecidableEq, Repr

/-- How the handler ends: in the next state, with an error, or in a panic. -/
inductive EncryptedExtensionsOutcome
  | next (handled : EncryptedExtensionsHandled)
  | error (failure : HandshakeFailure)
  | panic
  deriving DecidableEq, Repr

/-- The ECH part of the handler: an ECH extension is refused unless ECH was
offered and rejected, in which case its retry configurations are kept. -/
def echRetryConfigs (echStatus : EchStatus) (ext : Option (List UInt8)) :
    Except HandshakeFailure (Option (List UInt8)) :=
  match echStatus, ext with
  | .notOffered, some _ | .accepted, some _ =>
    .error (some .unsupportedExtension, .peerMisbehaved .unsolicitedEchExtension)
  | .rejected, ext => .ok ext
  | _, _ => .ok none

/-- The QUIC part of the handler: the server's transport parameters are
required; over TCP nothing is read. -/
def quicParams (isQuic : Bool) (exts : List ServerExtension) : Except HandshakeFailure (Option (List UInt8)) :=
  if !isQuic then .ok none
  else
    match HasServerExtensions.quicParamsExtension exts with
    | some params => .ok (some params)
    | none => .error (some .missingExtension, .peerMisbehaved .missingQuicTransportParameters)

/-- `ExpectEncryptedExtensions::handle`, on the extensions of an
EncryptedExtensions message. -/
def ExpectEncryptedExtensions.handle (st : ExpectEncryptedExtensions) (cx : ClientEeContext)
    (exts : List ServerExtension) : EncryptedExtensionsOutcome :=
  match validateEncryptedExtensions st.hello exts with
  | .error e => .error e
  | .ok () =>
  match processAlpnProtocol cx.isQuic st.alpnProtocols (HasServerExtensions.alpnProtocol exts) with
  | .error e => .error e
  | .ok alpnProtocol =>
  match echRetryConfigs cx.echStatus (HasServerExtensions.serverEchExtension exts) with
  | .error e => .error e
  | .ok retryConfigs =>
  match quicParams cx.isQuic exts with
  | .error e => .error e
  | .ok params =>
  let offered := HasServerExtensions.earlyDataExtensionOffered exts
  if st.resuming then
    if cx.earlyTraffic then
      if offered then
        match cx.earlyData.accepted with
        | some earlyData =>
          .next ⟨.expectFinished, alpnProtocol, params, retryConfigs, true, earlyData, false, some .resumed⟩
        | none => .panic
      else
        -- rejected: the handshake traffic is encrypted with the handshake key from here
        .next ⟨.expectFinished, alpnProtocol, params, retryConfigs, false, cx.earlyData.rejected, true,
          some .resumed⟩
    else .next ⟨.expectFinished, alpnProtocol, params, retryConfigs, false, cx.earlyData, false, some .resumed⟩
  else if offered then .error (none, .peerMisbehaved .earlyDataExtensionWithoutResumption)
  else
    let next := if st.hello.offeredCertCompression then .expectCertificateOrCompressedCertificateOrCertReq
      else .expectCertificateOrCertReq
    .next ⟨next, alpnProtocol, params, retryConfigs, cx.earlyTraffic, cx.earlyData, false,
      some (cx.handshakeKind.getD .full)⟩

/-! ### What the client accepts -/

theorem hasDuplicateExtension_eq_false {exts : List ServerExtension} :
    HasServerExtensions.hasDuplicateExtension exts = false ↔ (exts.map ServerExtension.extType).Nodup := by
  simp [HasServerExtensions.hasDuplicateExtension, hasDuplicates]

theorem serverSentUnsolicitedExtensions_eq_false {hello : ClientHelloDetails} {exts : List ServerExtension} :
    hello.serverSentUnsolicitedExtensions exts [] = false ↔ ∀ ext ∈ exts, ext.extType ∈ hello.sentExtensions := by
  simp [ClientHelloDetails.serverSentUnsolicitedExtensions]

/-- The client accepts EncryptedExtensions exactly when no type occurs twice,
every extension answers one the client sent, and none belongs in the
ServerHello or only in TLS 1.2. -/
theorem validateEncryptedExtensions_eq_ok {hello : ClientHelloDetails} {exts : List ServerExtension} :
    validateEncryptedExtensions hello exts = .ok () ↔
      (exts.map ServerExtension.extType).Nodup ∧ (∀ ext ∈ exts, ext.extType ∈ hello.sentExtensions) ∧
        ∀ ext ∈ exts, ext.extType ∉ allowedPlaintextExts ∧ ext.extType ∉ disallowedTls13Exts := by
  rw [← hasDuplicateExtension_eq_false, ← serverSentUnsolicitedExtensions_eq_false]
  unfold validateEncryptedExtensions
  split_ifs with hdup hunsolicited hdisallowed
  · simp [hdup]
  · simp [hunsolicited]
  · simp only [List.any_eq_true, Bool.or_eq_true, List.contains_iff_mem] at hdisallowed
    obtain ⟨ext, hext, hbad⟩ := hdisallowed
    refine iff_of_false (by simp) ?_
    rintro ⟨-, -, hok⟩
    exact hbad.elim (hok ext hext).1 (hok ext hext).2
  · simp only [List.any_eq_true, Bool.or_eq_true, List.contains_iff_mem, not_exists, not_and, not_or]
      at hdisallowed
    simp only [Bool.not_eq_true] at hdup hunsolicited
    exact iff_of_true rfl ⟨hdup, hunsolicited, hdisallowed⟩

/-- The client takes the server's protocol exactly when it offered it, and no
protocol unless it runs QUIC with protocols of its own. -/
theorem processAlpnProtocol_eq_ok {isQuic : Bool} {alpnProtocols : List (List UInt8)}
    {proto : Option (List UInt8)} :
    processAlpnProtocol isQuic alpnProtocols proto = .ok proto ↔
      (∀ p, proto = some p → p ∈ alpnProtocols) ∧ (proto = none → isQuic = true → alpnProtocols = []) := by
  cases proto with
  | some p =>
    unfold processAlpnProtocol
    split_ifs with hoffered <;> simp_all
  | none =>
    unfold processAlpnProtocol
    split_ifs with hquic <;> simp_all

/-- An ECH extension that is not there is no error, whatever the ECH status. -/
theorem echRetryConfigs_none (echStatus : EchStatus) : echRetryConfigs echStatus none = .ok none := by
  cases echStatus <;> rfl

/-- **The client goes on after EncryptedExtensions it accepts.**  Over TCP,
extensions that pass the checks, with an ALPN protocol the client offered
and no ECH extension, take the client to its next state with that protocol,
provided EarlyData comes only when resuming and finds early data ready, and
early data is under way only when resuming.  The client then goes on sending
early data exactly when it was and the server's EarlyData extension is
there. -/
theorem handle_eq_next {st : ExpectEncryptedExtensions} {ccx : ClientEeContext} {exts : List ServerExtension}
    (hvalid : validateEncryptedExtensions st.hello exts = .ok ())
    (halpn : processAlpnProtocol false st.alpnProtocols (HasServerExtensions.alpnProtocol exts) =
      .ok (HasServerExtensions.alpnProtocol exts))
    (hech : HasServerExtensions.serverEchExtension exts = none) (htcp : ccx.isQuic = false)
    (hresuming : HasServerExtensions.earlyDataExtensionOffered exts = true → st.resuming = true)
    (hready : HasServerExtensions.earlyDataExtensionOffered exts = true → ccx.earlyTraffic = true →
      ccx.earlyData.state = .ready)
    (htraffic : ccx.earlyTraffic = true → st.resuming = true) :
    ∃ handled, st.handle ccx exts = .next handled ∧
      handled.alpnProtocol = HasServerExtensions.alpnProtocol exts ∧
      handled.earlyTraffic = (ccx.earlyTraffic && HasServerExtensions.earlyDataExtensionOffered exts) := by
  unfold ExpectEncryptedExtensions.handle
  rw [hvalid]
  dsimp only
  rw [htcp, halpn]
  dsimp only
  rw [hech, echRetryConfigs_none]
  dsimp only
  rw [show quicParams false exts = .ok none from rfl]
  dsimp only
  -- the early data branches, by whether the session is resumed and early data under way
  cases hres : st.resuming with
  | true =>
    cases htr : ccx.earlyTraffic with
    | true =>
      cases hoff : HasServerExtensions.earlyDataExtensionOffered exts with
      | true =>
        have hacc : ccx.earlyData.accepted = some { ccx.earlyData with state := .accepted } := by
          rw [Client.EarlyData.accepted, if_pos (hready hoff htr)]
        simp only [if_true, hacc]
        exact ⟨_, rfl, rfl, rfl⟩
      | false => exact ⟨_, rfl, rfl, rfl⟩
    | false => exact ⟨_, rfl, rfl, rfl⟩
  | false =>
    have hoff : HasServerExtensions.earlyDataExtensionOffered exts = false := by
      cases h : HasServerExtensions.earlyDataExtensionOffered exts
      · rfl
      · simpa [hres] using hresuming h
    have htr : ccx.earlyTraffic = false := by
      cases h : ccx.earlyTraffic
      · rfl
      · simpa [hres] using htraffic h
    simp only [hoff, htr]
    exact ⟨_, rfl, rfl, rfl⟩

end Rustls
