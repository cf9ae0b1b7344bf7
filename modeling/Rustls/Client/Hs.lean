import Rustls.Suites
import Rustls.Msgs.Handshake
import Rustls.Error
import Rustls.Lib.FirstMatch

/-!
The client's reply to a HelloRetryRequest: `handle_hello_retry_request` of
`client/hs.rs`, with the parts of `ClientConfig` and of the ClientHello it
reads.

The handler checks the request in a fixed order (aligned handshake, cookie
and group, unknown and repeated extensions, session id echo, version, suite,
ECH extension), and every refusal is a fatal alert and an error.  The suite
is looked up with `ClientConfig::find_cipher_suite`, in the provider's whole
list, and only then matched against the ECH state: a client that offered ECH
is assumed to be on TLS 1.3, and a TLS 1.2 suite there is `unreachable!`.

`ConfigBuilder::with_ech` restricts the protocol versions to TLS 1.3 but
leaves the provider's TLS 1.2 suites in place, and over TCP the ClientHello
offers every suite of the provider.  The theorems below say when the
handler can panic, and that such a client does.
-/

namespace Rustls

/-- `EchMode`; its ECH or GREASE configuration is not read here. -/
inductive EchMode
  | enable
  | grease
  deriving DecidableEq, Repr

/-- `EchStatus`. -/
inductive EchStatus
  | notOffered
  | grease
  | offered
  | accepted
  | rejected
  deriving DecidableEq, Repr

/-- What the handshake reads of a `ClientConfig`: the enabled versions, the
provider's suites and groups, and the ECH mode. -/
structure ClientConfig where
  versions : List ProtocolVersion
  cipherSuites : List SupportedCipherSuite
  kxGroups : List NamedGroup
  echMode : Option EchMode
  deriving DecidableEq, Repr

namespace ClientConfig

/-- `supports_version`: enabled, and some suite of the provider is for it. -/
def supportsVersion (cfg : ClientConfig) (v : ProtocolVersion) : Bool :=
  cfg.versions.contains v && cfg.cipherSuites.any (·.version == v)

/-- `find_cipher_suite`: the first suite of the provider with that code
point, whatever the versions offered. -/
def findCipherSuite (cfg : ClientConfig) (suite : CipherSuite) : Option SupportedCipherSuite :=
  cfg.cipherSuites.find? (·.suite == suite)

/-- `find_kx_group` for TLS 1.3; `usable_for_version` is the trait default,
true, for every group of the providers. -/
def findKxGroup (cfg : ClientConfig) (group : NamedGroup) : Option NamedGroup :=
  cfg.kxGroups.find? (· == group)

/-- The `cipher_suites` of the ClientHello `emit_client_hello_for_retry`
builds: the provider's suites usable for the protocol, then the
renegotiation SCSV. -/
def offeredCipherSuites (cfg : ClientConfig) (protocol : Protocol) : List CipherSuite :=
  cfg.cipherSuites.filterMap (fun cs => if cs.usableForProtocol protocol then some cs.suite else none) ++
    [.tlsEmptyRenegotiationInfoScsv]

end ClientConfig

/-- What `handle_hello_retry_request` reads of `ExpectServerHelloOrHelloRetryRequest`:
the session id sent, the group of the key share sent (there is one whenever
TLS 1.3 is enabled, which is when this state is entered), and whether there
is ECH state. -/
structure ExpectServerHelloOrHelloRetryRequest where
  sessionId : List UInt8
  offeredKeyShare : NamedGroup
  echState : Bool
  deriving DecidableEq, Repr

/-- What it reads of the connection: `common.aligned_handshake` and
`data.ech_status`. -/
structure ClientContext where
  alignedHandshake : Bool
  echStatus : EchStatus
  deriving DecidableEq, Repr

/-- How `handle_hello_retry_request` ends: a second ClientHello for the suite
and group the request selected, a fatal alert with its error, an error from
ECH confirmation, or a panic. -/
inductive HrrOutcome
  | retry (suite : SupportedCipherSuite) (keyShare : NamedGroup)
  | fatal (alert : AlertDescription) (err : Error)
  | error (err : Error)
  | panic
  deriving DecidableEq, Repr

/-- The end of `handle_hello_retry_request`: the group of the second key
share, which must be one of the provider's if the request names a new one. -/
def retryKeyShare (cfg : ClientConfig) (st : ExpectServerHelloOrHelloRetryRequest)
    (cs : SupportedCipherSuite) (reqGroup : Option NamedGroup) : HrrOutcome :=
  match reqGroup with
  | some group =>
    if group != st.offeredKeyShare then
      match cfg.findKxGroup group with
      | none =>
        .fatal .illegalParameter (.peerMisbehaved .illegalHelloRetryRequestWithUnofferedNamedGroup)
      | some skxg => .retry cs skxg
    else .retry cs st.offeredKeyShare
  | none => .retry cs st.offeredKeyShare

/-- `handle_hello_retry_request`.  `confirmHrrAcceptance` is what ECH
confirmation of the request returns when it is run. -/
def handleHelloRetryRequest (cfg : ClientConfig) (st : ExpectServerHelloOrHelloRetryRequest)
    (cx : ClientContext) (confirmHrrAcceptance : Except Error Bool) (hrr : HelloRetryRequest) :
    HrrOutcome :=
  let cookie := hrr.cookie
  let reqGroup := hrr.requestedKeyShareGroup
  if !cx.alignedHandshake then
    .fatal .unexpectedMessage (.peerMisbehaved .keyEpochWithPendingFragment)
  else if cookie.isNone && reqGroup == some st.offeredKeyShare then
    .fatal .illegalParameter (.peerMisbehaved .illegalHelloRetryRequestWithOfferedGroup)
  else if cookie.any List.isEmpty then
    .fatal .illegalParameter (.peerMisbehaved .illegalHelloRetryRequestWithEmptyCookie)
  else if hrr.hasUnknownExtension then
    .fatal .unsupportedExtension
      (.peerIncompatible .serverSentHelloRetryRequestWithUnknownExtension)
  else if hrr.hasDuplicateExtension then
    .fatal .illegalParameter (.peerMisbehaved .duplicateHelloRetryRequestExtensions)
  else if cookie.isNone && reqGroup.isNone then
    .fatal .illegalParameter (.peerMisbehaved .illegalHelloRetryRequestWithNoChanges)
  else if hrr.sessionId != st.sessionId then
    .fatal .illegalParameter (.peerMisbehaved .illegalHelloRetryRequestWithWrongSessionId)
  else if hrr.supportedVersions != some .tlsv1_3 then
    .fatal .illegalParameter (.peerMisbehaved .illegalHelloRetryRequestWithUnsupportedVersion)
  else
    match cfg.findCipherSuite hrr.cipherSuite with
    | none =>
      .fatal .illegalParameter (.peerMisbehaved .illegalHelloRetryRequestWithUnofferedCipherSuite)
    | some cs =>
      if cx.echStatus == .notOffered && hrr.ech.isSome then
        .fatal .unsupportedExtension (.peerMisbehaved .illegalHelloRetryRequestWithInvalidEch)
      else
        match st.echState, cs.isTls13 with
        | true, true =>
          match confirmHrrAcceptance with
          | .error e => .error e
          | .ok _ => retryKeyShare cfg st cs reqGroup
        -- "ECH state should only be set when TLS 1.3 was negotiated"
        | true, false => .panic
        | false, _ => retryKeyShare cfg st cs reqGroup

/-! ### When the client panics -/

theorem retryKeyShare_ne_panic (cfg : ClientConfig) (st : ExpectServerHelloOrHelloRetryRequest)
    (cs : SupportedCipherSuite) (reqGroup : Option NamedGroup) :
    retryKeyShare cfg st cs reqGroup ≠ .panic := by
  unfold retryKeyShare
  split
  · split
    · split <;> simp
    · simp
  · simp

/-- **The one panic of the handler**: every check passed, there is ECH state,
and the suite the provider has under the requested code point is a TLS 1.2
suite. -/
theorem panic_of_handleHelloRetryRequest {cfg : ClientConfig}
    {st : ExpectServerHelloOrHelloRetryRequest} {cx : ClientContext} {conf : Except Error Bool}
    {hrr : HelloRetryRequest} (h : handleHelloRetryRequest cfg st cx conf hrr = .panic) :
    st.echState = true ∧
      ∃ cs, cfg.findCipherSuite hrr.cipherSuite = some cs ∧ cs.isTls13 = false := by
  unfold handleHelloRetryRequest at h
  dsimp only at h
  -- the eight checks before the suite lookup refuse with a fatal alert, not a panic
  iterate 8 replace h := rest_eq_of_ite_eq h nofun
  split at h
  · cases h
  · rename_i cs hfind
    -- nor does an ECH extension the client did not ask for
    replace h := rest_eq_of_ite_eq h nofun
    split at h
    · split at h
      · cases h
      · exact absurd h (retryKeyShare_ne_panic _ _ _ _)
    · rename_i hech htls
      exact ⟨hech, cs, hfind, htls⟩
    · exact absurd h (retryKeyShare_ne_panic _ _ _ _)

/-- Without ECH state the handler never panics. -/
theorem handleHelloRetryRequest_ne_panic_of_no_ech {cfg : ClientConfig}
    {st : ExpectServerHelloOrHelloRetryRequest} (hech : st.echState = false) (cx : ClientContext)
    (conf : Except Error Bool) (hrr : HelloRetryRequest) :
    handleHelloRetryRequest cfg st cx conf hrr ≠ .panic := by
  intro h
  have := (panic_of_handleHelloRetryRequest h).1
  rw [hech] at this
  exact Bool.false_ne_true this

/-- With a provider of TLS 1.3 suites only the handler never panics. -/
theorem handleHelloRetryRequest_ne_panic_of_tls13_only {cfg : ClientConfig}
    (htls13 : ∀ cs ∈ cfg.cipherSuites, cs.isTls13 = true)
    (st : ExpectServerHelloOrHelloRetryRequest) (cx : ClientContext) (conf : Except Error Bool)
    (hrr : HelloRetryRequest) :
    handleHelloRetryRequest cfg st cx conf hrr ≠ .panic := by
  intro h
  obtain ⟨-, cs, hfind, htls⟩ := panic_of_handleHelloRetryRequest h
  have hmem : cs ∈ cfg.cipherSuites := List.mem_of_find?_eq_some hfind
  rw [htls13 cs hmem] at htls
  exact Bool.noConfusion htls

/-- A retry request asking for TLS 1.3 and suite `s`, with a cookie and the
echoed session id. -/
def cookieRetryRequest (sessionId : List UInt8) (s : CipherSuite) (cookie : List UInt8) :
    HelloRetryRequest :=
  ⟨.tlsv1_2, sessionId, s, [.supportedVersions .tlsv1_3, .cookie cookie]⟩

/-- **A client with ECH state panics** on a well-formed retry request that
selects a TLS 1.2 suite of its provider. -/
theorem handleHelloRetryRequest_tls12_panics (cfg : ClientConfig)
    (st : ExpectServerHelloOrHelloRetryRequest) (cx : ClientContext) (conf : Except Error Bool)
    {s : CipherSuite} {cookie : List UInt8} (hech : st.echState = true)
    (haligned : cx.alignedHandshake = true) (hfind : cfg.findCipherSuite s = some (.tls12 s))
    (hcookie : cookie ≠ []) :
    handleHelloRetryRequest cfg st cx conf (cookieRetryRequest st.sessionId s cookie) = .panic := by
  have hck : (cookieRetryRequest st.sessionId s cookie).cookie = some cookie := rfl
  have hgroup : (cookieRetryRequest st.sessionId s cookie).requestedKeyShareGroup = none := rfl
  have hver : (cookieRetryRequest st.sessionId s cookie).supportedVersions = some .tlsv1_3 := rfl
  have hech' : (cookieRetryRequest st.sessionId s cookie).ech = none := rfl
  have hunknown : (cookieRetryRequest st.sessionId s cookie).hasUnknownExtension = false := rfl
  have hdup : (cookieRetryRequest st.sessionId s cookie).hasDuplicateExtension = false := rfl
  have hcs : (cookieRetryRequest st.sessionId s cookie).cipherSuite = s := rfl
  have hempty : (some cookie).any List.isEmpty = false := by
    simpa [List.isEmpty_iff] using hcookie
  unfold handleHelloRetryRequest
  simp only [hck, hgroup, hver, hech', hunknown, hdup, hempty, haligned, hcs, hfind, hech]
  simp [cookieRetryRequest, SupportedCipherSuite.isTls13]

/-- The configuration the *ring* default provider gives after
`with_ech(EchMode::Enable(..))`: TLS 1.3 only, and every suite and group of
the provider. -/
def ringEchConfig : ClientConfig :=
  ⟨[.tlsv1_3], ringCipherSuites, ringKxGroups, some .enable⟩

/-- Such a client waiting for its ServerHello: a 32-byte session id, an X25519
key share, and ECH state. -/
def ringEchHelloState : ExpectServerHelloOrHelloRetryRequest :=
  ⟨List.replicate 32 7, .x25519, true⟩

theorem ech_client_tls12_retry_panics_ring :
    ringEchConfig.findCipherSuite .tlsEcdheEcdsaWithAes128GcmSha256 =
        some (.tls12 .tlsEcdheEcdsaWithAes128GcmSha256) ∧
      handleHelloRetryRequest ringEchConfig ringEchHelloState ⟨true, .offered⟩ (.ok true)
        (cookieRetryRequest ringEchHelloState.sessionId .tlsEcdheEcdsaWithAes128GcmSha256 [1]) =
          .panic :=
  ⟨by decide, handleHelloRetryRequest_tls12_panics ringEchConfig ringEchHelloState
    ⟨true, .offered⟩ (.ok true) rfl rfl (by decide) (by decide)⟩

/-- The client offered `TLS_ECDHE_ECDSA_WITH_AES_128_GCM_SHA256` in its
ClientHello, and a retry request that asks for TLS 1.3 with that suite makes
it panic. -/
theorem ech_client_panics_on_tls12_retry :
    CipherSuite.tlsEcdheEcdsaWithAes128GcmSha256 ∈ ringEchConfig.offeredCipherSuites .tcp ∧
      handleHelloRetryRequest ringEchConfig ringEchHelloState ⟨true, .offered⟩ (.ok true)
        ⟨.tlsv1_2, List.replicate 32 7, .tlsEcdheEcdsaWithAes128GcmSha256,
          [.supportedVersions .tlsv1_3, .cookie [1]]⟩ = .panic := by
  decide

end Rustls
