import Rustls.Enums

/-!
Cipher suites as the handshake sees them: `SupportedCipherSuite` of
`suites.rs`, and the suites and groups of the *ring* provider
(`crypto/ring/mod.rs`, `crypto/ring/kx.rs`).

A handshake only asks three things of a suite: its code point, the protocol
version it is for, and, for TLS 1.3, whether it carries QUIC header keys.
The keys, hashes and PRFs behind it are modelled where they are used.
-/

namespace Rustls

/-- `SupportedCipherSuite`: a TLS 1.2 suite, or a TLS 1.3 suite with whether
its `quic` keys are present. -/
inductive SupportedCipherSuite
  | tls12 (suite : CipherSuite)
  | tls13 (suite : CipherSuite) (quic : Bool)
  deriving DecidableEq, Repr

namespace SupportedCipherSuite

/-- `suite()`. -/
def suite : SupportedCipherSuite → CipherSuite
  | .tls12 s => s
  | .tls13 s _ => s

/-- `version().version`. -/
def version : SupportedCipherSuite → ProtocolVersion
  | .tls12 _ => .tlsv1_2
  | .tls13 _ _ => .tlsv1_3

/-- `tls13().is_some()`. -/
def isTls13 : SupportedCipherSuite → Bool
  | .tls12 _ => false
  | .tls13 _ _ => true

/-- `usable_for_protocol`: every suite over TCP, only TLS 1.3 suites with
QUIC keys over QUIC. -/
def usableForProtocol (cs : SupportedCipherSuite) : Protocol → Bool
  | .tcp => true
  | .quic =>
    match cs with
    | .tls13 _ quic => quic
    | .tls12 _ => false

theorem isTls13_iff_version (cs : SupportedCipherSuite) :
    cs.isTls13 = true ↔ cs.version = .tlsv1_3 := by
  cases cs <;> simp [isTls13, version]

end SupportedCipherSuite

/-- `ALL_CIPHER_SUITES`, which is also `DEFAULT_CIPHER_SUITES`, of the *ring*
provider with the `tls12` feature on: the three TLS 1.3 suites first. -/
def ringCipherSuites : List SupportedCipherSuite :=
  [.tls13 .tls13Aes256GcmSha384 true, .tls13 .tls13Aes128GcmSha256 true,
    .tls13 .tls13Chacha20Poly1305Sha256 true,
    .tls12 .tlsEcdheEcdsaWithAes256GcmSha384, .tls12 .tlsEcdheEcdsaWithAes128GcmSha256,
    .tls12 .tlsEcdheEcdsaWithChacha20Poly1305Sha256,
    .tls12 .tlsEcdheRsaWithAes256GcmSha384, .tls12 .tlsEcdheRsaWithAes128GcmSha256,
    .tls12 .tlsEcdheRsaWithChacha20Poly1305Sha256]

/-- `ALL_KX_GROUPS` of the *ring* provider. -/
def ringKxGroups : List NamedGroup :=
  [.x25519, .secp256r1, .secp384r1]

end Rustls
