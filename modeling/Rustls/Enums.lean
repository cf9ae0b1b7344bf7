import Rustls.Lib.BigEndian

/-!
The protocol enumerations the record layer reads and writes.

`enum_builder!` in `msgs/macros.rs` turns a table of named values into a Rust
enum with one extra variant `Unknown(x)` for every other value of the
underlying integer.  The conversions go through the integer: `From<u8>` maps a
tabled value to its name and anything else to `Unknown`, and the reverse map
reads the value off.  `Unknown(x)` with `x` a tabled value is a value of the
Rust type too; it encodes like the named variant but is not equal to it, so
reading back what it encodes does not give it back.  `IsCanonical` names the
values for which it does.
-/

namespace Rustls

/-- One test of a `From` conversion's chain: the variant the test returns has
the value it tests for, so whichever test answers, the value reads off. -/
theorem code_ite_eq {α β : Type} [DecidableEq β] (code : α → β) {x c : β} {v rest : α} (hv : code v = c)
    (hrest : x ≠ c → code rest = x) : code (if x = c then v else rest) = x := by
  by_cases h : x = c
  · rw [if_pos h, hv, h]
  · rw [if_neg h, hrest h]

/-- `ContentType` of `enums.rs`. -/
inductive ContentType
  | changeCipherSpec
  | alert
  | handshake
  | applicationData
  | heartbeat
  | unknown (x : UInt8)
  deriving DecidableEq, Repr

namespace ContentType

/-- `u8::from(ContentType)`. -/
def toU8 : ContentType → UInt8
  | changeCipherSpec => 0x14
  | alert => 0x15
  | handshake => 0x16
  | applicationData => 0x17
  | heartbeat => 0x18
  | unknown x => x

/-- `ContentType::from(u8)`. -/
def ofU8 (x : UInt8) : ContentType :=
  if x = 0x14 then changeCipherSpec
  else if x = 0x15 then alert
  else if x = 0x16 then handshake
  else if x = 0x17 then applicationData
  else if x = 0x18 then heartbeat
  else unknown x

/-- Reading back what the value encodes gives the value itself. -/
def IsCanonical (t : ContentType) : Prop := ofU8 t.toU8 = t

instance (t : ContentType) : Decidable t.IsCanonical :=
  inferInstanceAs (Decidable (ofU8 t.toU8 = t))

@[simp] theorem toU8_ofU8 (x : UInt8) : (ofU8 x).toU8 = x := by
  unfold ofU8
  repeat refine code_ite_eq toU8 rfl fun _ => ?_
  rfl

/-- Every named variant is canonical. -/
theorem isCanonical_of_ne_unknown {t : ContentType} (h : ∀ x, t ≠ unknown x) :
    t.IsCanonical := by
  cases t with
  | unknown x => exact absurd rfl (h x)
  | _ => rfl

example : ¬ (unknown 0x16).IsCanonical := by decide

end ContentType

/-- `ProtocolVersion` of `enums.rs`. -/
inductive ProtocolVersion
  | sslv2
  | sslv3
  | tlsv1_0
  | tlsv1_1
  | tlsv1_2
  | tlsv1_3
  | dtlsv1_0
  | dtlsv1_2
  | dtlsv1_3
  | unknown (x : UInt16)
  deriving DecidableEq, Repr

namespace ProtocolVersion

/-- `u16::from(ProtocolVersion)`. -/
def toU16 : ProtocolVersion → UInt16
  | sslv2 => 0x0200
  | sslv3 => 0x0300
  | tlsv1_0 => 0x0301
  | tlsv1_1 => 0x0302
  | tlsv1_2 => 0x0303
  | tlsv1_3 => 0x0304
  | dtlsv1_0 => 0xFEFF
  | dtlsv1_2 => 0xFEFD
  | dtlsv1_3 => 0xFEFC
  | unknown x => x

/-- `ProtocolVersion::from(u16)`. -/
def ofU16 (x : UInt16) : ProtocolVersion :=
  if x = 0x0200 then sslv2
  else if x = 0x0300 then sslv3
  else if x = 0x0301 then tlsv1_0
  else if x = 0x0302 then tlsv1_1
  else if x = 0x0303 then tlsv1_2
  else if x = 0x0304 then tlsv1_3
  else if x = 0xFEFF then dtlsv1_0
  else if x = 0xFEFD then dtlsv1_2
  else if x = 0xFEFC then dtlsv1_3
  else unknown x

/-- `to_array`: the two big-endian bytes. -/
def toArray (v : ProtocolVersion) : List UInt8 := Bytes.be 2 v.toU16.toNat

/-- Reading back what the value encodes gives the value itself. -/
def IsCanonical (v : ProtocolVersion) : Prop := ofU16 v.toU16 = v

instance (v : ProtocolVersion) : Decidable v.IsCanonical :=
  inferInstanceAs (Decidable (ofU16 v.toU16 = v))

@[simp] theorem toU16_ofU16 (x : UInt16) : (ofU16 x).toU16 = x := by
  unfold ofU16
  repeat refine code_ite_eq toU16 rfl fun _ => ?_
  rfl

@[simp] theorem length_toArray (v : ProtocolVersion) : v.toArray.length = 2 := by
  simp [toArray]

theorem isCanonical_of_ne_unknown {v : ProtocolVersion} (h : ∀ x, v ≠ unknown x) :
    v.IsCanonical := by
  cases v with
  | unknown x => exact absurd rfl (h x)
  | _ => rfl

end ProtocolVersion

/-- `HandshakeType` of `enums.rs`. -/
inductive HandshakeType
  | helloRequest
  | clientHello
  | serverHello
  | helloVerifyRequest
  | newSessionTicket
  | endOfEarlyData
  | helloRetryRequest
  | encryptedExtensions
  | certificate
  | serverKeyExchange
  | certificateRequest
  | serverHelloDone
  | certificateVerify
  | clientKeyExchange
  | finished
  | certificateURL
  | certificateStatus
  | keyUpdate
  | compressedCertificate
  | messageHash
  | unknown (x : UInt8)
  deriving DecidableEq, Repr

/-- `AlertLevel` of `msgs/enums.rs`. -/
inductive AlertLevel
  | warning
  | fatal
  | unknown (x : UInt8)
  deriving DecidableEq, Repr

/-- `AlertDescription` of `enums.rs`. -/
inductive AlertDescription
  | closeNotify
  | unexpectedMessage
  | badRecordMac
  | decryptionFailed
  | recordOverflow
  | decompressionFailure
  | handshakeFailure
  | noCertificate
  | badCertificate
  | unsupportedCertificate
  | certificateRevoked
  | certificateExpired
  | certificateUnknown
  | illegalParameter
  | unknownCA
  | accessDenied
  | decodeError
  | decryptError
  | exportRestriction
  | protocolVersion
  | insufficientSecurity
  | internalError
  | inappropriateFallback
  | userCanceled
  | noRenegotiation
  | missingExtension
  | unsupportedExtension
  | certificateUnobtainable
  | unrecognisedName
  | badCertificateStatusResponse
  | badCertificateHashValue
  | unknownPSKIdentity
  | certificateRequired
  | noApplicationProtocol
  | encryptedClientHelloRequired
  | unknown (x : UInt8)
  deriving DecidableEq, Repr

/-- `AlertLevel::from(u8)`. -/
def AlertLevel.ofU8 (x : UInt8) : AlertLevel :=
  if x = 0x01 then .warning
  else if x = 0x02 then .fatal
  else .unknown x

/-- `AlertDescription::from(u8)`. -/
def AlertDescription.ofU8 (x : UInt8) : AlertDescription :=
  match x with
  | 0x00 => .closeNotify
  | 0x0a => .unexpectedMessage
  | 0x14 => .badRecordMac
  | 0x15 => .decryptionFailed
  | 0x16 => .recordOverflow
  | 0x1e => .decompressionFailure
  | 0x28 => .handshakeFailure
  | 0x29 => .noCertificate
  | 0x2a => .badCertificate
  | 0x2b => .unsupportedCertificate
  | 0x2c => .certificateRevoked
  | 0x2d => .certificateExpired
  | 0x2e => .certificateUnknown
  | 0x2f => .illegalParameter
  | 0x30 => .unknownCA
  | 0x31 => .accessDenied
  | 0x32 => .decodeError
  | 0x33 => .decryptError
  | 0x3c => .exportRestriction
  | 0x46 => .protocolVersion
  | 0x47 => .insufficientSecurity
  | 0x50 => .internalError
  | 0x56 => .inappropriateFallback
  | 0x5a => .userCanceled
  | 0x64 => .noRenegotiation
  | 0x6d => .missingExtension
  | 0x6e => .unsupportedExtension
  | 0x6f => .certificateUnobtainable
  | 0x70 => .unrecognisedName
  | 0x71 => .badCertificateStatusResponse
  | 0x72 => .badCertificateHashValue
  | 0x73 => .unknownPSKIdentity
  | 0x74 => .certificateRequired
  | 0x78 => .noApplicationProtocol
  | 0x79 => .encryptedClientHelloRequired
  | x => .unknown x

/-- `u8::from(AlertLevel)`. -/
def AlertLevel.toU8 : AlertLevel → UInt8
  | .warning => 0x01
  | .fatal => 0x02
  | .unknown x => x

/-- `u8::from(AlertDescription)`. -/
def AlertDescription.toU8 : AlertDescription → UInt8
  | .closeNotify => 0x00
  | .unexpectedMessage => 0x0a
  | .badRecordMac => 0x14
  | .decryptionFailed => 0x15
  | .recordOverflow => 0x16
  | .decompressionFailure => 0x1e
  | .handshakeFailure => 0x28
  | .noCertificate => 0x29
  | .badCertificate => 0x2a
  | .unsupportedCertificate => 0x2b
  | .certificateRevoked => 0x2c
  | .certificateExpired => 0x2d
  | .certificateUnknown => 0x2e
  | .illegalParameter => 0x2f
  | .unknownCA => 0x30
  | .accessDenied => 0x31
  | .decodeError => 0x32
  | .decryptError => 0x33
  | .exportRestriction => 0x3c
  | .protocolVersion => 0x46
  | .insufficientSecurity => 0x47
  | .internalError => 0x50
  | .inappropriateFallback => 0x56
  | .userCanceled => 0x5a
  | .noRenegotiation => 0x64
  | .missingExtension => 0x6d
  | .unsupportedExtension => 0x6e
  | .certificateUnobtainable => 0x6f
  | .unrecognisedName => 0x70
  | .badCertificateStatusResponse => 0x71
  | .badCertificateHashValue => 0x72
  | .unknownPSKIdentity => 0x73
  | .certificateRequired => 0x74
  | .noApplicationProtocol => 0x78
  | .encryptedClientHelloRequired => 0x79
  | .unknown x => x

/-- `Side` of `common_state.rs`. -/
inductive Side
  | client
  | server
  deriving DecidableEq, Repr

/-- `Side::peer`. -/
def Side.peer : Side → Side
  | client => server
  | server => client

@[simp] theorem Side.peer_peer (s : Side) : s.peer.peer = s := by
  cases s <;> rfl

/-- `Protocol` of `common_state.rs`. -/
inductive Protocol
  | tcp
  | quic
  deriving DecidableEq, Repr

/-! ### Enumerations compared by code point

Handshake code reads `CipherSuite`, `NamedGroup` and `ExtensionType` values
off the wire and compares them; nothing depends on which of them carry a
name.  They are kept as their 16-bit code points, and only the values the
development refers to are named. -/

/-- `CipherSuite` of `enums.rs`. -/
structure CipherSuite where
  value : UInt16
  deriving DecidableEq, Repr

namespace CipherSuite

/-- `TLS_EMPTY_RENEGOTIATION_INFO_SCSV`. -/
def tlsEmptyRenegotiationInfoScsv : CipherSuite := ⟨0x00ff⟩
/-- `TLS13_AES_128_GCM_SHA256`. -/
def tls13Aes128GcmSha256 : CipherSuite := ⟨0x1301⟩
/-- `TLS13_AES_256_GCM_SHA384`. -/
def tls13Aes256GcmSha384 : CipherSuite := ⟨0x1302⟩
/-- `TLS13_CHACHA20_POLY1305_SHA256`. -/
def tls13Chacha20Poly1305Sha256 : CipherSuite := ⟨0x1303⟩
/-- `TLS_ECDHE_ECDSA_WITH_AES_128_GCM_SHA256`. -/
def tlsEcdheEcdsaWithAes128GcmSha256 : CipherSuite := ⟨0xc02b⟩
/-- `TLS_ECDHE_ECDSA_WITH_AES_256_GCM_SHA384`. -/
def tlsEcdheEcdsaWithAes256GcmSha384 : CipherSuite := ⟨0xc02c⟩
/-- `TLS_ECDHE_RSA_WITH_AES_128_GCM_SHA256`. -/
def tlsEcdheRsaWithAes128GcmSha256 : CipherSuite := ⟨0xc02f⟩
/-- `TLS_ECDHE_RSA_WITH_AES_256_GCM_SHA384`. -/
def tlsEcdheRsaWithAes256GcmSha384 : CipherSuite := ⟨0xc030⟩
/-- `TLS_ECDHE_RSA_WITH_CHACHA20_POLY1305_SHA256`. -/
def tlsEcdheRsaWithChacha20Poly1305Sha256 : CipherSuite := ⟨0xcca8⟩
/-- `TLS_ECDHE_ECDSA_WITH_CHACHA20_POLY1305_SHA256`. -/
def tlsEcdheEcdsaWithChacha20Poly1305Sha256 : CipherSuite := ⟨0xcca9⟩

end CipherSuite

/-- `NamedGroup` of `msgs/enums.rs`. -/
structure NamedGroup where
  value : UInt16
  deriving DecidableEq, Repr

namespace NamedGroup

/-- `secp256r1`. -/
def secp256r1 : NamedGroup := ⟨0x0017⟩
/-- `secp384r1`. -/
def secp384r1 : NamedGroup := ⟨0x0018⟩
/-- `X25519`. -/
def x25519 : NamedGroup := ⟨0x001d⟩

end NamedGroup

/-- `ExtensionType` of `msgs/enums.rs`. -/
structure ExtensionType where
  value : UInt16
  deriving DecidableEq, Repr

namespace ExtensionType

/-- `CompressCertificate`. -/
def compressCertificate : ExtensionType := ⟨0x001b⟩
/-- `PreSharedKey`. -/
def preSharedKey : ExtensionType := ⟨0x0029⟩
/-- `EarlyData`. -/
def earlyData : ExtensionType := ⟨0x002a⟩
/-- `SupportedVersions`. -/
def supportedVersions : ExtensionType := ⟨0x002b⟩
/-- `Cookie`. -/
def cookie : ExtensionType := ⟨0x002c⟩
/-- `PSKKeyExchangeModes`. -/
def pskKeyExchangeModes : ExtensionType := ⟨0x002d⟩
/-- `KeyShare`. -/
def keyShare : ExtensionType := ⟨0x0033⟩
/-- `EncryptedClientHello`. -/
def encryptedClientHello : ExtensionType := ⟨0xfe0d⟩
/-- `ServerName`. -/
def serverName : ExtensionType := ⟨0x0000⟩
/-- `StatusRequest`. -/
def statusRequest : ExtensionType := ⟨0x0005⟩
/-- `EllipticCurves`. -/
def ellipticCurves : ExtensionType := ⟨0x000a⟩
/-- `ECPointFormats`. -/
def ecPointFormats : ExtensionType := ⟨0x000b⟩
/-- `SignatureAlgorithms`. -/
def signatureAlgorithms : ExtensionType := ⟨0x000d⟩
/-- `ALProtocolNegotiation`. -/
def alProtocolNegotiation : ExtensionType := ⟨0x0010⟩
/-- `ExtendedMasterSecret`. -/
def extendedMasterSecret : ExtensionType := ⟨0x0017⟩
/-- `SessionTicket`. -/
def sessionTicket : ExtensionType := ⟨0x0023⟩
/-- `SignatureAlgorithmsCert`. -/
def signatureAlgorithmsCert : ExtensionType := ⟨0x0032⟩
/-- `EncryptedClientHelloOuterExtensions`. -/
def encryptedClientHelloOuterExtensions : ExtensionType := ⟨0xfd00⟩

/-- `ech_compress`: the extensions an ECH inner hello takes from the outer one
by reference, as BoringSSL and Go's standard library do. -/
def echCompress (t : ExtensionType) : Bool :=
  t = statusRequest || t = ellipticCurves || t = signatureAlgorithms || t = signatureAlgorithmsCert ||
    t = alProtocolNegotiation || t = supportedVersions || t = cookie || t = keyShare ||
    t = pskKeyExchangeModes

theorem ext {s t : ExtensionType} (h : s.value = t.value) : s = t := by
  cases s
  cases t
  cases h
  rfl

end ExtensionType

end Rustls
