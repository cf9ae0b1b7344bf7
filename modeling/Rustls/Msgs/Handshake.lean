import Rustls.Enums

/-!
Handshake message payloads of `msgs/handshake.rs`, as the handshake state
machines read them: the ClientHello's extensions with the accessors the
server uses, and the HelloRetryRequest with those the client uses.

Extensions are kept in their order on the wire.  Each accessor looks an
extension up by type with `find_extension`, which takes the first of that
type, and then accepts it only if it is of the expected variant; an
extension the parser did not recognise is `unknown` with its type.  Only the
variants some modelled handler reads are spelled out.
-/

namespace Rustls

/-- `has_duplicates`: some value occurs twice. -/
def hasDuplicates {α : Type} [DecidableEq α] (l : List α) : Bool :=
  !decide l.Nodup

/-! ### ClientHello -/

/-- `PresharedKeyIdentity`. -/
structure PresharedKeyIdentity where
  identity : List UInt8
  obfuscatedTicketAge : UInt32
  deriving DecidableEq, Repr

/-- `PresharedKeyOffer`: identities and their binders, by position. -/
structure PresharedKeyOffer where
  identities : List PresharedKeyIdentity
  binders : List (List UInt8)
  deriving DecidableEq, Repr

/-- `PSKKeyExchangeMode`. -/
inductive PskKeyExchangeMode
  | pskKe
  | pskDheKe
  deriving DecidableEq, Repr

/-- `KeyShareEntry`. -/
structure KeyShareEntry where
  group : NamedGroup
  payload : List UInt8
  deriving DecidableEq, Repr

/-- `ClientExtension`, with the variants the server's TLS 1.3 ClientHello
handling reads and the ECH extension the client sends, by its encoding; any
other is `unknown` with its type and body. -/
inductive ClientExtension
  | keyShare (entries : List KeyShareEntry)
  | presharedKeyModes (modes : List PskKeyExchangeMode)
  | presharedKey (offer : PresharedKeyOffer)
  | earlyData
  | certificateCompressionAlgorithms (algs : List UInt16)
  | encryptedClientHello (payload : List UInt8)
  | unknown (typ : ExtensionType) (payload : List UInt8)
  deriving DecidableEq, Repr

/-- `ClientExtension::ext_type`. -/
def ClientExtension.extType : ClientExtension → ExtensionType
  | .keyShare _ => .keyShare
  | .presharedKeyModes _ => .pskKeyExchangeModes
  | .presharedKey _ => .preSharedKey
  | .earlyData => .earlyData
  | .certificateCompressionAlgorithms _ => .compressCertificate
  | .encryptedClientHello _ => .encryptedClientHello
  | .unknown typ _ => typ

/-- What is read of `ClientHelloPayload`: its compression methods, by code,
and its extensions. -/
structure ClientHelloPayload where
  compressionMethods : List UInt8
  extensions : List ClientExtension
  deriving DecidableEq, Repr

namespace ClientHelloPayload

/-- `find_extension`: the first extension of the type. -/
def findExtension (ch : ClientHelloPayload) (ext : ExtensionType) : Option ClientExtension :=
  ch.extensions.find? (·.extType == ext)

/-- `keyshare_extension`. -/
def keyshareExtension (ch : ClientHelloPayload) : Option (List KeyShareEntry) :=
  match ch.findExtension .keyShare with
  | some (.keyShare shares) => some shares
  | _ => none

/-- `has_keyshare_extension_with_duplicates`: two shares for one group. -/
def hasKeyshareExtensionWithDuplicates (ch : ClientHelloPayload) : Bool :=
  (ch.keyshareExtension.map fun entries => hasDuplicates (entries.map (·.group))).getD false

/-- `psk`. -/
def psk (ch : ClientHelloPayload) : Option PresharedKeyOffer :=
  match ch.findExtension .preSharedKey with
  | some (.presharedKey offer) => some offer
  | _ => none

/-- `check_psk_ext_is_last`. -/
def checkPskExtIsLast (ch : ClientHelloPayload) : Bool :=
  (ch.extensions.getLast?.map fun ext => ext.extType == .preSharedKey).getD false

/-- `psk_modes`. -/
def pskModes (ch : ClientHelloPayload) : Option (List PskKeyExchangeMode) :=
  match ch.findExtension .pskKeyExchangeModes with
  | some (.presharedKeyModes modes) => some modes
  | _ => none

/-- `psk_mode_offered`. -/
def pskModeOffered (ch : ClientHelloPayload) (mode : PskKeyExchangeMode) : Bool :=
  (ch.pskModes.map fun modes => modes.contains mode).getD false

/-- `early_data_extension_offered`. -/
def earlyDataExtensionOffered (ch : ClientHelloPayload) : Bool :=
  (ch.findExtension .earlyData).isSome

/-- `certificate_compression_extension`. -/
def certificateCompressionExtension (ch : ClientHelloPayload) : Option (List UInt16) :=
  match ch.findExtension .compressCertificate with
  | some (.certificateCompressionAlgorithms algs) => some algs
  | _ => none

/-- `has_certificate_compression_extension_with_duplicates`. -/
def hasCertificateCompressionExtensionWithDuplicates (ch : ClientHelloPayload) : Bool :=
  match ch.certificateCompressionExtension with
  | some algs => hasDuplicates algs
  | none => false

end ClientHelloPayload

/-! ### HelloRetryRequest -/

/-- `HelloRetryExtension`; an unknown extension's body is not read. -/
inductive HelloRetryExtension
  | keyShare (group : NamedGroup)
  | cookie (payload : List UInt8)
  | supportedVersions (version : ProtocolVersion)
  | echHelloRetryRequest (payload : List UInt8)
  | unknown (typ : ExtensionType)
  deriving DecidableEq, Repr

/-- `HelloRetryExtension::ext_type`. -/
def HelloRetryExtension.extType : HelloRetryExtension → ExtensionType
  | .keyShare _ => .keyShare
  | .cookie _ => .cookie
  | .supportedVersions _ => .supportedVersions
  | .echHelloRetryRequest _ => .encryptedClientHello
  | .unknown typ => typ

/-- `HelloRetryRequest`. -/
structure HelloRetryRequest where
  legacyVersion : ProtocolVersion
  sessionId : List UInt8
  cipherSuite : CipherSuite
  extensions : List HelloRetryExtension
  deriving DecidableEq, Repr

namespace HelloRetryRequest

/-- `has_duplicate_extension`. -/
def hasDuplicateExtension (hrr : HelloRetryRequest) : Bool :=
  hasDuplicates (hrr.extensions.map HelloRetryExtension.extType)

/-- `has_unknown_extension`: a type other than the four a retry request may
carry. -/
def hasUnknownExtension (hrr : HelloRetryRequest) : Bool :=
  hrr.extensions.any fun ext =>
    ext.extType != .keyShare && ext.extType != .supportedVersions && ext.extType != .cookie &&
      ext.extType != .encryptedClientHello

/-- `find_extension`: the first extension of the type. -/
def findExtension (hrr : HelloRetryRequest) (ext : ExtensionType) : Option HelloRetryExtension :=
  hrr.extensions.find? (·.extType == ext)

/-- `requested_key_share_group`. -/
def requestedKeyShareGroup (hrr : HelloRetryRequest) : Option NamedGroup :=
  match hrr.findExtension .keyShare with
  | some (.keyShare grp) => some grp
  | _ => none

/-- `cookie`. -/
def cookie (hrr : HelloRetryRequest) : Option (List UInt8) :=
  match hrr.findExtension .cookie with
  | some (.cookie ck) => some ck
  | _ => none

/-- `supported_versions`. -/
def supportedVersions (hrr : HelloRetryRequest) : Option ProtocolVersion :=
  match hrr.findExtension .supportedVersions with
  | some (.supportedVersions ver) => some ver
  | _ => none

/-- `ech`. -/
def ech (hrr : HelloRetryRequest) : Option (List UInt8) :=
  match hrr.findExtension .encryptedClientHello with
  | some (.echHelloRetryRequest ech) => some ech
  | _ => none

end HelloRetryRequest

end Rustls
