import Rustls.Client.EchInner

/-!
The extensions a server sends, `ServerExtension` of `msgs/handshake.rs`, with
their encoding, their reader, and the accessors of `HasServerExtensions` a
client looks them up with.

An extension is its type and a body behind a `u16` length.  The reader reads
the type, takes the body, reads it with the reader of the variant the type
names, and refuses anything that reader leaves in the body
(`sub.expect_empty`).  Each variant a server writes reads back as itself, as
long as every length fits its prefix and an unknown extension is not of a
type the reader knows; so EncryptedExtensions reach a client as the server
wrote them (`readEncryptedExtensions_encode`).

The retry configurations of the ECH extension are kept by their encoding and
not parsed.
-/

namespace Rustls

namespace ExtensionType

/-- `RenegotiationInfo`. -/
def renegotiationInfo : ExtensionType := ⟨0xff01⟩
/-- `TransportParametersDraft`. -/
def transportParametersDraft : ExtensionType := ⟨0xffa5⟩

end ExtensionType

/-- `ServerExtension`.  Point formats are kept by their code. -/
inductive ServerExtension
  | ecPointFormats (formats : List UInt8)
  | serverNameAck
  | sessionTicketAck
  | renegotiationInfo (payload : List UInt8)
  | protocols (names : List (List UInt8))
  | keyShare (entry : KeyShareEntry)
  | presharedKey (index : UInt16)
  | extendedMasterSecretAck
  | certificateStatusAck
  | supportedVersions (version : ProtocolVersion)
  | transportParameters (params : List UInt8)
  | transportParametersDraft (params : List UInt8)
  | earlyData
  | encryptedClientHello (retryConfigs : List UInt8)
  | unknown (typ : ExtensionType) (payload : List UInt8)
  deriving DecidableEq, Repr

namespace ServerExtension

/-- `ext_type`. -/
def extType : ServerExtension → ExtensionType
  | .ecPointFormats _ => .ecPointFormats
  | .serverNameAck => .serverName
  | .sessionTicketAck => .sessionTicket
  | .renegotiationInfo _ => .renegotiationInfo
  | .protocols _ => .alProtocolNegotiation
  | .keyShare _ => .keyShare
  | .presharedKey _ => .preSharedKey
  | .extendedMasterSecretAck => .extendedMasterSecret
  | .certificateStatusAck => .statusRequest
  | .supportedVersions _ => .supportedVersions
  | .transportParameters _ => .transportParameters
  | .transportParametersDraft _ => .transportParametersDraft
  | .earlyData => .earlyData
  | .encryptedClientHello _ => .encryptedClientHello
  | .unknown typ _ => typ

/-- `make_alpn`. -/
def makeAlpn (protos : List (List UInt8)) : ServerExtension :=
  .protocols protos

/-- What `encode` writes into the extension's `LengthPrefixedBuffer`. -/
def body : ServerExtension → List UInt8
  | .ecPointFormats formats => encodeVec .u8 (fun f => [f]) formats
  | .serverNameAck | .sessionTicketAck | .extendedMasterSecretAck | .certificateStatusAck | .earlyData => []
  | .renegotiationInfo payload => PayloadU8.encode payload
  | .protocols names => encodeProtocolNames names
  | .keyShare entry => encodeU16 entry.group.value ++ PayloadU16.encode entry.payload
  | .presharedKey index => encodeU16 index
  | .supportedVersions version => encodeU16 version.toU16
  | .transportParameters params | .transportParametersDraft params => params
  | .encryptedClientHello retryConfigs => retryConfigs
  | .unknown _ payload => payload

/-- `encode`: the type, then the body in a `u16` `LengthPrefixedBuffer`. -/
def encode (ext : ServerExtension) : List UInt8 :=
  encodeU16 ext.extType.value ++ lengthPrefixedBuffer .u16 ext.body

/-- The match of `read` on the type: the variant's reader over the body, with
what it leaves of it. -/
def readBody (typ : ExtensionType) : Bytes.Reader ServerExtension := fun sub =>
  if typ = .ecPointFormats then (readVec .u8 readU8 sub).map fun (formats, r) => (.ecPointFormats formats, r)
  else if typ = .serverName then some (.serverNameAck, sub)
  else if typ = .sessionTicket then some (.sessionTicketAck, sub)
  else if typ = .statusRequest then some (.certificateStatusAck, sub)
  else if typ = .renegotiationInfo then (PayloadU8.read sub).map fun (payload, r) => (.renegotiationInfo payload, r)
  else if typ = .alProtocolNegotiation then (readProtocolNames sub).map fun (names, r) => (.protocols names, r)
  else if typ = .keyShare then
    (readU16 sub).bind fun (group, r) =>
      (PayloadU16.read r).map fun (payload, r) => (.keyShare ⟨⟨group⟩, payload⟩, r)
  else if typ = .preSharedKey then (readU16 sub).map fun (index, r) => (.presharedKey index, r)
  else if typ = .extendedMasterSecret then some (.extendedMasterSecretAck, sub)
  else if typ = .supportedVersions then (readU16 sub).map fun (v, r) => (.supportedVersions (.ofU16 v), r)
  else if typ = .transportParameters then some (.transportParameters sub, [])
  else if typ = .transportParametersDraft then some (.transportParametersDraft sub, [])
  else if typ = .earlyData then some (.earlyData, sub)
  else if typ = .encryptedClientHello then some (.encryptedClientHello sub, [])
  else some (.unknown typ sub, [])

/-- `read`: the type, the body behind its `u16` length, the body by the type,
and nothing left in it. -/
def read : Bytes.Reader ServerExtension := fun input =>
  (readU16 input).bind fun (typ, rest) =>
    (PayloadU16.read rest).bind fun (sub, rest) =>
      (readBody ⟨typ⟩ sub).bind fun (ext, left) => if left = [] then some (ext, rest) else none

end ServerExtension

/-! ### Looking extensions up

The methods of `HasServerExtensions`, on a `Vec<ServerExtension>`. -/

namespace HasServerExtensions

/-- `has_duplicate_extension`. -/
def hasDuplicateExtension (exts : List ServerExtension) : Bool :=
  hasDuplicates (exts.map ServerExtension.extType)

/-- `find_extension`: the first extension of the type. -/
def findExtension (exts : List ServerExtension) (ext : ExtensionType) : Option ServerExtension :=
  exts.find? (·.extType == ext)

/-- `alpn_protocol`: the protocol of an ALPN extension that names exactly one
(`as_single_slice`). -/
def alpnProtocol (exts : List ServerExtension) : Option (List UInt8) :=
  match findExtension exts .alProtocolNegotiation with
  | some (.protocols [proto]) => some proto
  | _ => none

/-- `quic_params_extension`: the transport parameters of the final version,
else of the draft. -/
def quicParamsExtension (exts : List ServerExtension) : Option (List UInt8) :=
  match (findExtension exts .transportParameters).or (findExtension exts .transportParametersDraft) with
  | some (.transportParameters params) | some (.transportParametersDraft params) => some params
  | _ => none

/-- `server_ech_extension`. -/
def serverEchExtension (exts : List ServerExtension) : Option (List UInt8) :=
  match findExtension exts .encryptedClientHello with
  | some (.encryptedClientHello retryConfigs) => some retryConfigs
  | _ => none

/-- `early_data_extension_offered`. -/
def earlyDataExtensionOffered (exts : List ServerExtension) : Bool :=
  (findExtension exts .earlyData).isSome

/-- In a list without two extensions of a type, each extension is the one
found for its type. -/
theorem findExtension_of_mem {exts : List ServerExtension} {e : ServerExtension}
    (hnodup : (exts.map ServerExtension.extType).Nodup) (he : e ∈ exts) : findExtension exts e.extType = some e := by
  induction exts with
  | nil => cases he
  | cons x xs ih =>
    rw [List.map_cons, List.nodup_cons] at hnodup
    unfold findExtension
    rcases List.mem_cons.mp he with rfl | he
    · simp
    · have hne : x.extType ≠ e.extType := fun hx => hnodup.1 (hx ▸ List.mem_map_of_mem he)
      rw [List.find?_cons_of_neg (by simpa using hne)]
      exact ih hnodup.2 he

theorem findExtension_eq_none {exts : List ServerExtension} {t : ExtensionType}
    (h : t ∉ exts.map ServerExtension.extType) : findExtension exts t = none := by
  apply List.find?_eq_none.mpr
  intro x hx hxt
  exact h (beq_iff_eq.mp hxt ▸ List.mem_map_of_mem hx)

end HasServerExtensions

/-! ### What reads back -/

namespace ServerExtension

/-- The types `read` gives a variant of its own. -/
def knownTypes : List ExtensionType :=
  [.ecPointFormats, .serverName, .sessionTicket, .statusRequest, .renegotiationInfo, .alProtocolNegotiation,
    .keyShare, .preSharedKey, .extendedMasterSecret, .supportedVersions, .transportParameters,
    .transportParametersDraft, .earlyData, .encryptedClientHello]

/-- What `read` needs of an extension to give it back: each length within its
prefix, a version that reads back as itself, and an unknown extension of a
type `read` does not know. -/
def Readable : ServerExtension → Prop
  | .ecPointFormats formats => formats.length < 256
  | .renegotiationInfo payload => payload.length < 256
  | .protocols names => (∀ n ∈ names, n.length < 256) ∧ (names.flatMap PayloadU8.encode).length + 2 < 2 ^ 16
  | .keyShare entry => entry.payload.length + 4 < 2 ^ 16
  | .supportedVersions version => version.IsCanonical
  | .transportParameters params | .transportParametersDraft params | .encryptedClientHello params =>
    params.length < 2 ^ 16
  | .unknown typ payload => typ ∉ knownTypes ∧ payload.length < 2 ^ 16
  | _ => True

/-- An ALPN answer with one protocol of at most 255 bytes reads back. -/
theorem readable_makeAlpn {proto : List UInt8} (h : proto.length < 256) : (makeAlpn [proto]).Readable := by
  refine ⟨fun n hn => List.mem_singleton.mp hn ▸ h, ?_⟩
  simp only [List.flatMap_cons, List.flatMap_nil, List.append_nil, PayloadU8.encode, List.length_cons]
  omega

/-- Each variant's reader takes its body back whole. -/
theorem readBody_body {ext : ServerExtension} (h : ext.Readable) : readBody ext.extType ext.body = some (ext, []) := by
  cases ext with
  | ecPointFormats formats =>
    have hread : readVec .u8 readU8 (encodeVec .u8 (fun f => [f]) formats) = some (formats, []) := by
      have hlist : Bytes.readList 1 readU8 (Bytes.prefixedList 1 (fun f => [f]) formats ++ []) = some (formats, []) :=
        Bytes.readList_prefixedList (fun f _ rest => readU8_cons f rest) (fun f _ => show 0 < [f].length from Nat.one_pos)
          (by rw [List.flatMap_singleton']; exact h) []
      rwa [List.append_nil] at hlist
    simp +decide [readBody, extType, body, hread]
  | renegotiationInfo payload =>
    have hread := PayloadU8.read_encode h []
    rw [List.append_nil] at hread
    simp +decide [readBody, extType, body, hread]
  | protocols names =>
    obtain ⟨hname, hfit⟩ : (∀ n ∈ names, n.length < 256) ∧ (names.flatMap PayloadU8.encode).length + 2 < 2 ^ 16 := h
    have hread := readProtocolNames_encodeProtocolNames hname (by omega) []
    rw [List.append_nil] at hread
    simp +decide [readBody, extType, body, hread]
  | keyShare entry =>
    have hlen : entry.payload.length + 4 < 2 ^ 16 := h
    have hread := PayloadU16.read_encode (show entry.payload.length < 2 ^ 16 by omega) []
    rw [List.append_nil] at hread
    simp +decide [readBody, extType, body, readU16_encodeU16, hread]
  | presharedKey index =>
    have hread := readU16_encodeU16 index []
    rw [List.append_nil] at hread
    simp +decide [readBody, extType, body, hread]
  | supportedVersions version =>
    have hread := readU16_encodeU16 version.toU16 []
    rw [List.append_nil] at hread
    have hcanonical : ProtocolVersion.ofU16 version.toU16 = version := h
    simp +decide [readBody, extType, body, hread, hcanonical]
  | unknown typ payload =>
    have hunknown : typ ∉ knownTypes := h.1
    simp only [knownTypes, List.mem_cons, List.not_mem_nil, not_or] at hunknown
    simp [readBody, extType, body, hunknown]
  | _ => simp +decide [readBody, extType, body]

theorem length_body_lt {ext : ServerExtension} (h : ext.Readable) : ext.body.length < 2 ^ 16 := by
  cases ext with
  | ecPointFormats formats =>
    have hlen : formats.length < 256 := h
    simp only [body, encodeVec, lengthPrefixedBuffer, ListLength.width, Bytes.length_prefixed,
      List.flatMap_singleton']
    omega
  | renegotiationInfo payload =>
    have hlen : payload.length < 256 := h
    simp only [body, PayloadU8.encode, List.length_cons]
    omega
  | protocols names =>
    have hlen : (names.flatMap PayloadU8.encode).length + 2 < 2 ^ 16 := h.2
    simp only [body, encodeProtocolNames, encodeVec, lengthPrefixedBuffer, ListLength.width, Bytes.length_prefixed]
    omega
  | keyShare entry =>
    have hlen : entry.payload.length + 4 < 2 ^ 16 := h
    simp only [body, encodeU16, PayloadU16.encode, List.length_append, Bytes.length_be]
    omega
  | transportParameters params | transportParametersDraft params | encryptedClientHello params => exact h
  | unknown typ payload => exact h.2
  | _ => simp [body, encodeU16]

/-- **An extension reads back** as it was written, with what follows it left. -/
theorem read_encode {ext : ServerExtension} (h : ext.Readable) (rest : List UInt8) :
    read (ext.encode ++ rest) = some (ext, rest) := by
  have hframe : ext.encode ++ rest = encodeU16 ext.extType.value ++ (PayloadU16.encode ext.body ++ rest) := by
    rw [encode, PayloadU16.encode_eq_prefixed, List.append_assoc]
    rfl
  rw [hframe, read, readU16_encodeU16, Option.bind_some]
  dsimp only
  rw [PayloadU16.read_encode (length_body_lt h), Option.bind_some]
  dsimp only
  rw [readBody_body h, Option.bind_some]
  rfl

theorem length_encode_pos (ext : ServerExtension) : 0 < ext.encode.length := by
  simp [encode, encodeU16]

end ServerExtension

/-! ### EncryptedExtensions on the wire -/

/-- `HandshakePayload::EncryptedExtensions` as written: the extensions in a
`u16` list. -/
def encodeEncryptedExtensions (exts : List ServerExtension) : List UInt8 :=
  encodeVec .u16 ServerExtension.encode exts

/-- `HandshakePayload::EncryptedExtensions` as read from the body of its
handshake message: the list, and nothing after it. -/
def readEncryptedExtensions (body : List UInt8) : Option (List ServerExtension) :=
  readBytes (readVec .u16 ServerExtension.read) body

/-- **EncryptedExtensions read back** as the server wrote them, when each
extension does and the list fits its `u16` length. -/
theorem readEncryptedExtensions_encode {exts : List ServerExtension} (h : ∀ ext ∈ exts, ext.Readable)
    (hfit : (exts.flatMap ServerExtension.encode).length < 2 ^ 16) :
    readEncryptedExtensions (encodeEncryptedExtensions exts) = some exts := by
  have hlist : Bytes.readList 2 ServerExtension.read (Bytes.prefixedList 2 ServerExtension.encode exts ++ []) =
      some (exts, []) :=
    Bytes.readList_prefixedList (fun ext hext rest => ServerExtension.read_encode (h ext hext) rest)
      (fun ext _ => ServerExtension.length_encode_pos ext) (lt_of_lt_of_eq hfit (by norm_num)) []
  rw [List.append_nil] at hlist
  exact readBytes_of_read hlist

end Rustls
