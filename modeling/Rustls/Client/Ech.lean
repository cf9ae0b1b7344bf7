import Rustls.Msgs.Codec
import Rustls.Client.Hello

/-!
The ECH inner ClientHello: `EchState::encode_inner_hello` of `client/ech.rs`
and `ClientHelloPayload::ech_inner_encoding` of `msgs/handshake.rs`.

The inner hello is built from the outer one.  Its extensions are the ECH
`Inner` marker, then the outer extensions less the TLS 1.2 ones, with the
outer SNI replaced by the inner name (when SNI is enabled and the name is a
DNS name), and with the extensions to compress moved into one block just
before a trailing PSK extension.  The encoding writes an empty session id and
replaces the compressed block by an `ech_outer_extensions` marker.

Section 6.1.3 of draft-ietf-tls-esni-18 then pads in two steps: first
`max(0, L - D)` bytes for a DNS name of `D` bytes, where `L` is the
configuration's `maximum_name_length`, or `L + 9` bytes without one; then up
to the next multiple of 32.  The code computes the first amount and shadows
it: only the second step pads, rounded as though the first had been added.
The result is short of a multiple of 32 by the first amount, and when the
inner SNI is sent its length grows with the name byte for byte.

A PSK binder, when resuming, is a function of the inner hello; the transcript
and the early key schedule the call also updates are left out.
-/

namespace Rustls

/-- `ServerName` of `pki_types`: a DNS name by its bytes, or an IP address. -/
inductive ServerName
  | dnsName (name : List UInt8)
  | ipAddress (addr : List UInt8)
  deriving DecidableEq, Repr

/-- What `encode_inner_hello` reads and writes of `EchState`. -/
structure EchState where
  innerHelloRandom : List UInt8
  innerName : ServerName
  maximumNameLength : UInt8
  enableSni : Bool
  sentExtensions : List ExtensionType
  deriving DecidableEq, Repr

/-- `ClientHelloPayload` with the fields its encoding writes: the model's
`ClientHelloPayload` holds the compression methods and the extensions. -/
structure ClientHello where
  clientVersion : ProtocolVersion
  random : List UInt8
  sessionId : List UInt8
  cipherSuites : List CipherSuite
  payload : ClientHelloPayload
  deriving DecidableEq, Repr

/-- `trim_hostname_trailing_dot_for_sni`: a final `.` is dropped. -/
def trimHostnameTrailingDot (name : List UInt8) : List UInt8 :=
  if name.getLast? = some 0x2e then name.dropLast else name

/-- `ClientExtension::make_sni`: one `HostName` entry, `(len as u16)` and the
name's bytes after its type byte. -/
def ClientExtension.makeSni (name : List UInt8) : ClientExtension :=
  .unknown .serverName
    (encodeVec .u16 (fun n => 0x00 :: PayloadU16.encode n) [trimHostnameTrailingDot name])

/-- `ClientExtension::EncryptedClientHelloOuterExtensions`, the marker for the
compressed block. -/
def ClientExtension.echOuterExtensions (types : List ExtensionType) : ClientExtension :=
  .unknown .encryptedClientHelloOuterExtensions (encodeVec .u8 (fun t => encodeU16 t.value) types)

/-- `EncryptedClientHello::Inner`: its type byte and nothing else. -/
def ClientExtension.echInner : ClientExtension :=
  .encryptedClientHello [0x01]

namespace EchState

/-- The inner SNI: the inner name when SNI is enabled and it is a DNS name. -/
def innerSni (st : EchState) : Option (List UInt8) :=
  match st.innerName with
  | .dnsName name => if st.enableSni then some name else none
  | .ipAddress _ => none

/-- One round of the loop over the outer extensions: the inner extensions so
far, the extensions set aside to compress, and their types. -/
def innerExtensionStep (innerSni : Option (List UInt8))
    (acc : List ClientExtension × List ClientExtension × List ExtensionType) (ext : ClientExtension) :
    List ClientExtension × List ClientExtension × List ExtensionType :=
  let (exts, compressed, compressedTypes) := acc
  -- extensions of a TLS 1.3 connection that allows TLS 1.2 only
  if ext.extType = .extendedMasterSecret ∨ ext.extType = .sessionTicket ∨ ext.extType = .ecPointFormats then
    acc
  else if ext.extType = .serverName then
    match innerSni with
    | some name => (exts ++ [.makeSni name], compressed, compressedTypes)
    | none => acc
  else if ext.extType.echCompress then (exts, compressed ++ [ext], compressedTypes ++ [ext.extType])
  else (exts ++ [ext], compressed, compressedTypes)

/-- The inner hello's extensions, and the types of those to compress: the
compressed block goes before a PSK extension in last place. -/
def innerExtensions (st : EchState) (outer : List ClientExtension) :
    List ClientExtension × List ExtensionType :=
  let (exts, compressed, compressedTypes) :=
    outer.foldl (innerExtensionStep st.innerSni) ([.echInner], [], [])
  let index :=
    match exts.getLast? with
    | some (.presharedKey _) => exts.length - 1
    | _ => exts.length
  (exts.take index ++ compressed ++ exts.drop index, compressedTypes)

end EchState

/-- The extensions `ech_inner_encoding` writes: the compressed block, from
the first extension of the first compressed type on, is replaced by the
marker. -/
def echInnerExtensions (exts : List ClientExtension) (toCompress : List ExtensionType) :
    List ClientExtension :=
  match toCompress with
  | [] => exts
  | first :: _ =>
    match exts.findIdx? (fun ext => ext.extType = first) with
    | none => exts
    | some start =>
      (exts.zipIdx.filterMap fun (ext, i) =>
        if i = start then some (ClientExtension.echOuterExtensions toCompress)
        else if start < i ∧ i < start + toCompress.length then none
        else some ext)

/-- `ClientHelloPayload::ech_inner_encoding`: `payload_encode` with an empty
session id and the compressed block replaced by its marker. -/
def ClientHello.echInnerEncoding (ch : ClientHello) (toCompress : List ExtensionType) : List UInt8 :=
  ch.clientVersion.toArray ++ ch.random ++ PayloadU8.encode [] ++
    encodeVec .u16 (fun cs => encodeU16 cs.value) ch.cipherSuites ++
    encodeVec .u8 (fun c => [c]) ch.payload.compressionMethods ++
    (match toCompress with
      | [] =>
        if ch.payload.extensions.isEmpty then []
        else encodeVec .u16 ClientExtension.encode ch.payload.extensions
      | _ :: _ => encodeVec .u16 ClientExtension.encode (echInnerExtensions ch.payload.extensions toCompress))

namespace EchState

/-- `L` of section 6.1.3: `maximum_name_length`, or 255 when that is 0. -/
def maxNameLen (st : EchState) : UInt8 :=
  if st.maximumNameLength > 0 then st.maximumNameLength else 255

/-- The first padding amount of section 6.1.3: `max(0, L - D)` for a DNS name
of `D` bytes, `L + 9` for an IP address.  `D` is cast to `u8` and the
subtraction saturates. -/
def namePaddingLen (st : EchState) : Nat :=
  match st.innerName with
  | .dnsName name =>
    let nameLen := UInt8.ofNat name.length
    max 0 (if nameLen ≤ st.maxNameLen then (st.maxNameLen - nameLen).toNat else 0)
  | .ipAddress _ => st.maxNameLen.toNat + 9

/-- `EchState::encode_inner_hello`, with `binder` the PSK binder
`fill_in_psk_binder` computes from the inner hello when resuming: the padded
encoding, and the state with `sent_extensions` set. -/
def encodeInnerHello (st : EchState) (outer : ClientHello)
    (binder : Option (ClientHelloPayload → List UInt8)) : List UInt8 × EchState :=
  let (extensions, compressedTypes) := st.innerExtensions outer.payload.extensions
  let inner : ClientHello :=
    ⟨outer.clientVersion, st.innerHelloRandom, outer.sessionId,
      outer.cipherSuites.filter (· ≠ .tlsEmptyRenegotiationInfoScsv),
      ⟨outer.payload.compressionMethods, extensions⟩⟩
  let st := { st with sentExtensions := extensions.map ClientExtension.extType }
  let inner :=
    match binder with
    | some binder => { inner with payload := inner.payload.setPskBinder (binder inner.payload) }
    | none => inner
  let encodedHello := inner.echInnerEncoding compressedTypes
  let paddingLen := st.namePaddingLen
  -- the amount just computed is shadowed: only this one is appended
  let paddingLen := 31 - ((encodedHello.length + paddingLen - 1) % 32)
  (encodedHello ++ List.replicate paddingLen 0, st)

end EchState

/-! ### The length of the padded encoding -/

theorem two_le_length_echInnerEncoding (ch : ClientHello) (toCompress : List ExtensionType) :
    2 ≤ (ch.echInnerEncoding toCompress).length := by
  simp only [ClientHello.echInnerEncoding, ProtocolVersion.toArray, List.length_append, Bytes.length_be]
  omega

/-- The second step pads `E` bytes to the multiple of 32 that `E + P` bytes
would round up to: the result is `P` short of a multiple of 32. -/
theorem padded_add_mod_thirtyTwo {E P : Nat} (hE : 1 ≤ E) : (E + (31 - (E + P - 1) % 32) + P) % 32 = 0 := by
  omega

namespace EchState

/-- **The inner hello is padded short.**  Its length and the name's padding
amount add up to a multiple of 32, so it is one itself only when that amount
is. -/
theorem length_encodeInnerHello_add (st : EchState) (outer : ClientHello)
    (binder : Option (ClientHelloPayload → List UInt8)) :
    ((st.encodeInnerHello outer binder).1.length + st.namePaddingLen) % 32 = 0 := by
  unfold encodeInnerHello
  simp only [List.length_append, List.length_replicate]
  exact padded_add_mod_thirtyTwo (Nat.le_trans (by decide) (two_le_length_echInnerEncoding _ _))

/-- A DNS name no longer than `L` is padded by `L - D`. -/
theorem namePaddingLen_dnsName {st : EchState} {name : List UInt8} (h : name.length ≤ st.maxNameLen.toNat) :
    { st with innerName := .dnsName name }.namePaddingLen = st.maxNameLen.toNat - name.length := by
  have hlt : name.length < 256 := Nat.lt_of_le_of_lt h st.maxNameLen.toNat_lt
  have hcast : (UInt8.ofNat name.length).toNat = name.length := by
    rw [UInt8.toNat_ofNat', Nat.mod_eq_of_lt hlt]
  have hle : UInt8.ofNat name.length ≤ st.maxNameLen := by
    rw [UInt8.le_iff_toNat_le, hcast]
    exact h
  have hmax : ({ st with innerName := .dnsName name } : EchState).maxNameLen = st.maxNameLen := rfl
  simp only [namePaddingLen, hmax]
  rw [if_pos hle, UInt8.toNat_sub_of_le _ _ hle, hcast]
  simp

/-- An ECH offer with SNI enabled in the inner hello, under a configuration
whose `maximum_name_length` is 0, so that `L` is 255. -/
def innerHelloOffer (name : List UInt8) : EchState :=
  ⟨List.replicate 32 0, .dnsName name, 0, true, []⟩

/-- An outer hello with the cover name's SNI and a supported_versions
extension, offering TLS13_AES_128_GCM_SHA256. -/
def coverHello : ClientHello :=
  ⟨.tlsv1_2, List.replicate 32 0, List.replicate 32 1, [.tls13Aes128GcmSha256],
    ⟨[0], [.makeSni (Bytes.ascii "public.example"), .unknown .supportedVersions [2, 3, 4]]⟩⟩

/-- **The padded length tells names apart.**  Two runs that differ only in
the inner DNS name, both within `L`, give encodings of different lengths
whenever the names' lengths differ modulo 32: not even the remainder of the
name's length is hidden. -/
theorem encodeInnerHello_length_reveals_name (st : EchState) (outer : ClientHello)
    (binder : Option (ClientHelloPayload → List UInt8)) {n₁ n₂ : List UInt8}
    (h₁ : n₁.length ≤ st.maxNameLen.toNat) (h₂ : n₂.length ≤ st.maxNameLen.toNat)
    (hne : n₁.length % 32 ≠ n₂.length % 32) :
    ({ st with innerName := .dnsName n₁ }.encodeInnerHello outer binder).1.length ≠
      ({ st with innerName := .dnsName n₂ }.encodeInnerHello outer binder).1.length := by
  have hmod₁ := length_encodeInnerHello_add { st with innerName := .dnsName n₁ } outer binder
  have hmod₂ := length_encodeInnerHello_add { st with innerName := .dnsName n₂ } outer binder
  rw [namePaddingLen_dnsName h₁] at hmod₁
  rw [namePaddingLen_dnsName h₂] at hmod₂
  intro heq
  rw [heq] at hmod₁
  omega

theorem encodeInnerHello_length_reveals_name_of_example_names :
    (Bytes.ascii "a.example").length ≤ (innerHelloOffer []).maxNameLen.toNat ∧
      (Bytes.ascii "ab.example").length ≤ (innerHelloOffer []).maxNameLen.toNat ∧
      (Bytes.ascii "a.example").length % 32 ≠ (Bytes.ascii "ab.example").length % 32 ∧
      ({ innerHelloOffer [] with innerName := .dnsName (Bytes.ascii "a.example") }.encodeInnerHello
          coverHello none).1.length ≠
        ({ innerHelloOffer [] with innerName := .dnsName (Bytes.ascii "ab.example") }.encodeInnerHello
          coverHello none).1.length :=
  ⟨by decide, by decide, by decide,
    encodeInnerHello_length_reveals_name (innerHelloOffer []) coverHello none (by decide) (by decide)
      (by decide)⟩

/-- The inner hellos for `a.example` and `ab.example` behind the same outer
hello are 74 and 75 bytes long, where section 6.1.3 pads both to 320. -/
theorem inner_hello_lengths_differ_by_name :
    ((innerHelloOffer (Bytes.ascii "a.example")).encodeInnerHello coverHello none).1.length = 74 ∧
      ((innerHelloOffer (Bytes.ascii "ab.example")).encodeInnerHello coverHello none).1.length = 75 :=
  ⟨rfl, rfl⟩

end EchState

end Rustls
