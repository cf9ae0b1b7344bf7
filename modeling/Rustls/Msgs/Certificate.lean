import Rustls.Msgs.Codec

/-!
The certificate messages of `msgs/handshake.rs`: the TLS 1.3 `Certificate`
payload, whose encoding the certificate compression cache keys on, and the
bare `CertificateChain` a server stores with a session.

A certificate is a DER blob behind a `u24` length (`CertificateDer` of
`msgs/base.rs`).  In TLS 1.3 each certificate is an entry with a `u16` list of
extensions, of which rustls knows the OCSP status; the payload is a `u8`
request context and a `u24` list of entries.  Every length goes through a
cast, as in `LengthPrefixedBuffer`, so a payload of any size is written, and
its encoding is as long as its parts (`length_encode`).

`Vec<T>::read` for a `U24` list refuses a length above the element type's
`max`; for certificates that is `CERTIFICATE_MAX_SIZE_LIMIT`, 64 KiB.
-/

namespace Rustls

/-- `CERTIFICATE_MAX_SIZE_LIMIT`. -/
def certificateMaxSizeLimit : Nat := 0x1_0000

/-- `u24::encode`: the `u32` written big-endian without its top byte. -/
def encodeU24 (v : UInt32) : List UInt8 :=
  Bytes.be 3 v.toNat

/-- The two casts of a length, `as u32` and then to three bytes, keep its
three low bytes. -/
theorem encodeU24_ofNat (n : Nat) : encodeU24 (UInt32.ofNat n) = Bytes.be 3 n := by
  have hdvd : 256 ^ 3 ∣ 2 ^ 32 := ⟨256, by norm_num⟩
  rw [encodeU24, UInt32.toNat_ofNat', ← Bytes.be_mod, Nat.mod_mod_of_dvd _ hdvd, Bytes.be_mod]

/-- `PayloadU24::encode`: `u24(len as u32)`, then the bytes. -/
def PayloadU24.encode (body : List UInt8) : List UInt8 :=
  encodeU24 (UInt32.ofNat body.length) ++ body

/-- `CertificateDer::encode`, the same as a `PayloadU24`. -/
def CertificateDer.encode (cert : List UInt8) : List UInt8 :=
  encodeU24 (UInt32.ofNat cert.length) ++ cert

/-- `CertificateDer::read`: a `u24` length, and that many bytes. -/
def CertificateDer.read : Bytes.Reader (List UInt8) :=
  Bytes.readPrefixed 3

theorem PayloadU24.encode_eq_prefixed (body : List UInt8) : PayloadU24.encode body = Bytes.prefixed 3 body := by
  rw [PayloadU24.encode, encodeU24_ofNat, Bytes.prefixed]

theorem CertificateDer.encode_eq_prefixed (cert : List UInt8) :
    CertificateDer.encode cert = Bytes.prefixed 3 cert := by
  rw [CertificateDer.encode, encodeU24_ofNat, Bytes.prefixed]

/-- `CertificateStatusType::OCSP`. -/
def certificateStatusTypeOcsp : UInt8 := 0x01

/-- `CertificateStatus::encode`: the type, then the OCSP response as a
`PayloadU24`. -/
def CertificateStatus.encode (ocspResponse : List UInt8) : List UInt8 :=
  certificateStatusTypeOcsp :: PayloadU24.encode ocspResponse

/-- `CertificateExtension`: an OCSP status, or an extension kept as its type
and body. -/
inductive CertificateExtension
  | certificateStatus (ocspResponse : List UInt8)
  | unknown (typ : ExtensionType) (payload : List UInt8)
  deriving DecidableEq, Repr

/-- `CertificateExtension::ext_type`. -/
def CertificateExtension.extType : CertificateExtension → ExtensionType
  | .certificateStatus _ => .statusRequest
  | .unknown typ _ => typ

/-- `CertificateExtension::encode`: the type, then the body in a `U16`
`LengthPrefixedBuffer`. -/
def CertificateExtension.encode (ext : CertificateExtension) : List UInt8 :=
  encodeU16 ext.extType.value ++ lengthPrefixedBuffer .u16
    (match ext with
      | .certificateStatus ocspResponse => CertificateStatus.encode ocspResponse
      | .unknown _ payload => payload)

/-- `CertificateEntry`. -/
structure CertificateEntry where
  cert : List UInt8
  exts : List CertificateExtension
  deriving DecidableEq, Repr

/-- `CertificateEntry::encode`: the certificate, then its extensions as a
`U16` list. -/
def CertificateEntry.encode (entry : CertificateEntry) : List UInt8 :=
  CertificateDer.encode entry.cert ++ encodeVec .u16 CertificateExtension.encode entry.exts

/-- `CertificatePayloadTls13`. -/
structure CertificatePayloadTls13 where
  context : List UInt8
  entries : List CertificateEntry
  deriving DecidableEq, Repr

/-- `CertificatePayloadTls13::encode`, which `get_encoding` writes into a new
vector: the context as a `PayloadU8`, then the entries as a `U24` list. -/
def CertificatePayloadTls13.encode (payload : CertificatePayloadTls13) : List UInt8 :=
  PayloadU8.encode payload.context ++ encodeVec .u24 CertificateEntry.encode payload.entries

@[simp] theorem CertificateEntry.length_encode (entry : CertificateEntry) :
    entry.encode.length = 3 + entry.cert.length + 2 + (entry.exts.flatMap CertificateExtension.encode).length := by
  rw [CertificateEntry.encode, CertificateDer.encode_eq_prefixed, encodeVec, lengthPrefixedBuffer,
    List.length_append, Bytes.length_prefixed, Bytes.length_prefixed, ListLength.width]
  omega

/-- The encoding is as long as its parts: no length is ever refused by a
writer. -/
theorem CertificatePayloadTls13.length_encode (payload : CertificatePayloadTls13) :
    payload.encode.length =
      1 + payload.context.length + 3 + (payload.entries.flatMap CertificateEntry.encode).length := by
  rw [CertificatePayloadTls13.encode, PayloadU8.encode_eq_prefixed, encodeVec, lengthPrefixedBuffer,
    List.length_append, Bytes.length_prefixed, Bytes.length_prefixed, ListLength.width]
  omega

/-! ### The certificate chain of a stored session -/

/-- `Vec<T>::read` for a `U24` list with a maximum: the length, refused above
`max`, a sub-reader over that many bytes, and elements until it is used up. -/
def readVecU24 {α : Type} (max : Nat) (read : Bytes.Reader α) : Bytes.Reader (List α) := fun input =>
  (Bytes.takeExact 3 input).bind fun (len, rest) =>
    if max < Bytes.value len then none
    else (Bytes.takeExact (Bytes.value len) rest).bind fun (body, rest) =>
      (Bytes.readAll read body.length body).map (·, rest)

/-- `CertificateChain::encode`: the certificates as a `U24` list. -/
def CertificateChain.encode (certs : List (List UInt8)) : List UInt8 :=
  encodeVec .u24 CertificateDer.encode certs

/-- `CertificateChain::read`, with the maximum of `CertificateDer`'s
`SIZE_LEN`. -/
def CertificateChain.read : Bytes.Reader (List (List UInt8)) :=
  readVecU24 certificateMaxSizeLimit CertificateDer.read

section ReadVecU24

variable {α : Type} {read : Bytes.Reader α} {write : α → List UInt8}

/-- A `U24` list no longer than `max` reads back when its elements do. -/
theorem readVecU24_prefixedList {max : Nat} {xs : List α}
    (hread : ∀ x ∈ xs, ∀ rest, read (write x ++ rest) = some (x, rest))
    (hpos : ∀ x ∈ xs, 0 < (write x).length) (hmax : (xs.flatMap write).length ≤ max)
    (hfit : (xs.flatMap write).length < 256 ^ 3) (rest : List UInt8) :
    readVecU24 max read (Bytes.prefixedList 3 write xs ++ rest) = some (xs, rest) := by
  rw [readVecU24, Bytes.prefixedList, Bytes.prefixed, List.append_assoc,
    Bytes.takeExact_append (Bytes.length_be 3 _), Option.bind_some]
  dsimp only
  rw [Bytes.value_be, Nat.mod_eq_of_lt hfit, if_neg (Nat.not_lt.mpr hmax),
    Bytes.takeExact_append rfl, Option.bind_some]
  dsimp only
  rw [Bytes.readAll_flatMap xs hread hpos _ (le_refl _), Option.map_some]

/-- A `U24` list longer than `max` is refused, whatever follows it. -/
theorem readVecU24_of_max_lt {max : Nat} {body : List UInt8} (hmax : max < body.length)
    (hfit : body.length < 256 ^ 3) (rest : List UInt8) :
    readVecU24 max read (Bytes.prefixed 3 body ++ rest) = none := by
  rw [readVecU24, Bytes.prefixed, List.append_assoc, Bytes.takeExact_append (Bytes.length_be 3 _),
    Option.bind_some]
  dsimp only
  rw [Bytes.value_be, Nat.mod_eq_of_lt hfit, if_pos hmax]

end ReadVecU24

/-- A certificate shorter than `2^24` bytes reads back. -/
theorem CertificateDer.read_encode {cert : List UInt8} (h : cert.length < 2 ^ 24) (rest : List UInt8) :
    CertificateDer.read (CertificateDer.encode cert ++ rest) = some (cert, rest) := by
  rw [CertificateDer.read, CertificateDer.encode_eq_prefixed]
  exact Bytes.readPrefixed_prefixed_of_lt (by simpa using h) rest

theorem CertificateChain.encode_eq_prefixedList (certs : List (List UInt8)) :
    CertificateChain.encode certs = Bytes.prefixedList 3 CertificateDer.encode certs := rfl

/-- **A chain within `CERTIFICATE_MAX_SIZE_LIMIT` reads back**, whatever
follows it. -/
theorem CertificateChain.read_encode {certs : List (List UInt8)} (hcert : ∀ cert ∈ certs, cert.length < 2 ^ 24)
    (hmax : (certs.flatMap CertificateDer.encode).length ≤ certificateMaxSizeLimit) (rest : List UInt8) :
    CertificateChain.read (CertificateChain.encode certs ++ rest) = some (certs, rest) := by
  have hpos : ∀ cert ∈ certs, 0 < (CertificateDer.encode cert).length := fun cert _ => by
    rw [CertificateDer.encode_eq_prefixed, Bytes.length_prefixed]
    omega
  have hfit : (certs.flatMap CertificateDer.encode).length < 256 ^ 3 := by
    unfold certificateMaxSizeLimit at hmax
    omega
  rw [CertificateChain.read, encode_eq_prefixedList]
  exact readVecU24_prefixedList (fun cert hc rest => CertificateDer.read_encode (hcert cert hc) rest) hpos
    hmax hfit rest

/-- A chain beyond `CERTIFICATE_MAX_SIZE_LIMIT` is refused, although its
length fits the `u24` prefix it was written with. -/
theorem CertificateChain.read_encode_of_lt {certs : List (List UInt8)}
    (hmax : certificateMaxSizeLimit < (certs.flatMap CertificateDer.encode).length)
    (hfit : (certs.flatMap CertificateDer.encode).length < 2 ^ 24) (rest : List UInt8) :
    CertificateChain.read (CertificateChain.encode certs ++ rest) = none := by
  rw [CertificateChain.read, CertificateChain.encode, encodeVec, lengthPrefixedBuffer, ListLength.width]
  exact readVecU24_of_max_lt hmax hfit rest

end Rustls
