import Rustls.Lib.Codec
import Rustls.Msgs.Handshake

/-!
The writers of `msgs/codec.rs`, `msgs/base.rs` and `msgs/handshake.rs` that a
ClientHello is encoded with, and the readers of the ALPN extension.

`LengthPrefixedBuffer::new` writes a dummy length and lets the body be
appended; its `drop` overwrites the dummy with the body's length cast to the
prefix's width: `len as u8`, `len as u16`, or the low three bytes of
`len as u32`.  The range checks before the casts are `debug_assert!`s, absent
from release builds, so the result is `Bytes.prefixed` whatever the length.
`PayloadU8` and `PayloadU16` write their length with the same casts.  Below the
width's bound everything reads back; a protocol name of 256 bytes does not.
-/

namespace Rustls

/-- `ListLength`: the width of a list's length prefix.  The maximum and the
error of `U24` are the reader's, which is not modelled. -/
inductive ListLength
  | u8
  | u16
  | u24
  deriving DecidableEq, Repr

/-- The bytes of the length prefix. -/
def ListLength.width : ListLength → Nat
  | .u8 => 1
  | .u16 => 2
  | .u24 => 3

/-- `LengthPrefixedBuffer`, from `new` to `drop`: the body behind its length,
cast to the width. -/
def lengthPrefixedBuffer (sizeLen : ListLength) (body : List UInt8) : List UInt8 :=
  Bytes.prefixed sizeLen.width body

/-- `u16::encode`. -/
def encodeU16 (v : UInt16) : List UInt8 :=
  Bytes.be 2 v.toNat

/-- `PayloadU8::encode`: `len as u8`, then the bytes. -/
def PayloadU8.encode (body : List UInt8) : List UInt8 :=
  UInt8.ofNat body.length :: body

/-- `PayloadU8::read`. -/
def PayloadU8.read : Bytes.Reader (List UInt8) :=
  Bytes.readPrefixed 1

/-- `PayloadU16::encode`: `len as u16`, then the bytes. -/
def PayloadU16.encode (body : List UInt8) : List UInt8 :=
  encodeU16 (UInt16.ofNat body.length) ++ body

/-- `PayloadU16::read`. -/
def PayloadU16.read : Bytes.Reader (List UInt8) :=
  Bytes.readPrefixed 2

/-- `u32::encode`. -/
def encodeU32 (v : UInt32) : List UInt8 :=
  Bytes.be 4 v.toNat

/-- `u64::encode`. -/
def encodeU64 (v : UInt64) : List UInt8 :=
  Bytes.be 8 v.toNat

/-- `u8::read`: one byte, when there is one. -/
def readU8 : Bytes.Reader UInt8
  | b :: rest => some (b, rest)
  | [] => none

/-- `u16::read`: two bytes, big-endian. -/
def readU16 : Bytes.Reader UInt16 := fun input =>
  (Bytes.readBe 2 input).map fun (n, rest) => (UInt16.ofNat n, rest)

/-- `u32::read`: four bytes, big-endian. -/
def readU32 : Bytes.Reader UInt32 := fun input =>
  (Bytes.readBe 4 input).map fun (n, rest) => (UInt32.ofNat n, rest)

/-- `u64::read`: eight bytes, big-endian. -/
def readU64 : Bytes.Reader UInt64 := fun input =>
  (Bytes.readBe 8 input).map fun (n, rest) => (UInt64.ofNat n, rest)

/-- `Codec::read_bytes`: a value read from the whole input, and
`expect_empty` on what is left. -/
def readBytes {α : Type} (read : Bytes.Reader α) (bytes : List UInt8) : Option α :=
  (read bytes).bind fun (x, rest) => if rest = [] then some x else none

/-- `Vec<T>::encode`: the elements in one `LengthPrefixedBuffer` of the
element type's `SIZE_LEN`. -/
def encodeVec {α : Type} (sizeLen : ListLength) (write : α → List UInt8) (xs : List α) : List UInt8 :=
  lengthPrefixedBuffer sizeLen (xs.flatMap write)

/-- `Vec<T>::read` for a `U8` or `U16` prefix: the length, a sub-reader over
that many bytes, and elements until it is used up. -/
def readVec {α : Type} (sizeLen : ListLength) (read : Bytes.Reader α) : Bytes.Reader (List α) :=
  Bytes.readList sizeLen.width read

/-- `PSKKeyExchangeMode::encode`. -/
def PskKeyExchangeMode.toU8 : PskKeyExchangeMode → UInt8
  | .pskKe => 0x00
  | .pskDheKe => 0x01

/-- `Vec<ProtocolName>::encode`: each name a `PayloadU8`, in a `U16` list. -/
def encodeProtocolNames (names : List (List UInt8)) : List UInt8 :=
  encodeVec .u16 PayloadU8.encode names

/-- `Vec<ProtocolName>::read`. -/
def readProtocolNames : Bytes.Reader (List (List UInt8)) :=
  readVec .u16 PayloadU8.read

/-- `ClientExtension::Protocols(names)`, an extension the model keeps by its
type and encoded body. -/
def ClientExtension.protocols (names : List (List UInt8)) : ClientExtension :=
  .unknown .alProtocolNegotiation (encodeProtocolNames names)

/-- `ClientExtension::encode`: the type, then the body in a `U16`
`LengthPrefixedBuffer`. -/
def ClientExtension.encode (ext : ClientExtension) : List UInt8 :=
  encodeU16 ext.extType.value ++ lengthPrefixedBuffer .u16
    (match ext with
      | .keyShare entries =>
        encodeVec .u16 (fun e => encodeU16 e.group.value ++ PayloadU16.encode e.payload) entries
      | .presharedKeyModes modes => encodeVec .u8 (fun m => [m.toU8]) modes
      | .presharedKey offer =>
        encodeVec .u16 (fun i => PayloadU16.encode i.identity ++ Bytes.be 4 i.obfuscatedTicketAge.toNat)
            offer.identities ++
          encodeVec .u16 PayloadU8.encode offer.binders
      | .earlyData => []
      | .certificateCompressionAlgorithms algs => encodeVec .u8 encodeU16 algs
      | .encryptedClientHello payload => payload
      | .unknown _ payload => payload)

/-- `ClientExtension::read` of an ALPN extension: the type, the body behind a
`u16` length, the protocol names in it, and `expect_empty` on what is left of
the body. -/
def readProtocolsExtension : Bytes.Reader (List (List UInt8)) := fun input =>
  (Bytes.takeExact 2 input).bind fun (typ, rest) =>
    if Bytes.value typ = ExtensionType.alProtocolNegotiation.value.toNat then
      (Bytes.readPrefixed 2 rest).bind fun (body, rest) =>
        match readProtocolNames body with
        | some (names, []) => some (names, rest)
        | _ => none
    else none

/-! ### What reads back -/

theorem PayloadU8.encode_eq_prefixed (body : List UInt8) : PayloadU8.encode body = Bytes.prefixed 1 body := by
  have hbyte : UInt8.ofNat (body.length % 256) = UInt8.ofNat body.length := by
    apply UInt8.toNat_inj.mp
    simp
  simp only [PayloadU8.encode, Bytes.prefixed, Bytes.be, hbyte, List.nil_append, List.singleton_append]

/-- A `PayloadU8` of at most 255 bytes reads back, whatever follows it. -/
theorem PayloadU8.read_encode {body : List UInt8} (h : body.length < 256) (rest : List UInt8) :
    PayloadU8.read (PayloadU8.encode body ++ rest) = some (body, rest) := by
  rw [PayloadU8.read, encode_eq_prefixed]
  exact Bytes.readPrefixed_prefixed_of_lt (by simpa using h) rest

theorem PayloadU16.encode_eq_prefixed (body : List UInt8) :
    PayloadU16.encode body = Bytes.prefixed 2 body := by
  have hpow : (2 : Nat) ^ 16 = 256 ^ 2 := by norm_num
  rw [PayloadU16.encode, encodeU16, UInt16.toNat_ofNat', hpow, Bytes.be_mod, Bytes.prefixed]

/-- A `PayloadU16` of at most 65535 bytes reads back, whatever follows it. -/
theorem PayloadU16.read_encode {body : List UInt8} (h : body.length < 2 ^ 16) (rest : List UInt8) :
    PayloadU16.read (PayloadU16.encode body ++ rest) = some (body, rest) := by
  rw [PayloadU16.read, encode_eq_prefixed]
  exact Bytes.readPrefixed_prefixed_of_lt (by simpa using h) rest

theorem readU8_cons (b : UInt8) (rest : List UInt8) : readU8 (b :: rest) = some (b, rest) := rfl

theorem readU16_encodeU16 (v : UInt16) (rest : List UInt8) :
    readU16 (encodeU16 v ++ rest) = some (v, rest) := by
  have hlt : v.toNat < 256 ^ 2 := v.toNat_lt
  rw [readU16, encodeU16, Bytes.readBe_be hlt, Option.map_some]
  dsimp only
  rw [UInt16.ofNat_toNat]

theorem readU32_encodeU32 (v : UInt32) (rest : List UInt8) :
    readU32 (encodeU32 v ++ rest) = some (v, rest) := by
  have hlt : v.toNat < 256 ^ 4 := v.toNat_lt
  rw [readU32, encodeU32, Bytes.readBe_be hlt, Option.map_some]
  dsimp only
  rw [UInt32.ofNat_toNat]

theorem readU64_encodeU64 (v : UInt64) (rest : List UInt8) :
    readU64 (encodeU64 v ++ rest) = some (v, rest) := by
  have hlt : v.toNat < 256 ^ 8 := v.toNat_lt
  rw [readU64, encodeU64, Bytes.readBe_be hlt, Option.map_some]
  dsimp only
  rw [UInt64.ofNat_toNat]

/-- A reader that takes the whole input reads it with `read_bytes`. -/
theorem readBytes_of_read {α : Type} {read : Bytes.Reader α} {bytes : List UInt8} {x : α}
    (h : read bytes = some (x, [])) : readBytes read bytes = some x := by
  rw [readBytes, h, Option.bind_some]
  rfl

theorem read_of_readBytes {α : Type} {read : Bytes.Reader α} {bytes : List UInt8} {x : α}
    (h : readBytes read bytes = some x) : read bytes = some (x, []) := by
  unfold readBytes at h
  cases hread : read bytes with
  | none => rw [hread] at h; cases h
  | some r =>
    obtain ⟨y, rest⟩ := r
    rw [hread, Option.bind_some] at h
    dsimp only at h
    split at h
    · cases h
      subst rest
      rfl
    · cases h

theorem encodeVec_u16 {α : Type} (write : α → List UInt8) (xs : List α) :
    encodeVec .u16 write xs = PayloadU16.encode (xs.flatMap write) := by
  rw [PayloadU16.encode_eq_prefixed]
  rfl

theorem encodeVec_u8 {α : Type} (write : α → List UInt8) (xs : List α) :
    encodeVec .u8 write xs = PayloadU8.encode (xs.flatMap write) := by
  rw [PayloadU8.encode_eq_prefixed]
  rfl

theorem length_flatMap_encodeU16 {α : Type} (value : α → UInt16) (xs : List α) :
    (xs.flatMap fun x => encodeU16 (value x)).length = 2 * xs.length := by
  induction xs with
  | nil => rfl
  | cons x xs ih =>
    rw [List.flatMap_cons, List.length_append, ih, encodeU16, Bytes.length_be, List.length_cons]
    omega

/-- Protocol names of at most 255 bytes each, 65535 in all with their
prefixes, read back. -/
theorem readProtocolNames_encodeProtocolNames {names : List (List UInt8)} (hname : ∀ n ∈ names, n.length < 256)
    (hfit : (names.flatMap PayloadU8.encode).length < 2 ^ 16) (rest : List UInt8) :
    readProtocolNames (encodeProtocolNames names ++ rest) = some (names, rest) := by
  -- the element law holds for the names in the list only, so read the list element by element
  have hread : ∀ n ∈ names, ∀ rest, PayloadU8.read (PayloadU8.encode n ++ rest) = some (n, rest) :=
    fun n hn rest => PayloadU8.read_encode (hname n hn) rest
  have hpos : ∀ n ∈ names, 0 < (PayloadU8.encode n).length := fun n _ => by
    rw [PayloadU8.encode, List.length_cons]
    omega
  have hwidth : (256 : Nat) ^ ListLength.u16.width = 2 ^ 16 := rfl
  exact Bytes.readList_prefixedList hread hpos (by rw [hwidth]; simpa using hfit) rest

/-- Every protocol name read has at most 255 bytes. -/
theorem length_lt_of_readProtocolNames {input rest : List UInt8} {names : List (List UInt8)}
    (h : readProtocolNames input = some (names, rest)) : ∀ n ∈ names, n.length < 256 :=
  Bytes.forall_mem_readList (fun _ _ _ hn => Bytes.length_lt_of_readPrefixed hn) h

/-- **The ALPN extension reads back** when each protocol name has at most
255 bytes and the extension's body fits its 16-bit length. -/
theorem readProtocolsExtension_encode {names : List (List UInt8)} (hname : ∀ n ∈ names, n.length < 256)
    (hfit : (names.flatMap PayloadU8.encode).length + 2 < 2 ^ 16) (rest : List UInt8) :
    readProtocolsExtension ((ClientExtension.protocols names).encode ++ rest) = some (names, rest) := by
  have hbody : (encodeProtocolNames names).length < 256 ^ 2 := by
    rw [encodeProtocolNames, encodeVec, lengthPrefixedBuffer, Bytes.length_prefixed]
    simp only [ListLength.width]
    omega
  have hnames := readProtocolNames_encodeProtocolNames hname (by omega) []
  rw [List.append_nil] at hnames
  simp only [ClientExtension.encode, ClientExtension.protocols, ClientExtension.extType, lengthPrefixedBuffer,
    ListLength.width, List.append_assoc]
  rw [readProtocolsExtension, encodeU16, Bytes.takeExact_append (Bytes.length_be 2 _), Option.bind_some]
  dsimp only
  rw [Bytes.value_be, if_pos (Nat.mod_eq_of_lt (by decide)), Bytes.readPrefixed_prefixed_of_lt hbody,
    Option.bind_some]
  dsimp only
  rw [hnames]

theorem readProtocolsExtension_encode_h2 :
    (∀ n ∈ [Bytes.ascii "h2"], n.length < 256) ∧
      ([Bytes.ascii "h2"].flatMap PayloadU8.encode).length + 2 < 2 ^ 16 ∧
      readProtocolsExtension ((ClientExtension.protocols [Bytes.ascii "h2"]).encode ++ []) =
        some ([Bytes.ascii "h2"], []) :=
  ⟨by decide, by decide, readProtocolsExtension_encode (by decide) (by decide) []⟩

/-- One protocol name of 256 bytes: its `PayloadU8` length is written as 0,
and the extension does not read back. -/
theorem alpn_name_of_256_bytes_unreadable :
    (ClientExtension.protocols [List.replicate 256 0x61]).encode.take 7 = [0x00, 0x10, 0x01, 0x03, 0x01, 0x01, 0x00] ∧
      readProtocolsExtension (ClientExtension.protocols [List.replicate 256 0x61]).encode = none := by
  set_option maxRecDepth 8000 in decide

end Rustls
