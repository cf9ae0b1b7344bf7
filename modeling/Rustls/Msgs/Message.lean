import Rustls.Error

/-!
Records on the wire: `msgs/message/{outbound,inbound}.rs` and
`msgs/deframer/mod.rs`.

A record is a five-byte header (content type, protocol version, payload
length) followed by the payload.  `OutboundOpaqueMessage::encode` writes one;
`read_opaque_message_header` and `DeframerIter::next` read one back off the
front of a buffer, telling "not enough bytes yet" (`none`) apart from "this
is not TLS" (`some (error _)`).

Payloads are byte lists.  The five spare bytes `PrefixedPayload` keeps in
front of an outgoing payload, and the in-place borrowing of incoming ones,
are layout only and are not modelled.

The main result here is `next_encode`: a record the encoder writes is read
back as itself, with the rest of the buffer left over, as long as its header
passes the reader's checks.  `decrypt` in the cipher modules starts from
exactly what that lemma returns.
-/

namespace Rustls

/-- `HEADER_SIZE`. -/
def headerSize : Nat := 1 + 2 + 2

/-- `MAX_PAYLOAD`: the largest record payload accepted, plus one. -/
def maxPayload : Nat := 16384 + 2048

/-- `MAX_FRAGMENT_LEN`. -/
def maxFragmentLen : Nat := 16384

/-- `MessageError` of `msgs/message/mod.rs`. -/
inductive MessageError
  | tooShortForHeader
  | tooShortForLength
  | invalidEmptyPayload
  | messageTooLarge
  | invalidContentType
  | unknownProtocolVersion
  deriving DecidableEq, Repr

/-- `OutboundPlainMessage`, with its payload flattened. -/
structure OutboundPlainMessage where
  typ : ContentType
  version : ProtocolVersion
  payload : List UInt8
  deriving DecidableEq, Repr

/-- `OutboundOpaqueMessage`. -/
structure OutboundOpaqueMessage where
  typ : ContentType
  version : ProtocolVersion
  payload : List UInt8
  deriving DecidableEq, Repr

/-- `InboundOpaqueMessage`. -/
structure InboundOpaqueMessage where
  typ : ContentType
  version : ProtocolVersion
  payload : List UInt8
  deriving DecidableEq, Repr

/-- `InboundPlainMessage`. -/
structure InboundPlainMessage where
  typ : ContentType
  version : ProtocolVersion
  payload : List UInt8
  deriving DecidableEq, Repr

/-- `OutboundOpaqueMessage::encode`: the length is cast `as u16`. -/
def OutboundOpaqueMessage.encode (m : OutboundOpaqueMessage) : List UInt8 :=
  [m.typ.toU8] ++ m.version.toArray ++ Bytes.be 2 m.payload.length ++ m.payload

/-- `InboundOpaqueMessage::into_plain_message`. -/
def InboundOpaqueMessage.intoPlainMessage (m : InboundOpaqueMessage) : InboundPlainMessage :=
  ⟨m.typ, m.version, m.payload⟩

/-- The version check of `read_opaque_message_header`: only `0x03XX` among
the unnamed values. -/
def versionAccepted : ProtocolVersion → Bool
  | .unknown v => v &&& 0xff00 == 0x0300
  | _ => true

/-- `read_opaque_message_header`, returning the rest of the buffer.  The type
byte is checked before the version is read. -/
def readOpaqueMessageHeader :
    List UInt8 → Except MessageError (ContentType × ProtocolVersion × Nat × List UInt8)
  | [] => .error .tooShortForHeader
  | t :: r =>
    match ContentType.ofU8 t with
    | .unknown _ => .error .invalidContentType
    | typ =>
      match r with
      | v₁ :: v₂ :: r =>
        let version := ProtocolVersion.ofU16 (UInt16.ofNat (Bytes.value [v₁, v₂]))
        if !versionAccepted version then .error .unknownProtocolVersion
        else
          match r with
          | l₁ :: l₂ :: r =>
            let len := Bytes.value [l₁, l₂]
            if typ ≠ .applicationData ∧ len = 0 then .error .invalidEmptyPayload
            else if len ≥ maxPayload then .error .messageTooLarge
            else .ok (typ, version, len, r)
          | _ => .error .tooShortForHeader
      | _ => .error .tooShortForHeader

/-- `DeframerIter`: the unread buffer and the bytes consumed so far. -/
structure DeframerIter where
  buf : List UInt8
  consumed : Nat
  deriving DecidableEq, Repr

/-- `DeframerIter::new`. -/
def DeframerIter.new (buf : List UInt8) : DeframerIter := ⟨buf, 0⟩

/-- `DeframerIter::next`, returning the advanced iterator with the message. -/
def DeframerIter.next (it : DeframerIter) :
    Option (Except Error (InboundOpaqueMessage × DeframerIter)) :=
  match readOpaqueMessageHeader it.buf with
  | .error .tooShortForHeader | .error .tooShortForLength => none
  | .error .invalidEmptyPayload => some (.error (.invalidMessage .invalidEmptyPayload))
  | .error .messageTooLarge => some (.error (.invalidMessage .messageTooLarge))
  | .error .invalidContentType => some (.error (.invalidMessage .invalidContentType))
  | .error .unknownProtocolVersion => some (.error (.invalidMessage .unknownProtocolVersion))
  | .ok (typ, version, len, _) =>
    let end_ := headerSize + len
    if it.buf.length < end_ then none
    else some (.ok (⟨typ, version, (it.buf.take end_).drop headerSize⟩,
      ⟨it.buf.drop end_, it.consumed + end_⟩))

/-! ### Reading back what was encoded -/

/-- What the header of a record must satisfy for the reader to accept it:
a named content type, a version that reads back as itself and passes the
`0x03XX` check, a length under `MAX_PAYLOAD`, and a payload unless the type
is application data. -/
structure OutboundOpaqueMessage.Readable (m : OutboundOpaqueMessage) : Prop where
  typ_named : ∀ x, m.typ ≠ .unknown x
  version_canonical : m.version.IsCanonical
  version_accepted : versionAccepted m.version = true
  length_lt : m.payload.length < maxPayload
  nonempty : m.typ ≠ .applicationData → m.payload ≠ []

@[simp] theorem length_encode (m : OutboundOpaqueMessage) :
    m.encode.length = headerSize + m.payload.length := by
  simp [OutboundOpaqueMessage.encode, headerSize]
  omega

private theorem value_two (x : Nat) (hx : x < 65536) :
    Bytes.value (Bytes.be 2 x) = x := by
  rw [Bytes.value_be]
  exact Nat.mod_eq_of_lt (by norm_num; omega)

theorem readOpaqueMessageHeader_encode {m : OutboundOpaqueMessage} (h : m.Readable)
    (rest : List UInt8) :
    readOpaqueMessageHeader (m.encode ++ rest) =
      .ok (m.typ, m.version, m.payload.length, m.payload ++ rest) := by
  have htyp : ContentType.ofU8 m.typ.toU8 = m.typ := ContentType.isCanonical_of_ne_unknown h.typ_named
  have hlen : Bytes.value (Bytes.be 2 m.payload.length) = m.payload.length :=
    value_two _ (lt_trans h.length_lt (by decide))
  have hver : ProtocolVersion.ofU16 (UInt16.ofNat (Bytes.value m.version.toArray)) = m.version := by
    rw [ProtocolVersion.toArray, value_two _ (UInt16.toNat_lt _), UInt16.ofNat_toNat]
    exact h.version_canonical
  obtain ⟨v₁, v₂, hv⟩ : ∃ v₁ v₂, m.version.toArray = [v₁, v₂] :=
    List.length_eq_two.mp (ProtocolVersion.length_toArray _)
  obtain ⟨l₁, l₂, hl⟩ : ∃ l₁ l₂, Bytes.be 2 m.payload.length = [l₁, l₂] :=
    List.length_eq_two.mp (Bytes.length_be _ _)
  have hempty : ¬ (m.typ ≠ .applicationData ∧ m.payload.length = 0) := by
    rintro ⟨hne, hzero⟩
    exact h.nonempty hne (List.length_eq_zero_iff.mp hzero)
  have hlarge : ¬ m.payload.length ≥ maxPayload := Nat.not_le.mpr h.length_lt
  rw [hv] at hver
  rw [hl] at hlen
  simp only [OutboundOpaqueMessage.encode, hv, hl, List.cons_append, List.nil_append,
    readOpaqueMessageHeader]
  split
  · rename_i x hx
    exact absurd (htyp.symm.trans hx) (h.typ_named x)
  · rename_i hx
    rw [htyp] at *
    simp only [hver, h.version_accepted, Bool.not_true, hlen, hempty, hlarge]
    rfl

/-- **A readable record is deframed as itself, leaving the rest of the buffer.** -/
theorem next_encode {m : OutboundOpaqueMessage} (h : m.Readable) (rest : List UInt8)
    (consumed : Nat) :
    DeframerIter.next ⟨m.encode ++ rest, consumed⟩ =
      some (.ok (⟨m.typ, m.version, m.payload⟩,
        ⟨rest, consumed + (headerSize + m.payload.length)⟩)) := by
  have hread := readOpaqueMessageHeader_encode h rest
  have htake : (m.encode ++ rest).take (headerSize + m.payload.length) = m.encode := by
    rw [List.take_append_of_le_length (by simp), List.take_of_length_le (by simp)]
  have hdrop : (m.encode ++ rest).drop (headerSize + m.payload.length) = rest :=
    List.drop_left' (by simp)
  have hpayload : m.encode.drop headerSize = m.payload := by
    have hhead : ([m.typ.toU8] ++ m.version.toArray ++ Bytes.be 2 m.payload.length).length =
        headerSize := by simp [headerSize]
    exact List.drop_left' hhead
  simp only [DeframerIter.next, hread, List.length_append, length_encode]
  rw [if_neg (by omega), htake, hdrop, hpayload]

end Rustls
