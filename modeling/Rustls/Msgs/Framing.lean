import Rustls.Msgs.Message

/-!
Streams of records: `DeframerIter` of `msgs/deframer/mod.rs` over many
records at once.

A connection hands `DeframerIter` whatever bytes have arrived: some whole
records, then the start of the next one, cut anywhere, also inside its header
or inside its length field.  The iterator must give back each whole record as
it was encoded, and then `None` for the cut one: `None` asks for more bytes,
while an error ends the connection.

The records are any the reader takes: a named content type, a version
`0x03XX`, a payload shorter than `MAX_PAYLOAD` and not empty unless it is
application data.  The version is the two bytes on the wire: the value
`ProtocolVersion::Unknown(0x0303)` is encoded as `TLSv1_2` is, and read back
as `TLSv1_2`, so the reader's message is compared with `asRead`.

`Yields it ms it'` says that calling `next` on `it` gives the messages `ms`
one after another and leaves the iterator at `it'`.  `next` is a function, so
what it yields from a buffer is determined, and `it'.next = none` says that
the next call asks for more bytes rather than failing.
-/

namespace Rustls

namespace OutboundOpaqueMessage

/-- What the header of a record must satisfy for `read_opaque_message_header`
to take it. -/
structure Framable (m : OutboundOpaqueMessage) : Prop where
  typ_named : ∀ x, m.typ ≠ .unknown x
  version_tls : m.version.toU16 &&& 0xff00 = 0x0300
  length_lt : m.payload.length < maxPayload
  nonempty : m.typ ≠ .applicationData → m.payload ≠ []

/-- The record as the reader gives it back, its version read from its wire
value. -/
def asRead (m : OutboundOpaqueMessage) : InboundOpaqueMessage :=
  ⟨m.typ, ProtocolVersion.ofU16 m.version.toU16, m.payload⟩

/-- The five bytes of `PrefixedPayload`'s prefix that `encode` fills in. -/
def header (m : OutboundOpaqueMessage) : List UInt8 :=
  [m.typ.toU8] ++ m.version.toArray ++ Bytes.be 2 m.payload.length

theorem encode_eq_header_append (m : OutboundOpaqueMessage) :
    m.encode = m.header ++ m.payload := rfl

@[simp] theorem length_header (m : OutboundOpaqueMessage) : m.header.length = headerSize := by
  simp [header, headerSize]

end OutboundOpaqueMessage

open OutboundOpaqueMessage

/-- Every `0x03XX` value passes the version check, named or not. -/
theorem versionAccepted_ofU16 {x : UInt16} (hx : x &&& 0xff00 = 0x0300) :
    versionAccepted (ProtocolVersion.ofU16 x) = true := by
  have hround := ProtocolVersion.toU16_ofU16 x
  cases hv : ProtocolVersion.ofU16 x with
  | unknown v =>
    rw [hv] at hround
    have hvx : v = x := hround
    rw [versionAccepted, hvx, hx]
    rfl
  | _ => rfl

/-- The header fields as the reader decodes them from the wire. -/
private theorem header_fields {m : OutboundOpaqueMessage} (h : m.Framable) :
    ∃ t v₁ v₂ l₁ l₂, m.header = [t, v₁, v₂, l₁, l₂] ∧ ContentType.ofU8 t = m.typ ∧
      ProtocolVersion.ofU16 (UInt16.ofNat (Bytes.value [v₁, v₂])) =
        ProtocolVersion.ofU16 m.version.toU16 ∧
      Bytes.value [l₁, l₂] = m.payload.length := by
  obtain ⟨v₁, v₂, hv⟩ : ∃ v₁ v₂, m.version.toArray = [v₁, v₂] :=
    List.length_eq_two.mp (ProtocolVersion.length_toArray _)
  obtain ⟨l₁, l₂, hl⟩ : ∃ l₁ l₂, Bytes.be 2 m.payload.length = [l₁, l₂] :=
    List.length_eq_two.mp (Bytes.length_be _ _)
  refine ⟨m.typ.toU8, v₁, v₂, l₁, l₂, ?_, ContentType.isCanonical_of_ne_unknown h.typ_named, ?_, ?_⟩
  · simp [header, hv, hl]
  · have hlt : m.version.toU16.toNat < 256 ^ 2 := lt_of_lt_of_eq (UInt16.toNat_lt _) (by norm_num)
    rw [← hv, ProtocolVersion.toArray, Bytes.value_be, Nat.mod_eq_of_lt hlt, UInt16.ofNat_toNat]
  · rw [← hl, Bytes.value_be]
    exact Nat.mod_eq_of_lt (lt_trans h.length_lt (by decide))

/-- The reader takes the header of a framable record, whatever follows it. -/
theorem readOpaqueMessageHeader_header {m : OutboundOpaqueMessage} (h : m.Framable)
    (rest : List UInt8) :
    readOpaqueMessageHeader (m.header ++ rest) =
      .ok (m.typ, ProtocolVersion.ofU16 m.version.toU16, m.payload.length, rest) := by
  obtain ⟨t, v₁, v₂, l₁, l₂, hhead, htyp, hver, hlen⟩ := header_fields h
  have hempty : ¬ (m.typ ≠ .applicationData ∧ m.payload.length = 0) := by
    rintro ⟨hne, hzero⟩
    exact h.nonempty hne (List.length_eq_zero_iff.mp hzero)
  have hlarge : ¬ m.payload.length ≥ maxPayload := Nat.not_le.mpr h.length_lt
  rw [hhead]
  simp only [List.cons_append, List.nil_append, readOpaqueMessageHeader]
  split
  · rename_i x hx
    exact absurd (htyp.symm.trans hx) (h.typ_named x)
  · rw [htyp, hver, versionAccepted_ofU16 h.version_tls, hlen]
    simp only [Bool.not_true, Bool.false_eq_true, if_false, hempty, hlarge]

/-- A cut inside the header is too short for a header. -/
theorem readOpaqueMessageHeader_take_header {m : OutboundOpaqueMessage} (h : m.Framable)
    {n : Nat} (hn : n < headerSize) :
    readOpaqueMessageHeader (m.header.take n) = .error .tooShortForHeader := by
  obtain ⟨t, v₁, v₂, l₁, l₂, hhead, htyp, hver, -⟩ := header_fields h
  have htyp' : ∀ x, ContentType.ofU8 t ≠ .unknown x := fun x hx => h.typ_named x (htyp ▸ hx)
  rw [hhead]
  -- past the type byte, the only check that can fail is the version, which passes
  have hversion : versionAccepted (ProtocolVersion.ofU16 (UInt16.ofNat (Bytes.value [v₁, v₂]))) =
      true := by
    rw [hver]
    exact versionAccepted_ofU16 h.version_tls
  simp only [headerSize] at hn
  -- the equations of `readOpaqueMessageHeader` past a named type byte take `htyp'`,
  -- which `simp` finds in the context
  interval_cases n <;>
    simp only [List.take_succ_cons, List.take_zero, readOpaqueMessageHeader, hversion,
      Bool.not_true, Bool.false_eq_true, if_false]

/-- The next record, whole at the front of the buffer, is read back. -/
theorem next_encode_append {m : OutboundOpaqueMessage} (h : m.Framable) (rest : List UInt8)
    (consumed : Nat) :
    DeframerIter.next ⟨m.encode ++ rest, consumed⟩ =
      some (.ok (m.asRead, ⟨rest, consumed + m.encode.length⟩)) := by
  have hread := readOpaqueMessageHeader_header h (m.payload ++ rest)
  have hlen : m.encode.length = headerSize + m.payload.length := length_encode m
  have htake : (m.encode ++ rest).take (headerSize + m.payload.length) = m.encode := by
    rw [← hlen, List.take_left]
  have hdrop : (m.encode ++ rest).drop (headerSize + m.payload.length) = rest := by
    rw [← hlen, List.drop_left]
  have hpayload : m.encode.drop headerSize = m.payload := by
    rw [encode_eq_header_append, ← length_header m, List.drop_left]
  rw [encode_eq_header_append, List.append_assoc]
  simp only [DeframerIter.next, hread]
  rw [← List.append_assoc, ← encode_eq_header_append, hlen, if_neg (by simp), htake,
    hdrop, hpayload]
  rfl

/-- A cut inside the payload asks for more bytes. -/
theorem next_header_append_of_lt {m : OutboundOpaqueMessage} (h : m.Framable)
    {part : List UInt8} (hpart : part.length < m.payload.length) (consumed : Nat) :
    DeframerIter.next ⟨m.header ++ part, consumed⟩ = none := by
  have hread := readOpaqueMessageHeader_header h part
  simp only [DeframerIter.next, hread]
  rw [if_pos (by simp; omega)]

/-- **A record cut anywhere is waited for, never refused.** -/
theorem next_take_encode {m : OutboundOpaqueMessage} (h : m.Framable) {n : Nat}
    (hn : n < m.encode.length) (consumed : Nat) :
    DeframerIter.next ⟨m.encode.take n, consumed⟩ = none := by
  rw [encode_eq_header_append]
  by_cases hhead : n < headerSize
  · have htake : (m.header ++ m.payload).take n = m.header.take n :=
      List.take_append_of_le_length (by simp; omega)
    simp only [DeframerIter.next, htake, readOpaqueMessageHeader_take_header h hhead]
  · obtain ⟨j, rfl⟩ : ∃ j, n = headerSize + j := ⟨n - headerSize, by omega⟩
    have hj : j < m.payload.length := by
      rw [length_encode] at hn
      omega
    rw [← length_header m, List.take_length_add_append]
    apply next_header_append_of_lt h
    rw [List.length_take]
    omega

/-! ### Runs of the iterator -/

/-- `DeframerIter` yields the messages `ms` one after another from `it`, and
is then at `it'`. -/
inductive DeframerIter.Yields : DeframerIter → List InboundOpaqueMessage → DeframerIter → Prop
  | nil (it : DeframerIter) : Yields it [] it
  | cons {it it' it'' : DeframerIter} {m : InboundOpaqueMessage} {ms : List InboundOpaqueMessage} :
      it.next = some (.ok (m, it')) → Yields it' ms it'' → Yields it (m :: ms) it''

/-- Whole records at the front of the buffer are read back one by one, and
the iterator is left at what follows them. -/
theorem yields_flatMap_encode {msgs : List OutboundOpaqueMessage} (h : ∀ m ∈ msgs, m.Framable)
    (rest : List UInt8) (consumed : Nat) :
    DeframerIter.Yields ⟨msgs.flatMap encode ++ rest, consumed⟩ (msgs.map asRead)
      ⟨rest, consumed + (msgs.flatMap encode).length⟩ := by
  induction msgs generalizing consumed with
  | nil => exact .nil _
  | cons m ms ih =>
    have hm : m.Framable := h m List.mem_cons_self
    have hms : ∀ m ∈ ms, m.Framable := fun m' hm' => h m' (List.mem_cons_of_mem _ hm')
    have hconsumed : consumed + m.encode.length + (ms.flatMap encode).length =
        consumed + (m.encode ++ ms.flatMap encode).length := by
      rw [List.length_append, Nat.add_assoc]
    rw [List.flatMap_cons, List.map_cons, List.append_assoc, ← hconsumed]
    exact .cons (next_encode_append hm _ _) (ih hms _)

/-- A buffer cut inside the records yields the records wholly before the cut,
and then asks for more bytes. -/
theorem yields_take_flatMap_encode {msgs : List OutboundOpaqueMessage}
    (h : ∀ m ∈ msgs, m.Framable) {n : Nat} (hn : n < (msgs.flatMap encode).length)
    (consumed : Nat) :
    ∃ k it', ((msgs.take k).flatMap encode).length ≤ n ∧
      n < ((msgs.take (k + 1)).flatMap encode).length ∧
      DeframerIter.Yields ⟨(msgs.flatMap encode).take n, consumed⟩ ((msgs.take k).map asRead) it' ∧
      it'.consumed = consumed + ((msgs.take k).flatMap encode).length ∧ it'.next = none := by
  induction msgs generalizing n consumed with
  | nil => simp at hn
  | cons m ms ih =>
    have hm : m.Framable := h m List.mem_cons_self
    have hms : ∀ m ∈ ms, m.Framable := fun m' hm' => h m' (List.mem_cons_of_mem _ hm')
    rw [List.flatMap_cons] at hn ⊢
    by_cases hcut : n < m.encode.length
    · -- the cut is inside the first record: nothing is yielded
      refine ⟨0, ⟨m.encode.take n, consumed⟩, by simp, by simpa using hcut, ?_, by simp, ?_⟩
      · rw [List.take_append_of_le_length (Nat.le_of_lt hcut)]
        exact .nil _
      · exact next_take_encode hm hcut consumed
    · -- the first record is whole: it is yielded, and the rest is cut as before
      have hn' : n - m.encode.length < (ms.flatMap encode).length := by
        rw [List.length_append] at hn
        omega
      obtain ⟨k, it', hle, hlt, hyields, hconsumed, hnext⟩ :=
        ih hms hn' (consumed + m.encode.length)
      have htake : (m.encode ++ ms.flatMap encode).take n =
          m.encode ++ (ms.flatMap encode).take (n - m.encode.length) := by
        conv_lhs => rw [show n = m.encode.length + (n - m.encode.length) by omega]
        rw [List.take_length_add_append]
      refine ⟨k + 1, it', ?_, ?_, ?_, ?_, hnext⟩
      · simp only [List.take_succ_cons, List.flatMap_cons, List.length_append]
        omega
      · simp only [List.take_succ_cons, List.flatMap_cons, List.length_append]
        omega
      · rw [htake, List.take_succ_cons, List.map_cons]
        exact .cons (next_encode_append hm _ _) hyields
      · rw [hconsumed, List.take_succ_cons, List.flatMap_cons, List.length_append, Nat.add_assoc]

/-- **Record framing round-trips.**  Over the encodings of any records the
reader takes, `DeframerIter` yields exactly those records, in order, with the
bytes consumed equal to the whole length, and then asks for more; over any
proper prefix it yields exactly the records wholly inside the prefix, with
the bytes consumed equal to their length, and then asks for more. -/
theorem deframerIter_round_trip {msgs : List OutboundOpaqueMessage}
    (h : ∀ m ∈ msgs, m.Framable) :
    (∃ it', DeframerIter.Yields (.new (msgs.flatMap encode)) (msgs.map asRead) it' ∧
      it'.consumed = (msgs.flatMap encode).length ∧ it'.next = none) ∧
    ∀ n < (msgs.flatMap encode).length,
      ∃ k it', ((msgs.take k).flatMap encode).length ≤ n ∧
        n < ((msgs.take (k + 1)).flatMap encode).length ∧
        DeframerIter.Yields (.new ((msgs.flatMap encode).take n)) ((msgs.take k).map asRead) it' ∧
        it'.consumed = ((msgs.take k).flatMap encode).length ∧ it'.next = none := by
  constructor
  · have hall := yields_flatMap_encode h [] 0
    rw [List.append_nil, Nat.zero_add] at hall
    exact ⟨_, hall, rfl, rfl⟩
  · intro n hn
    obtain ⟨k, it', hle, hlt, hyields, hconsumed, hnext⟩ := yields_take_flatMap_encode h hn 0
    rw [Nat.zero_add] at hconsumed
    exact ⟨k, it', hle, hlt, hyields, hconsumed, hnext⟩

/-- A handshake record followed by an empty application-data record. -/
theorem deframerIter_round_trip_two_records :
    let msgs : List OutboundOpaqueMessage :=
      [⟨.handshake, .tlsv1_2, [1, 0, 0, 0]⟩, ⟨.applicationData, .tlsv1_2, []⟩]
    (∀ m ∈ msgs, m.Framable) ∧
    (∃ it', DeframerIter.Yields (.new (msgs.flatMap encode)) (msgs.map asRead) it' ∧
      it'.consumed = (msgs.flatMap encode).length ∧ it'.next = none) ∧
    ∀ n < (msgs.flatMap encode).length,
      ∃ k it', ((msgs.take k).flatMap encode).length ≤ n ∧
        n < ((msgs.take (k + 1)).flatMap encode).length ∧
        DeframerIter.Yields (.new ((msgs.flatMap encode).take n)) ((msgs.take k).map asRead) it' ∧
        it'.consumed = ((msgs.take k).flatMap encode).length ∧ it'.next = none := by
  intro msgs
  have h : ∀ m ∈ msgs, m.Framable := by
    intro m hm
    simp only [msgs, List.mem_cons, List.not_mem_nil, or_false] at hm
    rcases hm with rfl | rfl
    · exact ⟨fun x hx => (by cases hx), (by decide), (by decide), fun _ => List.cons_ne_nil _ _⟩
    · exact ⟨fun x hx => (by cases hx), (by decide), (by decide), fun hne => absurd rfl hne⟩
  exact ⟨h, deframerIter_round_trip h⟩

end Rustls
