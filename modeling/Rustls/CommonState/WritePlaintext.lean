import Rustls.CommonState.Send
import Rustls.Crypto.Ring.RoundTrip

/-!
The unbuffered write path: what `write_plaintext` and
`eager_send_close_notify` of `common_state.rs` do to the caller's
`outgoing_tls` buffer.

Both first ask `check_required_size` whether the queued records and the new
ones fit, with each new record's length predicted by the encrypter's
`encrypted_payload_len`, and only then copy into the buffer with
`outgoing_tls[written..written + len]`, which panics past its end.  The copies
stay inside the buffer because the prediction is exact: the encrypter seals
exactly `encrypted_payload_len(n)` bytes of payload, as the ring encrypters
do.  The sequence numbers the new records will use are checked before any is
sealed, one offset per fragment, so the `assert!` of `encrypt_outgoing` holds
in `write_fragments` as well.

What the check does not cover is what happens before it.
`eager_send_close_notify` seals and queues its close_notify first, and
`write_plaintext` moves a pending key_update into `sendable_tls` first: when
the buffer is then too small, the error leaves `outgoing_tls` as it was, but
not `write_seq` or `sendable_tls`.  The alert stays queued, and the next call
with room writes it.
-/

namespace Rustls

namespace MessageFragmenter

/-- `Chunker` cuts an `n`-byte payload into `⌈n / limit⌉` pieces, given the
fuel to run to its end. -/
theorem length_chunks {limit : Nat} (hpos : 0 < limit) :
    ∀ (fuel : Nat) (payload : List UInt8), payload.length ≤ fuel →
      (chunks limit fuel payload).length = (payload.length + limit - 1) / limit := by
  intro fuel
  induction fuel with
  | zero =>
    intro payload h
    have hnil : payload.length = 0 := by omega
    rw [chunks, List.length_nil, hnil, Nat.zero_add, Nat.div_eq_of_lt (by omega)]
  | succ fuel ih =>
    intro payload h
    by_cases hempty : payload.isEmpty
    · have hnil : payload.length = 0 := by
        rw [List.isEmpty_iff] at hempty
        rw [hempty, List.length_nil]
      rw [chunks, if_pos hempty, List.length_nil, hnil, Nat.zero_add, Nat.div_eq_of_lt (by omega)]
    · have hlen : 0 < payload.length := by
        rw [List.isEmpty_iff] at hempty
        exact List.length_pos_of_ne_nil hempty
      rw [chunks, if_neg hempty, List.length_cons, ih _ (by rw [List.length_drop]; omega),
        List.length_drop]
      by_cases hle : payload.length ≤ limit
      · -- the whole payload is one piece, and the rest is empty
        have hzero : payload.length - limit = 0 := by omega
        have hone : (payload.length + limit - 1) / limit = 1 :=
          Nat.div_eq_of_lt_le (by omega) (by omega)
        rw [hzero, Nat.zero_add, Nat.div_eq_of_lt (by omega), hone]
      · have hsplit : payload.length + limit - 1 = (payload.length - limit + limit - 1) + limit := by
          omega
        rw [hsplit, Nat.add_div_right _ hpos]

/-- The loop of `write_plaintext` runs over as many offsets as there are
fragments. -/
theorem length_fragmentPayload (f : MessageFragmenter) (typ : ContentType) (version : ProtocolVersion)
    (payload : List UInt8) :
    (f.fragmentPayload typ version payload).length = f.fragmentCount payload.length := by
  rw [fragmentPayload, List.length_map, length_chunks f.maxFrag_pos _ _ (le_refl _), fragmentCount]

/-- A payload that is not empty is at least one fragment. -/
theorem fragmentCount_pos (f : MessageFragmenter) {n : Nat} (hn : 0 < n) : 0 < f.fragmentCount n := by
  have hpos := f.maxFrag_pos
  exact Nat.div_pos (by omega) hpos

end MessageFragmenter

namespace SendState

/-! ### Copies into the buffer -/

/-- A copy at the end of what is written so far, with room for it. -/
theorem copyInto_append {pre rest bytes : List UInt8} (h : bytes.length ≤ rest.length) :
    copyInto (pre ++ rest) pre.length bytes = some (pre ++ bytes ++ rest.drop bytes.length) := by
  have hfit : pre.length + bytes.length ≤ (pre ++ rest).length := by
    rw [List.length_append]
    omega
  rw [copyInto, if_pos hfit, List.take_left' rfl, List.drop_append, List.drop_eq_nil_of_le (by omega),
    List.nil_append, Nat.add_sub_cancel_left]

/-- The first loop of `write_fragments` copies the queued records in order,
when they fit. -/
theorem drainInto_append (queued : List (List UInt8)) :
    ∀ (pre rest : List UInt8), queued.flatten.length ≤ rest.length →
      drainInto queued (pre ++ rest) pre.length =
        some (pre ++ queued.flatten ++ rest.drop queued.flatten.length,
          pre.length + queued.flatten.length) := by
  induction queued with
  | nil =>
    intro pre rest _
    simp [drainInto]
  | cons message queued ih =>
    intro pre rest h
    rw [List.flatten_cons, List.length_append] at h
    rw [drainInto, copyInto_append (by omega)]
    dsimp only
    rw [← List.length_append, ih (pre ++ message) (rest.drop message.length)
      (by rw [List.length_drop]; omega)]
    simp only [List.flatten_cons, List.length_append, List.drop_drop, List.append_assoc, Nat.add_assoc]

/-! ### Sealing into the buffer -/

section Sealing

variable {Enc Dec : Type}
  {encrypt : Enc → OutboundPlainMessage → UInt64 → Except Error OutboundOpaqueMessage}
  {encryptedPayloadLen : Enc → Nat → Nat}
  (hok : ∀ k m seq, ∃ em, encrypt k m seq = .ok em)
  (hlen : ∀ k m seq em, encrypt k m seq = .ok em →
    em.payload.length = encryptedPayloadLen k m.payload.length)

include hok hlen in
/-- The second loop of `write_fragments` seals each fragment and copies it in,
each record exactly as long as `encoded_len` predicted, when the predicted
lengths fit and the sequence numbers stay below the hard limit. -/
theorem encryptInto_append (fragments : List OutboundPlainMessage) :
    ∀ (s : SendState Enc Dec) (pre rest : List UInt8), s.recordLayer.writeSeqMax ≤ seqSoftLimit →
      s.recordLayer.writeSeq.toNat + fragments.length ≤ seqHardLimit.toNat →
      (fragments.map (s.encodedLen encryptedPayloadLen)).sum ≤ rest.length →
      ∃ sealedBytes s', s.encryptInto encrypt fragments (pre ++ rest) pre.length =
          some (pre ++ sealedBytes ++ rest.drop sealedBytes.length, pre.length + sealedBytes.length, s') ∧
        sealedBytes.length = (fragments.map (s.encodedLen encryptedPayloadLen)).sum := by
  induction fragments with
  | nil =>
    intro s pre rest _ _ _
    refine ⟨[], s, ?_, rfl⟩
    simp [encryptInto]
  | cons m fragments ih =>
    intro s pre rest hmax hroom hfit
    rw [List.length_cons] at hroom
    rw [List.map_cons, List.sum_cons] at hfit
    have hlt : s.recordLayer.writeSeq < seqHardLimit := by
      rw [UInt64.lt_iff_toNat_lt]
      omega
    have hnr := (RecordLayer.nextPreEncryptAction_ne_refuse_iff hmax).mpr hlt
    obtain ⟨em, hem⟩ := hok s.recordLayer.messageEncrypter m s.recordLayer.writeSeq
    have hlenem : em.encode.length = s.encodedLen encryptedPayloadLen m := by
      rw [length_encode, hlen _ _ _ _ hem]
      rfl
    let s₁ : SendState Enc Dec :=
      { s with recordLayer := { s.recordLayer with writeSeq := s.recordLayer.writeSeq + 1 },
               sealed := s.sealed ++ [⟨s.installations, s.recordLayer.writeSeq, m.typ⟩] }
    have hout : s.encryptOutgoing encrypt m = some (em, s₁) := encryptOutgoing_eq_some.mpr ⟨hnr, hem, rfl⟩
    have hseq₁ : s₁.recordLayer.writeSeq.toNat = s.recordLayer.writeSeq.toNat + 1 := by
      have hsucc := lt_add_one_of_lt_seqHardLimit hlt
      rw [UInt64.lt_iff_toNat_lt] at hsucc
      show (s.recordLayer.writeSeq + 1).toNat = _
      rw [UInt64.toNat_add, UInt64.toNat_one] at hsucc ⊢
      omega
    have hfit₁ : (fragments.map (s₁.encodedLen encryptedPayloadLen)).sum ≤
        (rest.drop em.encode.length).length := by
      show (fragments.map (s.encodedLen encryptedPayloadLen)).sum ≤ _
      rw [List.length_drop]
      omega
    obtain ⟨sealedBytes, s', hinto, hsealed⟩ :=
      ih s₁ (pre ++ em.encode) (rest.drop em.encode.length) hmax (by omega) hfit₁
    refine ⟨em.encode ++ sealedBytes, s', ?_, ?_⟩
    · rw [encryptInto, hout]
      dsimp only
      rw [copyInto_append (by omega)]
      dsimp only
      rw [← List.length_append, hinto]
      simp only [List.append_assoc, List.length_append, List.drop_drop, Nat.add_assoc]
    · rw [List.map_cons, List.sum_cons, List.length_append, hlenem, hsealed]
      rfl

end Sealing

/-! ### The checks before the copies -/

section Checks

variable {Enc Dec : Type}
  {encrypt : Enc → OutboundPlainMessage → UInt64 → Except Error OutboundOpaqueMessage}
  (hok : ∀ k m seq, ∃ em, encrypt k m seq = .ok em)

/-- `required_size` of `check_required_size`: the bytes queued, and each
fragment once sealed and encoded. -/
def requiredSize (encryptedPayloadLen : Enc → Nat → Nat) (s : SendState Enc Dec)
    (fragments : List OutboundPlainMessage) : Nat :=
  s.sendableTls.len + (fragments.map (s.encodedLen encryptedPayloadLen)).sum

theorem checkRequiredSize_eq (encryptedPayloadLen : Enc → Nat → Nat) (s : SendState Enc Dec)
    (outgoingTlsLen : Nat) (fragments : List OutboundPlainMessage) :
    s.checkRequiredSize encryptedPayloadLen outgoingTlsLen fragments =
      if s.requiredSize encryptedPayloadLen fragments > outgoingTlsLen then
        .error (.insufficientSize (s.requiredSize encryptedPayloadLen fragments))
      else .ok () :=
  rfl

/-- Without encryption the close_notify is queued as it is. -/
theorem sendCloseNotify_of_not_encrypting {s : SendState Enc Dec} (hsent : s.sentFatalAlert = false)
    (henc : s.recordLayer.isEncrypting = false) :
    s.sendCloseNotify encrypt =
      some ((({ s with sentFatalAlert := true } : SendState Enc Dec).messageFragmenter.fragmentPayload
        .alert .tlsv1_2 (buildAlert .warning .closeNotify).payload).foldl
          (fun s f => s.queueTlsMessage f.toUnencryptedOpaque) { s with sentFatalAlert := true }) := by
  rw [SendState.sendCloseNotify, if_neg (by simp [hsent]), SendState.sendWarningAlertNoLog,
    SendState.sendMsg]
  simp only [henc, Bool.not_false, if_true]
  rfl

include hok in
/-- `send_close_notify` panics only at the `assert!` of `encrypt_outgoing`,
which a sequence number below the hard limit passes. -/
theorem sendCloseNotify_ne_none {s : SendState Enc Dec} (hmax : s.recordLayer.writeSeqMax ≤ seqSoftLimit)
    (hlt : s.recordLayer.writeSeq < seqHardLimit) : s.sendCloseNotify encrypt ≠ none := by
  cases hsent : s.sentFatalAlert with
  | true =>
    rw [SendState.sendCloseNotify, if_pos hsent]
    exact Option.some_ne_none _
  | false =>
    cases henc : s.recordLayer.isEncrypting with
    | true =>
      obtain ⟨em, hem⟩ := hok s.recordLayer.messageEncrypter (buildAlert .warning .closeNotify)
        s.recordLayer.writeSeq
      -- the flag is set before the alert is sealed, and the record layer is the same
      have hqueue := @encryptAndQueue_of_ok Enc Dec encrypt { s with sentFatalAlert := true } _ em
        ((RecordLayer.nextPreEncryptAction_ne_refuse_iff hmax).mpr hlt) hem
      rw [sendCloseNotify_of_encrypting hsent henc, hqueue]
      exact Option.some_ne_none _
    | false =>
      rw [sendCloseNotify_of_not_encrypting hsent henc]
      exact Option.some_ne_none _

include hok in
/-- **The loop over the offsets** never panics, and either lets every offset
through, having at most marked a key update as due, or stops with
`EncryptExhausted`: refused, or after the close_notify TLS 1.2 sends at a
sequence number `RefreshOrClose` has shown to be below the hard limit. -/
theorem checkFragments_outcome (fs : List Nat) :
    ∀ {s : SendState Enc Dec}, s.recordLayer.writeSeqMax ≤ seqSoftLimit →
      (∃ pending, s.checkFragments encrypt fs = some (.ok (), { s with refreshTrafficKeysPending := pending }) ∧
          ∀ f ∈ fs, s.recordLayer.preEncryptAction (UInt64.ofNat f) ≠ .refuse) ∨
        ∃ s', s.checkFragments encrypt fs = some (.error .encryptExhausted, s') := by
  induction fs with
  | nil =>
    intro s _
    exact Or.inl ⟨s.refreshTrafficKeysPending, rfl, fun f hf => absurd hf List.not_mem_nil⟩
  | cons f fs ih =>
    intro s hmax
    rw [checkFragments]
    cases haction : s.recordLayer.preEncryptAction (UInt64.ofNat f) with
    | nothing =>
      simp only
      rcases ih hmax with ⟨pending, hcheck, hrest⟩ | hexhausted
      · refine Or.inl ⟨pending, hcheck, List.forall_mem_cons.mpr ⟨?_, hrest⟩⟩
        rw [haction]
        exact PreEncryptAction.noConfusion
      · exact Or.inr hexhausted
    | refreshOrClose =>
      by_cases hv : s.negotiatedVersion = some .tlsv1_3
      · -- TLS 1.3 marks a key update as due and goes on from that state
        simp only [if_pos hv]
        rcases ih (s := { s with refreshTrafficKeysPending := true }) hmax with
          ⟨pending, hcheck, hrest⟩ | hexhausted
        · refine Or.inl ⟨pending, hcheck, List.forall_mem_cons.mpr ⟨?_, hrest⟩⟩
          rw [haction]
          exact PreEncryptAction.noConfusion
        · exact Or.inr hexhausted
      · -- TLS 1.2 closes instead, and reports the error
        simp only [if_neg hv]
        have hlt := RecordLayer.writeSeq_lt_of_preEncryptAction_eq hmax haction
        obtain ⟨s₁, hclose⟩ := Option.ne_none_iff_exists'.mp (sendCloseNotify_ne_none hok hmax hlt)
        rw [hclose, Option.map_some]
        exact Or.inr ⟨s₁, rfl⟩
    | refuse =>
      exact Or.inr ⟨s, rfl⟩

end Checks

/-! ### What the write path returns -/

section Outcomes

variable {Enc Dec : Type}
  {encrypt : Enc → OutboundPlainMessage → UInt64 → Except Error OutboundOpaqueMessage}
  {encryptedPayloadLen : Enc → Nat → Nat}
  (hok : ∀ k m seq, ∃ em, encrypt k m seq = .ok em)
  (hlen : ∀ k m seq em, encrypt k m seq = .ok em →
    em.payload.length = encryptedPayloadLen k m.payload.length)

@[simp] theorem recordLayer_perhapsWriteKeyUpdate (s : SendState Enc Dec) :
    s.perhapsWriteKeyUpdate.recordLayer = s.recordLayer := by
  rw [perhapsWriteKeyUpdate_eq]

theorem requiredSize_nil (s : SendState Enc Dec) : s.requiredSize encryptedPayloadLen [] = s.sendableTls.len := by
  rw [requiredSize, List.map_nil, List.sum_nil, Nat.add_zero]

/-- The results of the size check and of the copies after it, from the state
`s` the check looks at, for the records `fragments` and a buffer `out`. -/
inductive WriteOutcome (encryptedPayloadLen : Enc → Nat → Nat) (s : SendState Enc Dec)
    (fragments : List OutboundPlainMessage) (out : List UInt8) :
    Except EncryptError Nat × List UInt8 × SendState Enc Dec → Prop
  /-- The queued records and then each fragment sealed, over the front of the
  buffer: as many bytes as the check predicted, which fit. -/
  | written (sealedBytes : List UInt8) (s' : SendState Enc Dec)
      (hsealed : sealedBytes.length = (fragments.map (s.encodedLen encryptedPayloadLen)).sum)
      (hfit : s.requiredSize encryptedPayloadLen fragments ≤ out.length) :
      WriteOutcome encryptedPayloadLen s fragments out
        (.ok (s.requiredSize encryptedPayloadLen fragments),
          s.sendableTls.chunks.flatten ++ sealedBytes ++ out.drop (s.requiredSize encryptedPayloadLen fragments),
          s')
  /-- A buffer too small for the prediction: the buffer, and the state the
  check looked at, are returned as they are. -/
  | insufficientSize (hsmall : out.length < s.requiredSize encryptedPayloadLen fragments) :
      WriteOutcome encryptedPayloadLen s fragments out
        (.error (.insufficientSize (s.requiredSize encryptedPayloadLen fragments)), out, s)

/-- Neither outcome changes the length of the buffer: nothing is written past
its end. -/
theorem WriteOutcome.length_eq {s : SendState Enc Dec} {fragments : List OutboundPlainMessage}
    {out : List UInt8} {r : Except EncryptError Nat × List UInt8 × SendState Enc Dec}
    (h : WriteOutcome encryptedPayloadLen s fragments out r) : r.2.1.length = out.length := by
  cases h with
  | written sealedBytes s' hsealed hfit =>
    have hqueued := s.sendableTls.length_flatten_chunks
    rw [requiredSize] at hfit ⊢
    simp only [List.length_append, List.length_drop, hqueued, hsealed]
    omega
  | insufficientSize hsmall => rfl

include hok hlen in
/-- `write_fragments` after a size check that passed: the queued records, then
the sealed fragments, exactly the predicted number of bytes. -/
theorem writeFragments_of_fit {s : SendState Enc Dec} {fragments : List OutboundPlainMessage}
    {out : List UInt8} (hmax : s.recordLayer.writeSeqMax ≤ seqSoftLimit)
    (hseq : s.recordLayer.writeSeq.toNat + fragments.length ≤ seqHardLimit.toNat)
    (hfit : s.requiredSize encryptedPayloadLen fragments ≤ out.length) :
    ∃ sealedBytes s', s.writeFragments encrypt out fragments =
        some (s.requiredSize encryptedPayloadLen fragments,
          s.sendableTls.chunks.flatten ++ sealedBytes ++ out.drop (s.requiredSize encryptedPayloadLen fragments),
          s') ∧
      sealedBytes.length = (fragments.map (s.encodedLen encryptedPayloadLen)).sum := by
  have hqueued := s.sendableTls.length_flatten_chunks
  rw [requiredSize] at hfit ⊢
  have hdrain := drainInto_append s.sendableTls.chunks [] out (by omega)
  rw [List.nil_append, List.length_nil, List.nil_append, Nat.zero_add] at hdrain
  -- the fragments are sealed from the state with `sendable_tls` drained
  obtain ⟨sealedBytes, s', hinto, hsealed⟩ := encryptInto_append hok hlen fragments
    { s with sendableTls := { s.sendableTls with chunks := [] } } s.sendableTls.chunks.flatten
    (out.drop s.sendableTls.chunks.flatten.length) hmax hseq
    (by
      show (fragments.map (s.encodedLen encryptedPayloadLen)).sum ≤ _
      rw [List.length_drop]
      omega)
  refine ⟨sealedBytes, s', ?_, hsealed⟩
  rw [writeFragments, hdrain]
  dsimp only
  rw [hinto, Option.map_some, List.drop_drop, hqueued, hsealed]
  rfl

/-- `write_fragments` with no fragments drains what is queued. -/
theorem writeFragments_nil {s : SendState Enc Dec} {out : List UInt8} (hfit : s.sendableTls.len ≤ out.length) :
    s.writeFragments encrypt out [] =
      some (s.sendableTls.len, s.sendableTls.chunks.flatten ++ out.drop s.sendableTls.len,
        { s with sendableTls := { s.sendableTls with chunks := [] } }) := by
  have hqueued := s.sendableTls.length_flatten_chunks
  have hdrain := drainInto_append s.sendableTls.chunks [] out (by omega)
  rw [List.nil_append, List.length_nil, List.nil_append, Nat.zero_add, hqueued] at hdrain
  rw [writeFragments, hdrain]
  rfl

include hok hlen in
/-- **`write_plaintext`.**  A payload that is not empty is refused with
`EncryptExhausted`, the buffer untouched, or reaches the size check from the
state with at most a key update marked as due and the pending key_update
queued; from there it is one of the two outcomes of the check. -/
theorem writePlaintext_outcome {s : SendState Enc Dec} (hmax : s.recordLayer.writeSeqMax ≤ seqSoftLimit)
    {payload : List UInt8} (hne : payload ≠ []) (out : List UInt8) :
    ∃ r, s.writePlaintext encrypt encryptedPayloadLen payload out = some r ∧
      ((∃ pending, WriteOutcome encryptedPayloadLen
          ({ s with refreshTrafficKeysPending := pending } : SendState Enc Dec).perhapsWriteKeyUpdate
          (s.messageFragmenter.fragmentPayload .applicationData .tlsv1_2 payload) out r) ∨
        r.1 = .error .encryptExhausted ∧ r.2.1 = out) := by
  have hempty : payload.isEmpty = false := List.isEmpty_eq_false_iff.mpr hne
  have hcount := s.messageFragmenter.fragmentCount_pos (List.length_pos_of_ne_nil hne)
  unfold writePlaintext
  simp only [hempty, Bool.false_eq_true, if_false]
  rcases checkFragments_outcome hok (List.range (s.messageFragmenter.fragmentCount payload.length)) hmax with
    ⟨pending, hcheck, hchecked⟩ | ⟨s₁, hcheck⟩
  · rw [hcheck]
    -- every offset passed, so the fragments' sequence numbers stay below the hard limit
    have hseq : s.recordLayer.writeSeq.toNat +
        (s.messageFragmenter.fragmentPayload .applicationData .tlsv1_2 payload).length ≤
          seqHardLimit.toNat := by
      rw [MessageFragmenter.length_fragmentPayload]
      exact RecordLayer.add_le_seqHardLimit_of_forall hmax hcount
        (fun f hf => hchecked f (List.mem_range.mpr hf))
    simp only
    rw [checkRequiredSize_eq]
    -- the state the size check looks at has the record layer of `s`
    have hrl : ({ s with refreshTrafficKeysPending := pending } : SendState Enc Dec).perhapsWriteKeyUpdate.recordLayer =
        s.recordLayer := recordLayer_perhapsWriteKeyUpdate _
    rw [← hrl] at hmax hseq
    by_cases hfit : (({ s with refreshTrafficKeysPending := pending } : SendState Enc Dec).perhapsWriteKeyUpdate).requiredSize
        encryptedPayloadLen (s.messageFragmenter.fragmentPayload .applicationData .tlsv1_2 payload) ≤ out.length
    · obtain ⟨sealedBytes, s', hwrite, hsealed⟩ := writeFragments_of_fit hok hlen hmax hseq hfit
      rw [if_neg (Nat.not_lt.mpr hfit)]
      simp only [hwrite, Option.map_some]
      exact ⟨_, rfl, Or.inl ⟨pending, WriteOutcome.written sealedBytes s' hsealed hfit⟩⟩
    · rw [if_pos (Nat.lt_of_not_le hfit)]
      exact ⟨_, rfl, Or.inl ⟨pending, WriteOutcome.insufficientSize (Nat.lt_of_not_le hfit)⟩⟩
  · rw [hcheck]
    exact ⟨_, rfl, Or.inr ⟨rfl, rfl⟩⟩

/-- **`eager_send_close_notify`.**  The close_notify is sent first; the size
check and the copies then start from the state it leaves. -/
theorem eagerSendCloseNotify_outcome {s s₁ : SendState Enc Dec} (hclose : s.sendCloseNotify encrypt = some s₁)
    (out : List UInt8) :
    ∃ r, s.eagerSendCloseNotify encrypt encryptedPayloadLen out = some r ∧
      WriteOutcome encryptedPayloadLen s₁ [] out r := by
  unfold eagerSendCloseNotify
  rw [hclose]
  dsimp only
  rw [checkRequiredSize_eq]
  by_cases hfit : s₁.requiredSize encryptedPayloadLen [] ≤ out.length
  · have hw := WriteOutcome.written [] { s₁ with sendableTls := { s₁.sendableTls with chunks := [] } }
      (by rw [List.map_nil, List.sum_nil, List.length_nil]) hfit
    rw [requiredSize_nil, List.append_nil] at hw
    rw [requiredSize_nil] at hfit
    rw [if_neg (by rw [requiredSize_nil]; exact Nat.not_lt.mpr hfit), writeFragments_nil hfit,
      Option.map_some]
    exact ⟨_, rfl, hw⟩
  · rw [if_pos (Nat.lt_of_not_le hfit)]
    exact ⟨_, rfl, WriteOutcome.insufficientSize (Nat.lt_of_not_le hfit)⟩

end Outcomes

end SendState

/-! ### The *ring* encrypters -/

/-- The `MessageEncrypter`s of the *ring* provider: TLS 1.3's, and TLS 1.2's
for AES-GCM and ChaCha20-Poly1305, each over an AEAD that keeps its laws. -/
inductive RingMessageEncrypter (K : Type)
  | tls13 (e : Tls13MessageEncrypter K) (hc : e.alg.Correct)
  | gcm (e : GcmMessageEncrypter K) (hc : e.alg.Correct)
  | chaCha20Poly1305 (e : ChaCha20Poly1305MessageEncrypter K) (hc : e.alg.Correct)

namespace RingMessageEncrypter

variable {K : Type}

/-- `MessageEncrypter::encrypt`, which seals in place without failing. -/
def encrypt : RingMessageEncrypter K → OutboundPlainMessage → UInt64 → Except Error OutboundOpaqueMessage
  | .tls13 e _, m, seq => .ok (e.encrypt m seq)
  | .gcm e _, m, seq => .ok (e.encrypt m seq)
  | .chaCha20Poly1305 e _, m, seq => .ok (e.encrypt m seq)

/-- `MessageEncrypter::encrypted_payload_len`. -/
def encryptedPayloadLen : RingMessageEncrypter K → Nat → Nat
  | .tls13 e _, n => e.encryptedPayloadLen n
  | .gcm e _, n => e.encryptedPayloadLen n
  | .chaCha20Poly1305 e _, n => e.encryptedPayloadLen n

theorem encrypt_ok (e : RingMessageEncrypter K) (m : OutboundPlainMessage) (seq : UInt64) :
    ∃ em, e.encrypt m seq = .ok em := by
  cases e <;> exact ⟨_, rfl⟩

/-- Each of the three seals exactly the payload length it predicts. -/
theorem length_encrypt {e : RingMessageEncrypter K} {m : OutboundPlainMessage} {seq : UInt64}
    {em : OutboundOpaqueMessage} (h : e.encrypt m seq = .ok em) :
    em.payload.length = e.encryptedPayloadLen m.payload.length := by
  cases e with
  | tls13 e hc =>
    cases h
    exact Tls13MessageEncrypter.length_encrypt hc m seq
  | gcm e hc =>
    cases h
    exact GcmMessageEncrypter.length_encrypt hc m seq
  | chaCha20Poly1305 e hc =>
    cases h
    exact ChaCha20Poly1305MessageEncrypter.length_encrypt hc m seq

end RingMessageEncrypter

/-- The TLS 1.3 encrypter of the *ring* provider over the marking AEAD, with a
zero IV. -/
def markingTls13 : RingMessageEncrypter Unit :=
  .tls13 ⟨Aead.marking [] [], (), zeroIv⟩ (Aead.marking_correct [] [])

/-- A TLS 1.3 connection that has just installed its traffic encrypter, with
`write_seq_max` at the soft limit, and sealed nothing with it yet. -/
def ringTraffic : SendState (RingMessageEncrypter Unit) Unit :=
  ⟨⟨markingTls13, (), seqSoftLimit, 0, 0, false, .active, .active, none⟩, some .tlsv1_3, true, true, false,
    false, none, ChunkVecBuffer.new (some defaultBufferLimit), MessageFragmenter.default, 1, []⟩

namespace SendState

variable {K Dec : Type}

end SendState

end Rustls
