import Rustls.Conn
import Rustls.Crypto.Ring.RoundTrip

/-!
Reading protected TLS 1.3 records once the handshake is over, and what both
connection APIs do with the records that follow a close_notify.

A record the peer's `Tls13MessageEncrypter` sealed at the sequence number the
connection's decrypter is at is deframed as its inner message, the read side
moves to the next sequence number, and the plaintext overwrites the record's
payload in the buffer: what follows the record is untouched
(`deframe_encrypt`, `drop_overwrite_encrypt`).

RFC 8446 section 6.1, quoted at `process_new_packets`: any data received after
a closure alert must be ignored.  Neither API does so for a record that was
already in the buffer behind the alert.

  * `process_tls_records` consults `has_received_close_notify` only once the
    deframer has no message left.  Its loop processes the record after the
    alert, and returns its plaintext as `ReadTraffic` before it could ever
    return `Closed`.
  * `process_new_packets` stops after the alert and asks to discard the
    alert's record plus the whole buffer.  That is more than the buffer
    holds, so `DeframerVecBuffer::discard` removes nothing, while
    `processed` moves to just after the alert.  The next call deframes the
    record after the alert and appends its plaintext to the received
    plaintext, which `reader()` hands out.

The client's traffic state is `ExpectTraffic` of `client/tls13.rs`; the
results are stated for any state that takes application data into the
received plaintext, which is what every traffic state does.
-/

namespace Rustls

variable {Enc St H K : Type}

/-- `ExpectTraffic::handle` of `client/tls13.rs`.  Application data is taken
into the received plaintext; a NewSessionTicket or a KeyUpdate goes to
`handshake`, which is not modelled further; anything else is refused. -/
def ExpectTraffic.handle {Dec : Type} (handshakeType : H → HandshakeType)
    (handshake : St → H → CommonState Enc Dec → Except Error St × CommonState Enc Dec)
    (state : St) (msg : Message H) (cs : CommonState Enc Dec) :
    Except Error St × CommonState Enc Dec :=
  let refused := inappropriateHandshakeMessage handshakeType msg.payload
    [.applicationData, .handshake] [.newSessionTicket, .keyUpdate]
  match msg.payload with
  | .applicationData payload => (.ok state, cs.takeReceivedPlaintext payload)
  | .handshake parsed _ =>
    if handshakeType parsed = .newSessionTicket ∨ handshakeType parsed = .keyUpdate then
      handshake state parsed cs
    else (.error refused, cs)
  | _ => (.error refused, cs)

/-- `Message::build_alert(AlertLevel::Warning, AlertDescription::CloseNotify)`
as it goes to the encrypter: a warning (1) close_notify (0) alert. -/
def closeNotify : OutboundPlainMessage := ⟨.alert, .tlsv1_2, [1, 0]⟩

/-! ### One protected record -/

/-- What reading the peer's records assumes of a connection: the machine
decrypts with `Tls13MessageDecrypter::decrypt`, the active decrypter holds the
key and IV of the peer's encrypter `enc`, over a correct cipher with ring's
sixteen-byte tag, and no handshake message is pending. -/
structure ReadsFrom (m : ConnectionMachine Enc (Tls13MessageDecrypter K) St H)
    (core : ConnectionCore Enc (Tls13MessageDecrypter K) St) (enc : Tls13MessageEncrypter K) :
    Prop where
  decrypt_eq : ∀ d msg seq, m.decrypt d msg seq = d.decrypt msg seq
  decrypter_eq : core.commonState.recordLayer.messageDecrypter = ⟨enc.alg, enc.encKey, enc.iv⟩
  active : core.commonState.recordLayer.decryptState = .active
  correct : enc.alg.Correct
  tag_len : enc.alg.tagLen = 16
  no_spans : core.hsDeframer.spans = []

section Protected

variable {m : ConnectionMachine Enc (Tls13MessageDecrypter K) St H}
  {enc : Tls13MessageEncrypter K}

/-- The assumptions only look at the decrypter and the pending spans. -/
theorem ReadsFrom.congr {core core' : ConnectionCore Enc (Tls13MessageDecrypter K) St}
    (h : ReadsFrom m core enc)
    (hdec : core'.commonState.recordLayer.messageDecrypter =
      core.commonState.recordLayer.messageDecrypter)
    (hactive : core'.commonState.recordLayer.decryptState =
      core.commonState.recordLayer.decryptState)
    (hspans : core'.hsDeframer.spans = core.hsDeframer.spans) : ReadsFrom m core' enc where
  decrypt_eq := h.decrypt_eq
  decrypter_eq := hdec.trans h.decrypter_eq
  active := hactive.trans h.active
  correct := h.correct
  tag_len := h.tag_len
  no_spans := hspans.trans h.no_spans

variable {core : ConnectionCore Enc (Tls13MessageDecrypter K) St} {msg : OutboundPlainMessage}
  {seq : UInt64}

/-- The record loop takes a sealed record as its inner message. -/
theorem nextRecord_encrypt (h : ReadsFrom m core enc)
    (hseq : core.commonState.recordLayer.readSeq = seq) (hsoft : seq ≠ seqSoftLimit)
    (hcanon : msg.typ.IsCanonical) (hzero : msg.typ.toU8 ≠ 0)
    (hlen : msg.payload.length ≤ maxFragmentLen) (fuel : Nat) (rest : List UInt8)
    (consumed start : Nat) :
    core.nextRecord m (fuel + 1) ⟨(enc.encrypt msg seq).encode ++ rest, consumed⟩ start =
      (some (.ok (⟨msg.typ, .tlsv1_3, msg.payload⟩,
          consumed + (enc.encrypt msg seq).encode.length, start + consumed + headerSize)),
        { core with commonState.recordLayer.readSeq := seq + 1,
                    commonState.recordLayer.hasDecrypted := true }) := by
  obtain ⟨alg, key, iv⟩ := enc
  have hread : (Tls13MessageEncrypter.encrypt ⟨alg, key, iv⟩ msg seq).Readable :=
    readable_encrypt h.correct h.tag_len hlen seq
  have hnext := next_encode hread rest consumed
  have hdec : m.decrypt core.commonState.recordLayer.messageDecrypter
      ⟨.applicationData, .tlsv1_2, (Tls13MessageEncrypter.encrypt ⟨alg, key, iv⟩ msg seq).payload⟩
      core.commonState.recordLayer.readSeq = .ok ⟨msg.typ, .tlsv1_3, msg.payload⟩ := by
    rw [h.decrypt_eq, h.decrypter_eq, hseq]
    exact decrypt_encrypt h.correct hcanon hzero hlen seq _ _
  have hincoming := RecordLayer.decryptIncoming_of_decrypt h.active hdec
  rw [hseq] at hincoming
  -- the outer record is application data: never a plaintext exception
  have htyp : (Tls13MessageEncrypter.encrypt ⟨alg, key, iv⟩ msg seq).typ = .applicationData := rfl
  have hver : (Tls13MessageEncrypter.encrypt ⟨alg, key, iv⟩ msg seq).version = .tlsv1_2 := rfl
  simp only [ConnectionCore.nextRecord, hnext, htyp, hver, hincoming, length_encode]
  simp [hsoft]

theorem processMoreInput_encrypt (h : ReadsFrom m core enc)
    (hseq : core.commonState.recordLayer.readSeq = seq) (hsoft : seq ≠ seqSoftLimit)
    (hcanon : msg.typ.IsCanonical) (hzero : msg.typ.toU8 ≠ 0)
    (hlen : msg.payload.length ≤ maxFragmentLen) (hne : msg.payload ≠ [])
    (htyp : msg.typ ≠ .handshake) (fuel : Nat) {d : Deframing} {rest : List UInt8}
    (hbuf : d.buf.drop d.progress.processed = (enc.encrypt msg seq).encode ++ rest) :
    core.processMoreInput m (fuel + 1) d =
      (.ok (some ⟨msg.typ, .tlsv1_3, msg.payload⟩),
        { core with commonState.recordLayer.readSeq := seq + 1,
                    commonState.recordLayer.hasDecrypted := true,
                    seenConsecutiveEmptyFragments := 0 },
        ⟨overwrite d.buf (d.progress.processed + headerSize) msg.payload,
          (d.progress.addProcessed (enc.encrypt msg seq).encode.length).addDiscard
            (enc.encrypt msg seq).encode.length⟩) := by
  have hnext := nextRecord_encrypt h hseq hsoft hcanon hzero hlen d.buf.length rest 0
    d.progress.processed
  have haligned : HandshakeDeframer.isAligned core.hsDeframer = true := by
    simp [HandshakeDeframer.isAligned, h.no_spans]
  have hempty : msg.payload.isEmpty = false := List.isEmpty_eq_false_iff.mpr hne
  simp only [ConnectionCore.processMoreInput, DeframerIter.new, hbuf, hnext]
  simp [haligned, hempty, htyp]

/-- **A sealed record at the front of what is left is deframed as its inner
message**, decrypted in place, and is to be discarded whole. -/
theorem deframe_encrypt (h : ReadsFrom m core enc)
    (hseq : core.commonState.recordLayer.readSeq = seq) (hsoft : seq ≠ seqSoftLimit)
    (hcanon : msg.typ.IsCanonical) (hzero : msg.typ.toU8 ≠ 0)
    (hlen : msg.payload.length ≤ maxFragmentLen) (hne : msg.payload ≠ [])
    (htyp : msg.typ ≠ .handshake) (buf : List UInt8) (progress : BufferProgress)
    {rest : List UInt8}
    (hbuf : buf.drop progress.processed = (enc.encrypt msg seq).encode ++ rest) :
    core.deframe m ⟨buf, progress⟩ =
      (.ok (some ⟨msg.typ, .tlsv1_3, msg.payload⟩),
        { core with commonState.recordLayer.readSeq := seq + 1,
                    commonState.recordLayer.hasDecrypted := true,
                    seenConsecutiveEmptyFragments := 0 },
        ⟨overwrite buf (progress.processed + headerSize) msg.payload,
          (progress.addProcessed (enc.encrypt msg seq).encode.length).addDiscard
            (enc.encrypt msg seq).encode.length⟩) := by
  have hready : core.hsDeframer.hasMessageReady = false := by
    simp [HandshakeDeframer.hasMessageReady, h.no_spans]
  rw [ConnectionCore.deframe, hready, if_neg Bool.false_ne_true]
  exact processMoreInput_encrypt h hseq hsoft hcanon hzero hlen hne htyp _ hbuf

end Protected

/-- The plaintext of a record decrypted in place ends before the record does:
what follows the record is untouched. -/
theorem drop_overwrite_encrypt {alg : Aead.Cipher K} {key : K} {iv : Iv} (hc : alg.Correct)
    {buf rest : List UInt8} {pos : Nat} {msg : OutboundPlainMessage} {seq : UInt64}
    (hbuf : buf.drop pos = (Tls13MessageEncrypter.encrypt ⟨alg, key, iv⟩ msg seq).encode ++ rest) :
    (overwrite buf (pos + headerSize) msg.payload).drop
        (pos + (Tls13MessageEncrypter.encrypt ⟨alg, key, iv⟩ msg seq).encode.length) = rest := by
  have hsealed := @Tls13MessageEncrypter.length_encrypt _ ⟨alg, key, iv⟩ hc msg seq
  have hlen := congrArg List.length hbuf
  simp only [List.length_drop, List.length_append, length_encode, hsealed,
    Tls13MessageEncrypter.encryptedPayloadLen] at hlen
  have hfit : pos + headerSize + msg.payload.length ≤
      pos + (Tls13MessageEncrypter.encrypt ⟨alg, key, iv⟩ msg seq).encode.length := by
    rw [length_encode, hsealed, Tls13MessageEncrypter.encryptedPayloadLen]
    omega
  rw [drop_overwrite msg.payload (by omega) hfit, ← List.drop_drop, hbuf, List.drop_left]

/-! ### The unbuffered API -/

section Unbuffered

variable {m : ConnectionMachine Enc (Tls13MessageDecrypter K) St H}
  {c : UnbufferedConnectionCommon Enc (Tls13MessageDecrypter K) St}
  {enc : Tls13MessageEncrypter K} {seq : UInt64} {state : St}

/-- One round of `process_tls_records` over a sealed record: it is processed,
and the loop goes on behind it. -/
theorem UnbufferedConnectionCommon.processLoop_encrypt (h : ReadsFrom m c.core enc)
    {msg : OutboundPlainMessage} (hseq : c.core.commonState.recordLayer.readSeq = seq)
    (hsoft : seq ≠ seqSoftLimit) (hcanon : msg.typ.IsCanonical) (hzero : msg.typ.toU8 ≠ 0)
    (hlen : msg.payload.length ≤ maxFragmentLen) (hne : msg.payload ≠ [])
    (htyp : msg.typ ≠ .handshake) {state' : St} (hstate : c.core.state = .ok state)
    (hplain : c.core.commonState.receivedPlaintext.chunks = [])
    (hsend : c.core.commonState.sendableTls = []) {cs : CommonState Enc (Tls13MessageDecrypter K)}
    (hmsg : ConnectionCore.processMsg m
      { c.core.commonState with recordLayer.readSeq := seq + 1, recordLayer.hasDecrypted := true }
      ⟨msg.typ, .tlsv1_3, msg.payload⟩ state = (.ok state', cs))
    (check : UnbufferedConnectionCommon Enc (Tls13MessageDecrypter K) St →
      Option (List UInt8 × UnbufferedConnectionCommon Enc (Tls13MessageDecrypter K) St))
    (hcheck : check c = none) (fuel : Nat) {buf : List UInt8} {discard : Nat} {rest : List UInt8}
    (hbuf : buf.drop discard = (enc.encrypt msg seq).encode ++ rest) :
    ∃ buf', c.processLoop m check (fuel + 1) buf discard BufferProgress.empty =
        processLoop m check
          { c with core := { c.core with commonState := cs, state := .ok state',
                                         seenConsecutiveEmptyFragments := 0 } }
          fuel buf' (discard + (enc.encrypt msg seq).encode.length) BufferProgress.empty ∧
      buf'.drop (discard + (enc.encrypt msg seq).encode.length) = rest := by
  obtain ⟨alg, key, iv⟩ := enc
  have hbuf₀ : (buf.drop discard).drop BufferProgress.empty.processed =
      (Tls13MessageEncrypter.encrypt ⟨alg, key, iv⟩ msg seq).encode ++ rest := hbuf
  have hdeframe := deframe_encrypt h hseq hsoft hcanon hzero hlen hne htyp _ _ hbuf₀
  have hdiscard : discard ≤ buf.length := by
    have hlength := congrArg List.length hbuf
    simp only [List.length_drop, List.length_append, length_encode, headerSize] at hlength
    omega
  refine ⟨buf.take discard ++ overwrite (buf.drop discard) headerSize msg.payload, ?_, ?_⟩
  · rw [processLoop_message m hcheck hplain hsend hdeframe hstate hmsg]
    simp [BufferProgress.empty, BufferProgress.addProcessed, BufferProgress.addDiscard,
      BufferProgress.takeDiscard]
  · -- the caller's discarded prefix is kept, and the record behind it decrypted in place
    have htake : (buf.take discard).length = discard := by simp [hdiscard]
    have hdrop := drop_overwrite_encrypt h.correct hbuf₀
    simp only [BufferProgress.empty, Nat.zero_add] at hdrop
    rw [List.drop_append, List.drop_eq_nil_of_le (by omega), List.nil_append, htake,
      Nat.add_sub_cancel_left, hdrop]

/-- **`process_tls_records` hands out data sent after a close_notify.**  Given
a close_notify and an application data record behind it in one buffer, the
call processes the alert, does not stop, processes the data, and returns it
as `ReadTraffic` with the connection marked closed. -/
theorem UnbufferedConnectionCommon.processTlsRecords_closeNotify_then_data
    (h : ReadsFrom m c.core enc) (hseq : c.core.commonState.recordLayer.readSeq = seq)
    (hsoft : seq ≠ seqSoftLimit) (hsoft' : seq + 1 ≠ seqSoftLimit)
    (hstate : c.core.state = .ok state)
    (hmay : c.core.commonState.mayReceiveApplicationData = true)
    (hplain : c.core.commonState.receivedPlaintext.chunks = [])
    (hsend : c.core.commonState.sendableTls = []) {p : List UInt8}
    (happ : ∀ cs, m.handle state ⟨.tlsv1_3, .applicationData p⟩ cs =
      (.ok state, cs.takeReceivedPlaintext p))
    (hp : p ≠ []) (hplen : p.length ≤ maxFragmentLen) (v : ProtocolVersion) (rest : List UInt8) :
    ∃ c' buf', c.processTlsRecords m ((enc.encrypt closeNotify seq).encode ++
        (enc.encrypt ⟨.applicationData, v, p⟩ (seq + 1)).encode ++ rest) =
      some (⟨(enc.encrypt closeNotify seq).encode.length +
          (enc.encrypt ⟨.applicationData, v, p⟩ (seq + 1)).encode.length, .ok (.readTraffic p)⟩,
        c', buf') ∧
      c'.core.commonState.hasReceivedCloseNotify = true := by
  let close := enc.encrypt closeNotify seq
  let data := enc.encrypt ⟨.applicationData, v, p⟩ (seq + 1)
  let input := close.encode ++ data.encode ++ rest
  -- the first round reads the close_notify, and the loop goes on
  have hclose := ConnectionCore.processMsg_closeNotify m
    { c.core.commonState with recordLayer.readSeq := seq + 1, recordLayer.hasDecrypted := true }
    .tlsv1_3 state hmay
  have hbuf₁ : input.drop 0 = close.encode ++ (data.encode ++ rest) := by
    simp [input, List.append_assoc]
  obtain ⟨buf₁, hloop₁, hrest₁⟩ := processLoop_encrypt h hseq hsoft
    (show closeNotify.typ.IsCanonical from rfl) (by decide) (by decide) (by simp [closeNotify])
    (by decide) hstate hplain hsend hclose (fun _ => none) rfl
    (input.length + c.core.hsDeframer.spans.length) hbuf₁
  -- the second round reads the record after it, and hands its plaintext to the state
  let cs₁ : CommonState Enc (Tls13MessageDecrypter K) :=
    { c.core.commonState with recordLayer.readSeq := seq + 1, recordLayer.hasDecrypted := true,
                              hasReceivedCloseNotify := true }
  let c₁ : UnbufferedConnectionCommon Enc (Tls13MessageDecrypter K) St :=
    { c with core := { c.core with commonState := cs₁, state := .ok state,
                                   seenConsecutiveEmptyFragments := 0 } }
  have h₁ : ReadsFrom m c₁.core enc := h.congr rfl rfl rfl
  have hdata := ConnectionCore.processMsg_applicationData m
    (happ { cs₁ with recordLayer.readSeq := seq + 1 + 1, recordLayer.hasDecrypted := true })
  obtain ⟨n, hn⟩ : ∃ n, input.length + c.core.hsDeframer.spans.length = n + 1 + 1 :=
    ⟨input.length - 2, by simp [input, h.no_spans, headerSize]; omega⟩
  rw [hn] at hloop₁
  obtain ⟨buf₂, hloop₂, -⟩ := processLoop_encrypt h₁ rfl hsoft'
    (show ContentType.applicationData.IsCanonical from rfl)
    (show ContentType.applicationData.toU8 ≠ 0 by decide) hplen hp
    (show ContentType.applicationData ≠ .handshake by decide) rfl
    hplain hsend hdata (fun _ => none) rfl (n + 1) hrest₁
  -- and the third round hands that plaintext to the caller
  have hrun := hloop₁.trans hloop₂
  rw [processTlsRecords, processTlsRecordsCommon, hn, hrun,
    processLoop_readTraffic m rfl (ChunkVecBuffer.pop_append_of_chunks_eq_nil hplain hp),
    Nat.zero_add]
  exact ⟨_, _, rfl, rfl⟩

end Unbuffered

/-! ### The buffered API -/

section Buffered

variable {m : ConnectionMachine Enc (Tls13MessageDecrypter K) St H}
  {c : ConnectionCommon Enc (Tls13MessageDecrypter K) St}
  {enc : Tls13MessageEncrypter K} {seq : UInt64} {state : St}

/-- A call of `process_new_packets` whose first record leaves the connection
closed: the record is processed, and the buffer keeps every byte, with its
processed mark just after that record. -/
theorem ConnectionCommon.processNewPackets_encrypt_closed (h : ReadsFrom m c.core enc)
    {msg : OutboundPlainMessage} (hseq : c.core.commonState.recordLayer.readSeq = seq)
    (hsoft : seq ≠ seqSoftLimit) (hcanon : msg.typ.IsCanonical) (hzero : msg.typ.toU8 ≠ 0)
    (hlen : msg.payload.length ≤ maxFragmentLen) (hne : msg.payload ≠ [])
    (htyp : msg.typ ≠ .handshake) {state' : St} (hstate : c.core.state = .ok state)
    {cs : CommonState Enc (Tls13MessageDecrypter K)}
    (hmsg : ConnectionCore.processMsg m
      { c.core.commonState with recordLayer.readSeq := seq + 1, recordLayer.hasDecrypted := true }
      ⟨msg.typ, .tlsv1_3, msg.payload⟩ state = (.ok state', cs))
    (hclosed : cs.hasReceivedCloseNotify = true) {rest : List UInt8}
    (hbuf : c.deframerBuffer.buf.drop c.deframerBuffer.processed =
      (enc.encrypt msg seq).encode ++ rest) :
    c.processNewPackets m = some (.ok (),
      { c with core := { c.core with commonState := cs, state := .ok state',
                                     seenConsecutiveEmptyFragments := 0 },
               deframerBuffer :=
                 ⟨overwrite c.deframerBuffer.buf (c.deframerBuffer.processed + headerSize) msg.payload,
                   c.deframerBuffer.processed + (enc.encrypt msg seq).encode.length⟩ }) := by
  have hdeframe := deframe_encrypt h hseq hsoft hcanon hzero hlen hne htyp c.deframerBuffer.buf
    ⟨c.deframerBuffer.processed, 0⟩ hbuf
  have hloop := processLoop_closed m
    (c.deframerBuffer.buf.length + c.core.hsDeframer.spans.length) hdeframe hmsg hclosed
  -- the discard asked for is the record and then the whole buffer again
  rw [processNewPackets_of_length_lt m hstate hloop ?_]
  · simp [BufferProgress.addDiscard, BufferProgress.addProcessed]
  · simp [BufferProgress.addDiscard, BufferProgress.addProcessed, headerSize]

/-- **`process_new_packets` leaves data sent after a close_notify for the next
call.**  With a close_notify and an application data record behind it in the
buffer, the first call processes the alert and stops; the second call
processes the data record and appends its plaintext to what `reader()` hands
out. -/
theorem ConnectionCommon.processNewPackets_closeNotify_then_data (h : ReadsFrom m c.core enc)
    (hseq : c.core.commonState.recordLayer.readSeq = seq) (hsoft : seq ≠ seqSoftLimit)
    (hsoft' : seq + 1 ≠ seqSoftLimit) (hstate : c.core.state = .ok state)
    (hmay : c.core.commonState.mayReceiveApplicationData = true)
    (hplain : c.core.commonState.receivedPlaintext.chunks = []) {p : List UInt8}
    (happ : ∀ cs, m.handle state ⟨.tlsv1_3, .applicationData p⟩ cs =
      (.ok state, cs.takeReceivedPlaintext p))
    (hp : p ≠ []) (hplen : p.length ≤ maxFragmentLen) {v : ProtocolVersion}
    (hbuf : c.deframerBuffer = ⟨(enc.encrypt closeNotify seq).encode ++
      (enc.encrypt ⟨.applicationData, v, p⟩ (seq + 1)).encode, 0⟩) :
    ∃ c₁ c₂, c.processNewPackets m = some (.ok (), c₁) ∧
      c₁.core.commonState.hasReceivedCloseNotify = true ∧
      c₁.core.commonState.receivedPlaintext.chunks = [] ∧
      c₁.processNewPackets m = some (.ok (), c₂) ∧
      c₂.core.commonState.receivedPlaintext.chunks = [p] := by
  let close := enc.encrypt closeNotify seq
  let data := enc.encrypt ⟨.applicationData, v, p⟩ (seq + 1)
  have hbuf₁ : c.deframerBuffer.buf.drop c.deframerBuffer.processed =
      close.encode ++ data.encode := by
    rw [hbuf]
    rfl
  -- the first call reads the close_notify and stops there
  have hclose := ConnectionCore.processMsg_closeNotify m
    { c.core.commonState with recordLayer.readSeq := seq + 1, recordLayer.hasDecrypted := true }
    .tlsv1_3 state hmay
  have hcall₁ := processNewPackets_encrypt_closed h hseq hsoft
    (show closeNotify.typ.IsCanonical from rfl) (by decide) (by decide) (by simp [closeNotify])
    (by decide) hstate hclose rfl hbuf₁
  -- but the data record behind it is still buffered, and the second call reads it
  let cs₁ : CommonState Enc (Tls13MessageDecrypter K) :=
    { c.core.commonState with recordLayer.readSeq := seq + 1, recordLayer.hasDecrypted := true,
                              hasReceivedCloseNotify := true }
  let c₁ : ConnectionCommon Enc (Tls13MessageDecrypter K) St :=
    { c with core := { c.core with commonState := cs₁, state := .ok state,
                                   seenConsecutiveEmptyFragments := 0 },
             deframerBuffer :=
               ⟨overwrite c.deframerBuffer.buf (c.deframerBuffer.processed + headerSize) [1, 0],
                 c.deframerBuffer.processed + close.encode.length⟩ }
  have h₁ : ReadsFrom m c₁.core enc := h.congr rfl rfl rfl
  have hbuf₂ : c₁.deframerBuffer.buf.drop c₁.deframerBuffer.processed = data.encode ++ [] := by
    rw [List.append_nil]
    exact drop_overwrite_encrypt h.correct hbuf₁
  have hcall₂ := processNewPackets_encrypt_closed h₁ rfl hsoft'
    (show ContentType.applicationData.IsCanonical from rfl)
    (show ContentType.applicationData.toU8 ≠ 0 by decide) hplen hp
    (show ContentType.applicationData ≠ .handshake by decide) rfl
    (ConnectionCore.processMsg_applicationData m (happ _)) rfl hbuf₂
  refine ⟨c₁, _, hcall₁, rfl, hplain, hcall₂, ?_⟩
  have hplain₁ : c₁.core.commonState.receivedPlaintext.chunks = [] := hplain
  simp [CommonState.takeReceivedPlaintext, ChunkVecBuffer.append, hp, hplain₁]

end Buffered

/-- **Data after a close_notify reaches the application, in both APIs.**  For
a connection in a TLS 1.3 traffic state that takes application data into the
received plaintext, a close_notify followed in the same bytes by an
application data record: `process_tls_records` returns that data as
`ReadTraffic` once the alert has closed the connection, and two calls of
`process_new_packets` append it to the received plaintext. -/
theorem ConnectionCore.data_after_closeNotify_delivered
    {m : ConnectionMachine Enc (Tls13MessageDecrypter K) St H}
    {core : ConnectionCore Enc (Tls13MessageDecrypter K) St} {enc : Tls13MessageEncrypter K}
    (h : ReadsFrom m core enc) {seq : UInt64} (hseq : core.commonState.recordLayer.readSeq = seq)
    (hsoft : seq ≠ seqSoftLimit) (hsoft' : seq + 1 ≠ seqSoftLimit) {state : St}
    (hstate : core.state = .ok state) (hmay : core.commonState.mayReceiveApplicationData = true)
    (hplain : core.commonState.receivedPlaintext.chunks = [])
    (hsend : core.commonState.sendableTls = []) {p : List UInt8}
    (happ : ∀ cs, m.handle state ⟨.tlsv1_3, .applicationData p⟩ cs =
      (.ok state, cs.takeReceivedPlaintext p))
    (hp : p ≠ []) (hplen : p.length ≤ maxFragmentLen) (v : ProtocolVersion) :
    (∀ wantsWrite rest, ∃ c' buf',
      (⟨core, wantsWrite⟩ : UnbufferedConnectionCommon Enc (Tls13MessageDecrypter K) St).processTlsRecords m
          ((enc.encrypt closeNotify seq).encode ++
            (enc.encrypt ⟨.applicationData, v, p⟩ (seq + 1)).encode ++ rest) =
        some (⟨(enc.encrypt closeNotify seq).encode.length +
            (enc.encrypt ⟨.applicationData, v, p⟩ (seq + 1)).encode.length, .ok (.readTraffic p)⟩,
          c', buf') ∧
        c'.core.commonState.hasReceivedCloseNotify = true) ∧
    (∀ hasSeenEof, ∃ c₁ c₂,
      (⟨core, ⟨(enc.encrypt closeNotify seq).encode ++
          (enc.encrypt ⟨.applicationData, v, p⟩ (seq + 1)).encode, 0⟩, hasSeenEof⟩ :
        ConnectionCommon Enc (Tls13MessageDecrypter K) St).processNewPackets m = some (.ok (), c₁) ∧
        c₁.core.commonState.hasReceivedCloseNotify = true ∧
        c₁.core.commonState.receivedPlaintext.chunks = [] ∧
        c₁.processNewPackets m = some (.ok (), c₂) ∧
        c₂.core.commonState.receivedPlaintext.chunks = [p]) :=
  ⟨fun _ rest => UnbufferedConnectionCommon.processTlsRecords_closeNotify_then_data h hseq hsoft
      hsoft' hstate hmay hplain hsend happ hp hplen v rest,
    fun _ => ConnectionCommon.processNewPackets_closeNotify_then_data h hseq hsoft hsoft' hstate
      hmay hplain happ hp hplen rfl⟩

/-! ### A client in its traffic state -/

/-- The peer's encrypter, and the key the client decrypts with. -/
def peerEncrypter : Tls13MessageEncrypter Unit := ⟨Aead.marking [] [], (), zeroIv⟩

/-- A TLS 1.3 client in `ExpectTraffic`, whose tickets and key updates are not
modelled. -/
def trafficClient : ConnectionMachine Unit (Tls13MessageDecrypter Unit) Unit Unit where
  decrypt d msg seq := d.decrypt msg seq
  readHandshake _ _ := .error .invalidContentType
  handshakeType _ := .finished
  handle := ExpectTraffic.handle (fun _ => .finished) fun state _ cs => (.ok state, cs)

/-- The client's core just after its handshake: decrypting with the peer's
key from sequence number 0, nothing received, nothing to send. -/
def trafficCore : ConnectionCore Unit (Tls13MessageDecrypter Unit) Unit :=
  ⟨.ok (), ⟨.client, (RecordLayer.new () ⟨Aead.marking [] [], (), zeroIv⟩).setMessageDecrypter
      ⟨Aead.marking [] [], (), zeroIv⟩, some .tlsv1_3, true, true, true, false, false,
      ChunkVecBuffer.new (some defaultReceivedPlaintextLimit), [], 4, 1, 1⟩,
    HandshakeDeframer.empty, 0⟩

/-- A close_notify, then the three bytes "aft" as application data. -/
def closeThenData : List UInt8 :=
  (peerEncrypter.encrypt closeNotify 0).encode ++
    (peerEncrypter.encrypt ⟨.applicationData, .tlsv1_2, [97, 102, 116]⟩ 1).encode

theorem traffic_client_delivers_data_after_close_notify :
    (∀ wantsWrite rest, ∃ c' buf',
      (⟨trafficCore, wantsWrite⟩ : UnbufferedConnectionCommon _ _ _).processTlsRecords trafficClient
          ((peerEncrypter.encrypt closeNotify 0).encode ++
            (peerEncrypter.encrypt ⟨.applicationData, .tlsv1_2, [97, 102, 116]⟩ (0 + 1)).encode ++
              rest) =
        some (⟨(peerEncrypter.encrypt closeNotify 0).encode.length +
            (peerEncrypter.encrypt ⟨.applicationData, .tlsv1_2, [97, 102, 116]⟩ (0 + 1)).encode.length,
            .ok (.readTraffic [97, 102, 116])⟩, c', buf') ∧
        c'.core.commonState.hasReceivedCloseNotify = true) ∧
    (∀ hasSeenEof, ∃ c₁ c₂,
      (⟨trafficCore, ⟨(peerEncrypter.encrypt closeNotify 0).encode ++
          (peerEncrypter.encrypt ⟨.applicationData, .tlsv1_2, [97, 102, 116]⟩ (0 + 1)).encode, 0⟩,
          hasSeenEof⟩ : ConnectionCommon _ _ _).processNewPackets trafficClient =
          some (.ok (), c₁) ∧
        c₁.core.commonState.hasReceivedCloseNotify = true ∧
        c₁.core.commonState.receivedPlaintext.chunks = [] ∧
        c₁.processNewPackets trafficClient = some (.ok (), c₂) ∧
        c₂.core.commonState.receivedPlaintext.chunks = [[97, 102, 116]]) :=
  ConnectionCore.data_after_closeNotify_delivered
    ⟨fun _ _ _ => rfl, rfl, rfl, Aead.marking_correct [] [], rfl, rfl⟩ rfl (by decide) (by decide)
    rfl rfl rfl rfl (fun _ => rfl) (by decide) (by decide) .tlsv1_2

/-- The bytes the client reads: with the unbuffered API, one call returns the
data after the close_notify; with the buffered API, after `read_tls`, the
second `process_new_packets` puts it in the received plaintext. -/
theorem close_notify_then_data_delivered :
    ((UnbufferedConnectionCommon.processTlsRecords trafficClient ⟨trafficCore, false⟩
        closeThenData).map (·.1)) = some ⟨49, .ok (.readTraffic [97, 102, 116])⟩ ∧
    ((ConnectionCommon.readTls ⟨trafficCore, ⟨[], 0⟩, false⟩ closeThenData).bind fun (_, c) =>
      (c.processNewPackets trafficClient).bind fun (_, c) =>
        (c.processNewPackets trafficClient).map fun (_, c) =>
          c.core.commonState.receivedPlaintext.chunks) = some [[97, 102, 116]] := by
  decide

end Rustls
