import Rustls.RecordLayer
import Rustls.VecBuf

/-!
The send path of `CommonState` in `common_state.rs`: how outgoing messages
are fragmented, encrypted and queued, by the buffered `Writer`
(`PlaintextSink::write` of `conn.rs`), by the unbuffered
`WriteTraffic::encrypt` and `queue_close_notify` of `conn/unbuffered.rs`, and
by the `send_msg` of handshake messages and alerts; with the TLS 1.3 key
updates of `KeyScheduleTraffic` in `tls13/key_schedule.rs`.

The record layer stops an encrypter at its confidentiality limit with one
equality: `pre_encrypt_action` answers `RefreshOrClose` when the sequence
number it is asked about is exactly `write_seq_max`.  `send_single_fragment`
acts on that answer for handshake messages and application data, but alerts
go past it; and on TLS 1.2 what it does is send a close_notify alert, which is
encrypted at `write_seq_max` itself.  From then on the next sequence number is
past the one the equality looks for, and the next application-data record is
encrypted under the same key.  `encrypt_outgoing`'s own `assert!` holds the
hard limit only.

What the record layer encrypts is kept in `sealed`, a history of the run: for
each record, which installation of an encrypter sealed it (installations are
counted in `installations`), at which sequence number, and its content type.
No code reads these two fields.  The cipher's `encrypt` and
`encrypted_payload_len` are arguments, as the trait methods would be; a panic
is `none`.  QUIC connections, whose messages never pass the record layer, are
left out.
-/

namespace Rustls

/-- `PACKET_OVERHEAD`: the record header. -/
def packetOverhead : Nat := 1 + 2 + 2

/-- `MessageFragmenter`, with the bounds `set_max_fragment_size` keeps
`max_frag` in: it is never zero, and an alert always fits one fragment. -/
structure MessageFragmenter where
  maxFrag : Nat
  le_maxFrag : 27 ≤ maxFrag
  maxFrag_le : maxFrag ≤ maxFragmentLen

namespace MessageFragmenter

/-- `MessageFragmenter::default()`. -/
def default : MessageFragmenter :=
  ⟨maxFragmentLen, by decide, Nat.le_refl _⟩

/-- A fragment size from 32 to `MAX_FRAGMENT_SIZE` leaves, less the record
header, a payload size within the fragmenter's bounds. -/
theorem le_sub_packetOverhead {sz : Nat} (h : 32 ≤ sz ∧ sz ≤ maxFragmentLen + packetOverhead) :
    27 ≤ sz - packetOverhead := by
  rw [packetOverhead]
  omega

theorem sub_packetOverhead_le {sz : Nat} (h : 32 ≤ sz ∧ sz ≤ maxFragmentLen + packetOverhead) :
    sz - packetOverhead ≤ maxFragmentLen := by
  omega

/-- `MessageFragmenter::set_max_fragment_size`: a fragment size counts the
record header, and must be from 32 to `MAX_FRAGMENT_SIZE` bytes. -/
def setMaxFragmentSize (maxFragmentSize : Option Nat) : Except Error MessageFragmenter :=
  match maxFragmentSize with
  | some sz =>
    if h : 32 ≤ sz ∧ sz ≤ maxFragmentLen + packetOverhead then
      .ok ⟨sz - packetOverhead, le_sub_packetOverhead h, sub_packetOverhead_le h⟩
    else .error .badMaxFragmentSize
  | none => .ok default

theorem maxFrag_pos (f : MessageFragmenter) : 0 < f.maxFrag :=
  Nat.lt_of_lt_of_le (by decide) f.le_maxFrag

/-- `Chunker`: pieces of `limit` bytes off the front of the payload, until it
is empty.  Each piece takes at least one byte, so `fuel` as large as the
payload's length runs it to the end. -/
def chunks (limit : Nat) : Nat → List UInt8 → List (List UInt8)
  | 0, _ => []
  | fuel + 1, payload =>
    if payload.isEmpty then [] else payload.take limit :: chunks limit fuel (payload.drop limit)

/-- `fragment_payload`. -/
def fragmentPayload (f : MessageFragmenter) (typ : ContentType) (version : ProtocolVersion)
    (payload : List UInt8) : List OutboundPlainMessage :=
  (chunks f.maxFrag payload.length payload).map fun p => ⟨typ, version, p⟩

/-- `ExactSizeIterator::len` of the fragments. -/
def fragmentCount (f : MessageFragmenter) (payloadLen : Nat) : Nat :=
  (payloadLen + f.maxFrag - 1) / f.maxFrag

/-- A payload of at most `limit` bytes, but not empty, is one piece. -/
theorem chunks_of_length_le {limit fuel : Nat} {payload : List UInt8} (hpos : 0 < payload.length)
    (hle : payload.length ≤ limit) : chunks limit (fuel + 1) payload = [payload] := by
  have hne : payload.isEmpty = false := List.isEmpty_eq_false_iff.mpr (List.ne_nil_of_length_pos hpos)
  rw [chunks, hne, if_neg Bool.false_ne_true, List.take_of_length_le hle, List.drop_of_length_le hle]
  cases fuel <;> rfl

/-- A payload that fits one fragment is one fragment. -/
theorem fragmentPayload_of_length_le (f : MessageFragmenter) (typ : ContentType)
    (version : ProtocolVersion) {payload : List UInt8} (hpos : 0 < payload.length)
    (hle : payload.length ≤ f.maxFrag) :
    f.fragmentPayload typ version payload = [⟨typ, version, payload⟩] := by
  obtain ⟨n, hn⟩ : ∃ n, payload.length = n + 1 := ⟨payload.length - 1, by omega⟩
  rw [fragmentPayload, hn, chunks_of_length_le hpos hle]
  rfl

/-- A payload longer than one fragment and at most two is two fragments. -/
theorem fragmentPayload_of_lt_of_le_two_mul (f : MessageFragmenter) (typ : ContentType)
    (version : ProtocolVersion) {payload : List UInt8} (hlt : f.maxFrag < payload.length)
    (hle : payload.length ≤ 2 * f.maxFrag) :
    f.fragmentPayload typ version payload =
      [⟨typ, version, payload.take f.maxFrag⟩, ⟨typ, version, payload.drop f.maxFrag⟩] := by
  have hpos := f.maxFrag_pos
  obtain ⟨n, hn⟩ : ∃ n, payload.length = n + 2 := ⟨payload.length - 2, by omega⟩
  have hne : payload.isEmpty = false :=
    List.isEmpty_eq_false_iff.mpr (List.ne_nil_of_length_pos (by omega))
  have hrest : 0 < (payload.drop f.maxFrag).length := by
    rw [List.length_drop]
    omega
  have hrest' : (payload.drop f.maxFrag).length ≤ f.maxFrag := by
    rw [List.length_drop]
    omega
  rw [fragmentPayload, hn, chunks, hne, if_neg Bool.false_ne_true, chunks_of_length_le hrest hrest']
  rfl

end MessageFragmenter

/-- `Message::build_alert`, as the `PlainMessage` it becomes. -/
def buildAlert (level : AlertLevel) (desc : AlertDescription) : OutboundPlainMessage :=
  ⟨.alert, .tlsv1_2, [level.toU8, desc.toU8]⟩

/-- `Message::build_key_update_notify`, as the `PlainMessage` it becomes:
`key_update(update_not_requested)`. -/
def buildKeyUpdateNotify : OutboundPlainMessage :=
  ⟨.handshake, .tlsv1_3, [0x18, 0, 0, 1, 0]⟩

/-- `Message::build_key_update_request`, as the `PlainMessage` it becomes:
`key_update(update_requested)`. -/
def buildKeyUpdateRequest : OutboundPlainMessage :=
  ⟨.handshake, .tlsv1_3, [0x18, 0, 0, 1, 1]⟩

/-- `OutboundPlainMessage::to_unencrypted_opaque`. -/
def OutboundPlainMessage.toUnencryptedOpaque (m : OutboundPlainMessage) : OutboundOpaqueMessage :=
  ⟨m.typ, m.version, m.payload⟩

/-- `Limit`. -/
inductive Limit
  | yes
  | no
  deriving DecidableEq, Repr

/-- `EncryptError`. -/
inductive EncryptError
  | insufficientSize (requiredSize : Nat)
  | encryptExhausted
  deriving DecidableEq, Repr

/-- A record the record layer encrypted: the installation of the encrypter
that sealed it, its sequence number and its content type. -/
structure SealedRecord where
  installation : Nat
  seq : UInt64
  typ : ContentType
  deriving DecidableEq, Repr

/-- What the send path reads and changes of `CommonState`, with the history of
the records sealed. -/
structure SendState (Enc Dec : Type) where
  recordLayer : RecordLayer Enc Dec
  negotiatedVersion : Option ProtocolVersion
  alignedHandshake : Bool
  maySendApplicationData : Bool
  sentFatalAlert : Bool
  refreshTrafficKeysPending : Bool
  queuedKeyUpdateMessage : Option (List UInt8)
  sendableTls : ChunkVecBuffer
  messageFragmenter : MessageFragmenter
  installations : Nat
  sealed : List SealedRecord

namespace SendState

section Encrypt

variable {Enc Dec : Type}
  (encrypt : Enc → OutboundPlainMessage → UInt64 → Except Error OutboundOpaqueMessage)

/-- `perhaps_write_key_update`. -/
def perhapsWriteKeyUpdate (s : SendState Enc Dec) : SendState Enc Dec :=
  match s.queuedKeyUpdateMessage with
  | some message =>
    { s with queuedKeyUpdateMessage := none, sendableTls := (s.sendableTls.append message).2 }
  | none => s

/-- `queue_tls_message`. -/
def queueTlsMessage (s : SendState Enc Dec) (m : OutboundOpaqueMessage) : SendState Enc Dec :=
  let s := s.perhapsWriteKeyUpdate
  { s with sendableTls := (s.sendableTls.append m.encode).2 }

/-- `RecordLayer::encrypt_outgoing`, with the record it seals added to the
history. -/
def encryptOutgoing (s : SendState Enc Dec) (m : OutboundPlainMessage) :
    Option (OutboundOpaqueMessage × SendState Enc Dec) :=
  match s.recordLayer.encryptOutgoing encrypt m with
  | some (em, rl) =>
    some (em, { s with recordLayer := rl,
                       sealed := s.sealed ++ [⟨s.installations, s.recordLayer.writeSeq, m.typ⟩] })
  | none => none

/-- The end of `send_single_fragment`: encrypt, then queue. -/
def encryptAndQueue (s : SendState Enc Dec) (m : OutboundPlainMessage) :
    Option (SendState Enc Dec) :=
  match s.encryptOutgoing encrypt m with
  | some (em, s) => some (s.queueTlsMessage em)
  | none => none

mutual

/-- `send_single_fragment`. -/
def sendSingleFragment (s : SendState Enc Dec) (m : OutboundPlainMessage) :
    Option (SendState Enc Dec) :=
  if m.typ = .alert then
    -- alerts are never quashed by a `PreEncryptAction`
    s.encryptAndQueue encrypt m
  else
    match s.recordLayer.nextPreEncryptAction with
    | .nothing => s.encryptAndQueue encrypt m
    | .refreshOrClose =>
      if s.negotiatedVersion = some .tlsv1_3 then
        { s with refreshTrafficKeysPending := true }.encryptAndQueue encrypt m
      else sendCloseNotify s
    | .refuse => some s
termination_by if m.typ = .alert then 0 else 5
decreasing_by simp_all

/-- `send_msg_encrypt`: each fragment of `m` through `send_single_fragment`. -/
def sendMsgEncrypt (s : SendState Enc Dec) (m : OutboundPlainMessage) :
    Option (SendState Enc Dec) :=
  (MessageFragmenter.chunks s.messageFragmenter.maxFrag m.payload.length m.payload).foldlM
    (fun s p => sendSingleFragment s ⟨m.typ, m.version, p⟩) s
termination_by if m.typ = .alert then 1 else 6
decreasing_by all_goals split <;> simp_all

/-- `send_msg`, for a message given as its `PlainMessage`. -/
def sendMsg (s : SendState Enc Dec) (m : OutboundPlainMessage) (mustEncrypt : Bool) :
    Option (SendState Enc Dec) :=
  if !mustEncrypt then
    some ((s.messageFragmenter.fragmentPayload m.typ m.version m.payload).foldl
      (fun s f => s.queueTlsMessage f.toUnencryptedOpaque) s)
  else sendMsgEncrypt s m
termination_by if m.typ = .alert then 2 else 7
decreasing_by all_goals split <;> simp_all

/-- `send_warning_alert_no_log`. -/
def sendWarningAlertNoLog (s : SendState Enc Dec) (desc : AlertDescription) :
    Option (SendState Enc Dec) :=
  sendMsg s (buildAlert .warning desc) s.recordLayer.isEncrypting
termination_by 3
decreasing_by simp [buildAlert]

/-- `send_close_notify`: nothing once a close_notify or fatal alert is sent. -/
def sendCloseNotify (s : SendState Enc Dec) : Option (SendState Enc Dec) :=
  if s.sentFatalAlert then some s
  else sendWarningAlertNoLog { s with sentFatalAlert := true } .closeNotify
termination_by 4

end

/-- `send_fatal_alert`: the alert, then the flag; the error is handed back. -/
def sendFatalAlert (s : SendState Enc Dec) (desc : AlertDescription) (err : Error) :
    Option (Error × SendState Enc Dec) :=
  (s.sendMsg encrypt (buildAlert .fatal desc) s.recordLayer.isEncrypting).map fun s =>
    (err, { s with sentFatalAlert := true })

/-- `send_appdata_encrypt`: the fragments of as much of `payload` as the
limit on `sendable_tls` lets in, and how much that was. -/
def sendAppdataEncrypt (s : SendState Enc Dec) (payload : List UInt8) (limit : Limit) :
    Option (Nat × SendState Enc Dec) :=
  let len := match limit with
    | .yes => s.sendableTls.applyLimit payload.length
    | .no => payload.length
  ((s.messageFragmenter.fragmentPayload .applicationData .tlsv1_2 (payload.take len)).foldlM
    (fun s m => sendSingleFragment encrypt s m) s).map fun s => (len, s)

/-- `send_plain_non_buffering`. -/
def sendPlainNonBuffering (s : SendState Enc Dec) (payload : List UInt8) (limit : Limit) :
    Option (Nat × SendState Enc Dec) :=
  if payload.isEmpty then some (0, s) else s.sendAppdataEncrypt encrypt payload limit

/-- `send_plain`: until the handshake lets application data out, it waits in
`sendable_plaintext`. -/
def sendPlain (s : SendState Enc Dec) (payload : List UInt8) (limit : Limit)
    (sendablePlaintext : ChunkVecBuffer) : Option (Nat × SendState Enc Dec × ChunkVecBuffer) :=
  if !s.maySendApplicationData then
    match limit with
    | .yes =>
      let take := sendablePlaintext.applyLimit payload.length
      some (take, s, (sendablePlaintext.append (payload.take take)).2)
    | .no => some (payload.length, s, (sendablePlaintext.append payload).2)
  else (s.sendPlainNonBuffering encrypt payload limit).map fun (len, s) => (len, s, sendablePlaintext)

/-- `buffer_plaintext`. -/
def bufferPlaintext (s : SendState Enc Dec) (payload : List UInt8)
    (sendablePlaintext : ChunkVecBuffer) : Option (Nat × SendState Enc Dec × ChunkVecBuffer) :=
  s.perhapsWriteKeyUpdate.sendPlain encrypt payload .yes sendablePlaintext

/-- The loop of `flush_plaintext`: each waiting chunk goes out as it is. -/
def flushChunks (s : SendState Enc Dec) : List (List UInt8) → Option (SendState Enc Dec)
  | [] => some s
  | buf :: rest =>
    match s.sendPlainNonBuffering encrypt buf .no with
    | some (_, s) => flushChunks s rest
    | none => none

/-- `flush_plaintext`. -/
def flushPlaintext (s : SendState Enc Dec) (sendablePlaintext : ChunkVecBuffer) :
    Option (SendState Enc Dec × ChunkVecBuffer) :=
  if !s.maySendApplicationData then some (s, sendablePlaintext)
  else
    (s.flushChunks encrypt sendablePlaintext.chunks).map fun s =>
      (s, { sendablePlaintext with chunks := [] })

/-- `start_outgoing_traffic`. -/
def startOutgoingTraffic (s : SendState Enc Dec) (sendablePlaintext : Option ChunkVecBuffer) :
    Option (SendState Enc Dec × Option ChunkVecBuffer) :=
  let s := { s with maySendApplicationData := true }
  match sendablePlaintext with
  | some sendablePlaintext => (s.flushPlaintext encrypt sendablePlaintext).map fun (s, b) => (s, some b)
  | none => some (s, none)

/-! ### Installing encrypters and updating keys -/

/-- `RecordLayer::prepare_message_encrypter`, counted as a new installation. -/
def prepareMessageEncrypter (s : SendState Enc Dec) (cipher : Enc) (maxMessages : UInt64) :
    SendState Enc Dec :=
  { s with recordLayer := s.recordLayer.prepareMessageEncrypter cipher maxMessages,
           installations := s.installations + 1 }

/-- `RecordLayer::start_encrypting`. -/
def startEncrypting (s : SendState Enc Dec) : SendState Enc Dec :=
  { s with recordLayer := s.recordLayer.startEncrypting }

/-- `RecordLayer::set_message_encrypter`. -/
def setMessageEncrypter (s : SendState Enc Dec) (cipher : Enc) (maxMessages : UInt64) :
    SendState Enc Dec :=
  (s.prepareMessageEncrypter cipher maxMessages).startEncrypting

/-- `enqueue_key_update_notification`: the notification is encrypted now,
under the key in use, and waits to be queued. -/
def enqueueKeyUpdateNotification (s : SendState Enc Dec) : Option (SendState Enc Dec) :=
  match s.encryptOutgoing encrypt buildKeyUpdateNotify with
  | some (em, s) => some { s with queuedKeyUpdateMessage := some em.encode }
  | none => none

/-- `KeyScheduleTraffic::update_encrypter_and_notify`, with the encrypter of
the next traffic secret and the suite's confidentiality limit. -/
def updateEncrypterAndNotify (s : SendState Enc Dec) (cipher : Enc) (confidentialityLimit : UInt64) :
    Option (SendState Enc Dec) :=
  (s.enqueueKeyUpdateNotification encrypt).map fun s => s.setMessageEncrypter cipher confidentialityLimit

/-- `check_aligned_handshake`. -/
def checkAlignedHandshake (s : SendState Enc Dec) : Option (Except Error Unit × SendState Enc Dec) :=
  if !s.alignedHandshake then
    (s.sendFatalAlert encrypt .unexpectedMessage (.peerMisbehaved .keyEpochWithPendingFragment)).map
      fun (err, s) => (.error err, s)
  else some (.ok (), s)

/-- `KeyScheduleTraffic::request_key_update_and_update_encrypter`: the
request goes out under the key in use, then the next key is installed. -/
def requestKeyUpdateAndUpdateEncrypter (s : SendState Enc Dec) (cipher : Enc)
    (confidentialityLimit : UInt64) : Option (Except Error Unit × SendState Enc Dec) :=
  match s.checkAlignedHandshake encrypt with
  | some (.ok (), s) =>
    (s.sendMsgEncrypt encrypt buildKeyUpdateRequest).map fun s =>
      (.ok (), s.setMessageEncrypter cipher confidentialityLimit)
  | some (.error err, s) => some (.error err, s)
  | none => none

/-- `ConnectionCore::maybe_refresh_traffic_keys`.  `keyUpdate` is what the
connection's state would install: the encrypter of its key schedule's next
traffic secret and the suite's confidentiality limit for a TLS 1.3 traffic
state, and `none` for every other state, whose `send_key_update_request` is
an error.  The outcome of the refresh is dropped. -/
def maybeRefreshTrafficKeys (s : SendState Enc Dec) (keyUpdate : Option (Enc × UInt64)) :
    Option (SendState Enc Dec) :=
  if s.refreshTrafficKeysPending then
    let s := { s with refreshTrafficKeysPending := false }
    match keyUpdate with
    | some (cipher, limit) => (s.requestKeyUpdateAndUpdateEncrypter encrypt cipher limit).map Prod.snd
    | none => some s
  else some s

/-- `PlaintextSink::write` of the buffered `Writer`. -/
def write (s : SendState Enc Dec) (buf : List UInt8) (sendablePlaintext : ChunkVecBuffer)
    (keyUpdate : Option (Enc × UInt64)) : Option (Nat × SendState Enc Dec × ChunkVecBuffer) :=
  match s.bufferPlaintext encrypt buf sendablePlaintext with
  | some (len, s, sendablePlaintext) =>
    (s.maybeRefreshTrafficKeys encrypt keyUpdate).map fun s => (len, s, sendablePlaintext)
  | none => none

/-! ### The unbuffered write path -/

/-- `OutboundPlainMessage::encoded_len`. -/
def encodedLen (encryptedPayloadLen : Enc → Nat → Nat) (s : SendState Enc Dec)
    (m : OutboundPlainMessage) : Nat :=
  headerSize + encryptedPayloadLen s.recordLayer.messageEncrypter m.payload.length

/-- `check_required_size`: what is queued, and each fragment once encoded. -/
def checkRequiredSize (encryptedPayloadLen : Enc → Nat → Nat) (s : SendState Enc Dec)
    (outgoingTlsLen : Nat) (fragments : List OutboundPlainMessage) : Except EncryptError Unit :=
  let requiredSize := s.sendableTls.len + (fragments.map (s.encodedLen encryptedPayloadLen)).sum
  if requiredSize > outgoingTlsLen then .error (.insufficientSize requiredSize) else .ok ()

/-- `outgoing_tls[written..written + len].copy_from_slice(bytes)`; `none` is
the panic of a range past the end of the buffer. -/
def copyInto (out : List UInt8) (written : Nat) (bytes : List UInt8) : Option (List UInt8) :=
  if written + bytes.length ≤ out.length then
    some (out.take written ++ bytes ++ out.drop (written + bytes.length))
  else none

/-- The first loop of `write_fragments`: every queued record, front first. -/
def drainInto : List (List UInt8) → List UInt8 → Nat → Option (List UInt8 × Nat)
  | [], out, written => some (out, written)
  | message :: rest, out, written =>
    match copyInto out written message with
    | some out => drainInto rest out (written + message.length)
    | none => none

/-- The second loop of `write_fragments`: each fragment is encrypted and
copied in. -/
def encryptInto (s : SendState Enc Dec) :
    List OutboundPlainMessage → List UInt8 → Nat → Option (List UInt8 × Nat × SendState Enc Dec)
  | [], out, written => some (out, written, s)
  | m :: rest, out, written =>
    match s.encryptOutgoing encrypt m with
    | some (em, s) =>
      match copyInto out written em.encode with
      | some out => encryptInto s rest out (written + em.encode.length)
      | none => none
    | none => none

/-- `write_fragments`: the bytes written, the buffer after, and the state. -/
def writeFragments (s : SendState Enc Dec) (outgoingTls : List UInt8)
    (fragments : List OutboundPlainMessage) : Option (Nat × List UInt8 × SendState Enc Dec) :=
  match drainInto s.sendableTls.chunks outgoingTls 0 with
  | some (out, written) =>
    (encryptInto encrypt { s with sendableTls := { s.sendableTls with chunks := [] } } fragments out
      written).map fun (out, written, s) => (written, out, s)
  | none => none

/-- The loop of `write_plaintext` over the fragments to come, by their
distance from the next sequence number. -/
def checkFragments (s : SendState Enc Dec) : List Nat → Option (Except EncryptError Unit × SendState Enc Dec)
  | [] => some (.ok (), s)
  | f :: rest =>
    match s.recordLayer.preEncryptAction (UInt64.ofNat f) with
    | .nothing => checkFragments s rest
    | .refreshOrClose =>
      if s.negotiatedVersion = some .tlsv1_3 then
        checkFragments { s with refreshTrafficKeysPending := true } rest
      else (s.sendCloseNotify encrypt).map fun s => (.error .encryptExhausted, s)
    | .refuse => some (.error .encryptExhausted, s)

/-- `write_plaintext`, into an `outgoing_tls` buffer holding `outgoingTls`:
the result, the buffer after, and the state. -/
def writePlaintext (encryptedPayloadLen : Enc → Nat → Nat) (s : SendState Enc Dec)
    (payload : List UInt8) (outgoingTls : List UInt8) :
    Option (Except EncryptError Nat × List UInt8 × SendState Enc Dec) :=
  if payload.isEmpty then some (.ok 0, outgoingTls, s)
  else
    let fragments := s.messageFragmenter.fragmentPayload .applicationData .tlsv1_2 payload
    match s.checkFragments encrypt (List.range (s.messageFragmenter.fragmentCount payload.length)) with
    | some (.ok (), s) =>
      let s := s.perhapsWriteKeyUpdate
      match s.checkRequiredSize encryptedPayloadLen outgoingTls.length fragments with
      | .error e => some (.error e, outgoingTls, s)
      | .ok () => (s.writeFragments encrypt outgoingTls fragments).map fun (n, out, s) => (.ok n, out, s)
    | some (.error e, s) => some (.error e, outgoingTls, s)
    | none => none

/-- `eager_send_close_notify`. -/
def eagerSendCloseNotify (encryptedPayloadLen : Enc → Nat → Nat) (s : SendState Enc Dec)
    (outgoingTls : List UInt8) : Option (Except EncryptError Nat × List UInt8 × SendState Enc Dec) :=
  match s.sendCloseNotify encrypt with
  | some s =>
    match s.checkRequiredSize encryptedPayloadLen outgoingTls.length [] with
    | .error e => some (.error e, outgoingTls, s)
    | .ok () => (s.writeFragments encrypt outgoingTls []).map fun (n, out, s) => (.ok n, out, s)
  | none => none

/-- `WriteTraffic::encrypt`. -/
def writeTrafficEncrypt (encryptedPayloadLen : Enc → Nat → Nat) (s : SendState Enc Dec)
    (applicationData : List UInt8) (outgoingTls : List UInt8) (keyUpdate : Option (Enc × UInt64)) :
    Option (Except EncryptError Nat × List UInt8 × SendState Enc Dec) :=
  (s.maybeRefreshTrafficKeys encrypt keyUpdate).bind fun s =>
    s.writePlaintext encrypt encryptedPayloadLen applicationData outgoingTls

end Encrypt

/-! ### What each step changes -/

section Steps

variable {Enc Dec : Type}
  {encrypt : Enc → OutboundPlainMessage → UInt64 → Except Error OutboundOpaqueMessage}

/-- `perhaps_write_key_update` moves the queued notification, if any, to the
end of `sendable_tls`, and changes nothing else. -/
theorem perhapsWriteKeyUpdate_eq (s : SendState Enc Dec) :
    s.perhapsWriteKeyUpdate =
      { s with queuedKeyUpdateMessage := none,
               sendableTls := match s.queuedKeyUpdateMessage with
                 | some message => (s.sendableTls.append message).2
                 | none => s.sendableTls } := by
  obtain ⟨rl, v, aligned, may, fatal, pending, queued, tls, frag, inst, sealed⟩ := s
  cases queued <;> rfl

/-- `queue_tls_message` changes the queued records only. -/
theorem queueTlsMessage_eq (s : SendState Enc Dec) (m : OutboundOpaqueMessage) :
    s.queueTlsMessage m =
      { s with queuedKeyUpdateMessage := none,
               sendableTls := (s.perhapsWriteKeyUpdate.sendableTls.append m.encode).2 } := by
  unfold queueTlsMessage
  rw [perhapsWriteKeyUpdate_eq]

/-- The record layer's `encrypt_outgoing`, seen from the send path: it seals
at `write_seq`, notes the record in the history and moves `write_seq` on. -/
theorem encryptOutgoing_eq_some {s s' : SendState Enc Dec} {m : OutboundPlainMessage}
    {em : OutboundOpaqueMessage} :
    s.encryptOutgoing encrypt m = some (em, s') ↔
      s.recordLayer.nextPreEncryptAction ≠ .refuse ∧
        encrypt s.recordLayer.messageEncrypter m s.recordLayer.writeSeq = .ok em ∧
        s' = { s with recordLayer := { s.recordLayer with writeSeq := s.recordLayer.writeSeq + 1 },
                      sealed := s.sealed ++ [⟨s.installations, s.recordLayer.writeSeq, m.typ⟩] } := by
  unfold encryptOutgoing
  cases hrl : s.recordLayer.encryptOutgoing encrypt m with
  | none =>
    simp only [reduceCtorEq, false_iff, not_and]
    intro hnr hok _
    have hsome := RecordLayer.encryptOutgoing_eq_some.mpr ⟨hnr, hok, rfl⟩
    rw [hrl] at hsome
    cases hsome
  | some p =>
    obtain ⟨em', rl'⟩ := p
    obtain ⟨hnr, hok, rfl⟩ := RecordLayer.encryptOutgoing_eq_some.mp hrl
    simp only [Option.some.injEq, Prod.mk.injEq, hok, Except.ok.injEq]
    constructor
    · rintro ⟨rfl, rfl⟩
      exact ⟨hnr, rfl, rfl⟩
    · rintro ⟨-, rfl, rfl⟩
      exact ⟨rfl, rfl⟩

/-- `encrypt_and_queue` is `encrypt_outgoing` followed by `queue_tls_message`. -/
theorem encryptAndQueue_eq_some {s s' : SendState Enc Dec} {m : OutboundPlainMessage} :
    s.encryptAndQueue encrypt m = some s' ↔
      ∃ em s₁, s.encryptOutgoing encrypt m = some (em, s₁) ∧ s' = s₁.queueTlsMessage em := by
  unfold encryptAndQueue
  cases hout : s.encryptOutgoing encrypt m with
  | none => simp
  | some p =>
    obtain ⟨em, s₁⟩ := p
    simp [eq_comm]

theorem perhapsWriteKeyUpdate_of_none {s : SendState Enc Dec} (h : s.queuedKeyUpdateMessage = none) :
    s.perhapsWriteKeyUpdate = s := by
  unfold perhapsWriteKeyUpdate
  rw [h]

/-- Past the `assert!`, with a cipher that seals, the record is sealed and
queued. -/
theorem encryptAndQueue_of_ok {s : SendState Enc Dec} {m : OutboundPlainMessage}
    {em : OutboundOpaqueMessage} (hnr : s.recordLayer.nextPreEncryptAction ≠ .refuse)
    (hok : encrypt s.recordLayer.messageEncrypter m s.recordLayer.writeSeq = .ok em) :
    s.encryptAndQueue encrypt m =
      some (({ s with recordLayer := { s.recordLayer with writeSeq := s.recordLayer.writeSeq + 1 },
                      sealed := s.sealed ++ [⟨s.installations, s.recordLayer.writeSeq, m.typ⟩] } :
        SendState Enc Dec).queueTlsMessage em) := by
  rw [encryptAndQueue_eq_some]
  exact ⟨em, _, encryptOutgoing_eq_some.mpr ⟨hnr, hok, rfl⟩, rfl⟩

theorem sendSingleFragment_of_alert {s : SendState Enc Dec} {m : OutboundPlainMessage}
    (halert : m.typ = .alert) : s.sendSingleFragment encrypt m = s.encryptAndQueue encrypt m := by
  rw [SendState.sendSingleFragment, if_pos halert]

theorem sendSingleFragment_of_nothing {s : SendState Enc Dec} {m : OutboundPlainMessage}
    (halert : m.typ ≠ .alert) (haction : s.recordLayer.nextPreEncryptAction = .nothing) :
    s.sendSingleFragment encrypt m = s.encryptAndQueue encrypt m := by
  rw [SendState.sendSingleFragment, if_neg halert, haction]

/-- A record that is not an alert, at `RefreshOrClose` on a connection that is
not TLS 1.3: it is dropped, and a close_notify goes instead. -/
theorem sendSingleFragment_of_refreshOrClose {s : SendState Enc Dec} {m : OutboundPlainMessage}
    (halert : m.typ ≠ .alert) (haction : s.recordLayer.nextPreEncryptAction = .refreshOrClose)
    (hv : s.negotiatedVersion ≠ some .tlsv1_3) :
    s.sendSingleFragment encrypt m = s.sendCloseNotify encrypt := by
  rw [SendState.sendSingleFragment, if_neg halert, haction]
  simp only [if_neg hv]

/-- A message that fits one fragment goes through `send_single_fragment` once. -/
theorem sendMsgEncrypt_of_length_le {s : SendState Enc Dec} {m : OutboundPlainMessage}
    (hpos : 0 < m.payload.length) (hle : m.payload.length ≤ s.messageFragmenter.maxFrag) :
    s.sendMsgEncrypt encrypt m = s.sendSingleFragment encrypt m := by
  obtain ⟨n, hn⟩ : ∃ n, m.payload.length = n + 1 := ⟨m.payload.length - 1, by omega⟩
  rw [SendState.sendMsgEncrypt, hn, MessageFragmenter.chunks_of_length_le hpos hle]
  simp only [List.foldlM_cons, List.foldlM_nil, bind_pure]

/-- On a connection that encrypts, `send_close_notify` seals one alert, by the
alerts' branch of `send_single_fragment`: whatever the `PreEncryptAction`. -/
theorem sendCloseNotify_of_encrypting {s : SendState Enc Dec} (hsent : s.sentFatalAlert = false)
    (henc : s.recordLayer.isEncrypting = true) :
    s.sendCloseNotify encrypt =
      { s with sentFatalAlert := true }.encryptAndQueue encrypt (buildAlert .warning .closeNotify) := by
  have hlen : (buildAlert .warning .closeNotify).payload.length ≤
      ({ s with sentFatalAlert := true } : SendState Enc Dec).messageFragmenter.maxFrag :=
    Nat.le_trans (by decide) s.messageFragmenter.le_maxFrag
  rw [SendState.sendCloseNotify, if_neg (by simp [hsent]), SendState.sendWarningAlertNoLog,
    SendState.sendMsg]
  simp only [henc, Bool.not_true, Bool.false_eq_true, if_false]
  rw [sendMsgEncrypt_of_length_le (by decide) hlen, sendSingleFragment_of_alert rfl]

end Steps

end SendState

/-- What every step of an `Option` fold keeps holds at its end. -/
theorem foldlM_option_invariant {α σ : Type} {P : σ → Prop} {f : σ → α → Option σ}
    (hstep : ∀ s a s', P s → f s a = some s' → P s') :
    ∀ (l : List α) (s s' : σ), P s → l.foldlM f s = some s' → P s'
  | [], s, s', hs, heq => by
    rw [List.foldlM_nil] at heq
    cases heq
    exact hs
  | a :: l, s, s', hs, heq => by
    rw [List.foldlM_cons] at heq
    cases hfa : f s a with
    | none =>
      rw [hfa] at heq
      cases heq
    | some s₁ =>
      rw [hfa] at heq
      exact foldlM_option_invariant hstep l s₁ s' (hstep s a s₁ hs hfa) heq

/-! ### The order of the sealed records -/

/-- Sealed before: by an earlier installation, or by the same one at a lower
sequence number. -/
def SealedRecord.Precedes (a b : SealedRecord) : Prop :=
  a.installation < b.installation ∨ (a.installation = b.installation ∧ a.seq < b.seq)

instance (a b : SealedRecord) : Decidable (a.Precedes b) :=
  inferInstanceAs (Decidable (_ ∨ _))

/-- Below the hard limit, `write_seq += 1` does not wrap. -/
theorem lt_add_one_of_lt_seqHardLimit {x : UInt64} (h : x < seqHardLimit) : x < x + 1 := by
  rw [UInt64.lt_iff_toNat_lt] at h ⊢
  rw [UInt64.toNat_add, UInt64.toNat_one]
  have hhard : seqHardLimit.toNat = 2 ^ 64 - 2 := by decide
  omega

namespace SendState

section Order

variable {Enc Dec : Type}
  {encrypt : Enc → OutboundPlainMessage → UInt64 → Except Error OutboundOpaqueMessage}

/-- What every run keeps of the record layer and the history. -/
structure SealOrder (s : SendState Enc Dec) : Prop where
  /-- `write_seq_max` is within the soft limit. -/
  writeSeqMax_le : s.recordLayer.writeSeqMax ≤ seqSoftLimit
  /-- Every record was sealed before the next one the record layer would seal. -/
  precedes_next : ∀ r ∈ s.sealed, r.Precedes ⟨s.installations, s.recordLayer.writeSeq, r.typ⟩
  /-- Every record was sealed below the hard limit. -/
  lt_hard : ∀ r ∈ s.sealed, r.seq < seqHardLimit
  /-- The history is in the order of sealing. -/
  sorted : s.sealed.Pairwise SealedRecord.Precedes

/-- The invariant reads the write side of the record layer, the installations
and the history only. -/
theorem SealOrder.frame {s s' : SendState Enc Dec} (h : SealOrder s)
    (hrl : s'.recordLayer.writeSeqMax = s.recordLayer.writeSeqMax)
    (hseq : s'.recordLayer.writeSeq = s.recordLayer.writeSeq)
    (hinst : s'.installations = s.installations) (hsealed : s'.sealed = s.sealed) : SealOrder s' := by
  obtain ⟨hmax, hnext, hhard, hsorted⟩ := h
  rw [← hrl] at hmax
  rw [← hseq, ← hinst, ← hsealed] at hnext
  rw [← hsealed] at hhard hsorted
  exact ⟨hmax, hnext, hhard, hsorted⟩

theorem SealOrder.perhapsWriteKeyUpdate {s : SendState Enc Dec} (h : SealOrder s) :
    SealOrder s.perhapsWriteKeyUpdate := by
  rw [perhapsWriteKeyUpdate_eq]
  exact h.frame rfl rfl rfl rfl

theorem SealOrder.queueTlsMessage {s : SendState Enc Dec} (h : SealOrder s) (m : OutboundOpaqueMessage) :
    SealOrder (s.queueTlsMessage m) := by
  rw [queueTlsMessage_eq]
  exact h.frame rfl rfl rfl rfl

/-- **The step.**  A record is sealed by the installation in use at
`write_seq`, which the `assert!` keeps below the hard limit: it comes after
every record before it, and the next one comes after it. -/
theorem SealOrder.encryptOutgoing {s s' : SendState Enc Dec} {m : OutboundPlainMessage}
    {em : OutboundOpaqueMessage} (h : SealOrder s) (heq : s.encryptOutgoing encrypt m = some (em, s')) :
    SealOrder s' := by
  obtain ⟨hnr, -, rfl⟩ := encryptOutgoing_eq_some.mp heq
  have hlt : s.recordLayer.writeSeq < seqHardLimit :=
    (RecordLayer.nextPreEncryptAction_ne_refuse_iff h.writeSeqMax_le).mp hnr
  have hsucc := lt_add_one_of_lt_seqHardLimit hlt
  refine ⟨h.writeSeqMax_le, ?_, ?_, ?_⟩
  · intro r hr
    rcases List.mem_append.mp hr with hr | hr
    · rcases h.precedes_next r hr with hinst | ⟨hinst, hseq⟩
      · exact Or.inl hinst
      · exact Or.inr ⟨hinst, UInt64.lt_trans hseq hsucc⟩
    · rw [List.mem_singleton] at hr
      subst hr
      exact Or.inr ⟨rfl, hsucc⟩
  · intro r hr
    rcases List.mem_append.mp hr with hr | hr
    · exact h.lt_hard r hr
    · rw [List.mem_singleton] at hr
      subst hr
      exact hlt
  · rw [List.pairwise_append]
    refine ⟨h.sorted, List.pairwise_singleton _ _, ?_⟩
    intro a ha b hb
    rw [List.mem_singleton] at hb
    subst hb
    exact h.precedes_next a ha

theorem SealOrder.encryptAndQueue {s s' : SendState Enc Dec} {m : OutboundPlainMessage}
    (h : SealOrder s) (heq : s.encryptAndQueue encrypt m = some s') : SealOrder s' := by
  obtain ⟨em, s₁, hout, rfl⟩ := encryptAndQueue_eq_some.mp heq
  exact (h.encryptOutgoing hout).queueTlsMessage em

/-! #### Alerts, and then every message -/

/-- `send_msg_encrypt` keeps the invariant when each of its fragments does. -/
theorem SealOrder.sendMsgEncrypt_of_fragments {m : OutboundPlainMessage}
    (hfragment : ∀ (s₁ s₂ : SendState Enc Dec) (p : List UInt8), SealOrder s₁ →
      s₁.sendSingleFragment encrypt ⟨m.typ, m.version, p⟩ = some s₂ → SealOrder s₂)
    {s s' : SendState Enc Dec} (h : SealOrder s) (heq : s.sendMsgEncrypt encrypt m = some s') :
    SealOrder s' := by
  rw [SendState.sendMsgEncrypt] at heq
  exact foldlM_option_invariant (fun s₁ p s₂ h₁ heq₁ => hfragment s₁ s₂ p h₁ heq₁) _ s s' h heq

/-- Queueing records unencrypted keeps the invariant. -/
theorem SealOrder.foldl_queueTlsMessage (fragments : List OutboundPlainMessage) :
    ∀ {s : SendState Enc Dec}, SealOrder s →
      SealOrder (fragments.foldl (fun s f => s.queueTlsMessage f.toUnencryptedOpaque) s) := by
  induction fragments with
  | nil =>
    intro s h
    exact h
  | cons f rest ih =>
    intro s h
    exact ih (h.queueTlsMessage f.toUnencryptedOpaque)

/-- `send_msg` keeps the invariant when its `send_msg_encrypt` does. -/
theorem SealOrder.sendMsg_of_sendMsgEncrypt {m : OutboundPlainMessage}
    (hencrypt : ∀ s₁ s₂ : SendState Enc Dec, SealOrder s₁ → s₁.sendMsgEncrypt encrypt m = some s₂ →
      SealOrder s₂)
    {s s' : SendState Enc Dec} {mustEncrypt : Bool} (h : SealOrder s)
    (heq : s.sendMsg encrypt m mustEncrypt = some s') : SealOrder s' := by
  rw [SendState.sendMsg] at heq
  cases mustEncrypt with
  | false =>
    cases heq
    exact SealOrder.foldl_queueTlsMessage _ h
  | true => exact hencrypt s s' h heq

theorem SealOrder.sendWarningAlertNoLog {s s' : SendState Enc Dec} {desc : AlertDescription}
    (h : SealOrder s) (heq : s.sendWarningAlertNoLog encrypt desc = some s') : SealOrder s' := by
  rw [SendState.sendWarningAlertNoLog] at heq
  refine SealOrder.sendMsg_of_sendMsgEncrypt ?_ h heq
  intro s₁ s₂ h₁ heq₁
  refine SealOrder.sendMsgEncrypt_of_fragments ?_ h₁ heq₁
  intro s₃ s₄ p h₃ heq₃
  have halert : (⟨(buildAlert .warning desc).typ, (buildAlert .warning desc).version, p⟩ :
      OutboundPlainMessage).typ = .alert := rfl
  rw [sendSingleFragment_of_alert halert] at heq₃
  exact h₃.encryptAndQueue heq₃

theorem SealOrder.sendCloseNotify {s s' : SendState Enc Dec} (h : SealOrder s)
    (heq : s.sendCloseNotify encrypt = some s') : SealOrder s' := by
  rw [SendState.sendCloseNotify] at heq
  by_cases hsent : s.sentFatalAlert
  · rw [if_pos hsent] at heq
    cases heq
    exact h
  · rw [if_neg hsent] at heq
    have hflag : SealOrder { s with sentFatalAlert := true } := h.frame rfl rfl rfl rfl
    exact hflag.sendWarningAlertNoLog heq

/-- **Every branch of `send_single_fragment`**: an alert is sealed, other
records are sealed, quashed, or give way to a close_notify. -/
theorem SealOrder.sendSingleFragment {s s' : SendState Enc Dec} {m : OutboundPlainMessage}
    (h : SealOrder s) (heq : s.sendSingleFragment encrypt m = some s') : SealOrder s' := by
  rw [SendState.sendSingleFragment] at heq
  by_cases halert : m.typ = .alert
  · rw [if_pos halert] at heq
    exact h.encryptAndQueue heq
  · rw [if_neg halert] at heq
    cases haction : s.recordLayer.nextPreEncryptAction with
    | nothing =>
      rw [haction] at heq
      exact h.encryptAndQueue heq
    | refreshOrClose =>
      rw [haction] at heq
      by_cases h13 : s.negotiatedVersion = some .tlsv1_3
      · rw [if_pos h13] at heq
        have hflag : SealOrder { s with refreshTrafficKeysPending := true } := h.frame rfl rfl rfl rfl
        exact hflag.encryptAndQueue heq
      · rw [if_neg h13] at heq
        exact h.sendCloseNotify heq
    | refuse =>
      rw [haction] at heq
      cases heq
      exact h

theorem SealOrder.sendMsgEncrypt {s s' : SendState Enc Dec} {m : OutboundPlainMessage}
    (h : SealOrder s) (heq : s.sendMsgEncrypt encrypt m = some s') : SealOrder s' :=
  SealOrder.sendMsgEncrypt_of_fragments (fun _ _ _ h₁ heq₁ => h₁.sendSingleFragment heq₁) h heq

theorem SealOrder.sendMsg {s s' : SendState Enc Dec} {m : OutboundPlainMessage} {mustEncrypt : Bool}
    (h : SealOrder s) (heq : s.sendMsg encrypt m mustEncrypt = some s') : SealOrder s' :=
  SealOrder.sendMsg_of_sendMsgEncrypt (fun _ _ h₁ heq₁ => h₁.sendMsgEncrypt heq₁) h heq

theorem SealOrder.sendFatalAlert {s s' : SendState Enc Dec} {desc : AlertDescription} {err e : Error}
    (h : SealOrder s) (heq : s.sendFatalAlert encrypt desc err = some (e, s')) : SealOrder s' := by
  unfold SendState.sendFatalAlert at heq
  cases hmsg : s.sendMsg encrypt (buildAlert .fatal desc) s.recordLayer.isEncrypting with
  | none =>
    rw [hmsg] at heq
    cases heq
  | some s₁ =>
    rw [hmsg] at heq
    cases heq
    exact (h.sendMsg hmsg).frame rfl rfl rfl rfl

/-! #### Application data -/

theorem SealOrder.sendAppdataEncrypt {s s' : SendState Enc Dec} {payload : List UInt8} {limit : Limit}
    {n : Nat} (h : SealOrder s) (heq : s.sendAppdataEncrypt encrypt payload limit = some (n, s')) :
    SealOrder s' := by
  unfold SendState.sendAppdataEncrypt at heq
  obtain ⟨s₁, hfold, hpair⟩ := Option.map_eq_some_iff.mp heq
  cases hpair
  exact foldlM_option_invariant (fun _ _ _ h₁ heq₁ => h₁.sendSingleFragment heq₁) _ s s' h hfold

theorem SealOrder.sendPlainNonBuffering {s s' : SendState Enc Dec} {payload : List UInt8}
    {limit : Limit} {n : Nat} (h : SealOrder s)
    (heq : s.sendPlainNonBuffering encrypt payload limit = some (n, s')) : SealOrder s' := by
  unfold SendState.sendPlainNonBuffering at heq
  by_cases hempty : payload.isEmpty
  · rw [if_pos hempty] at heq
    cases heq
    exact h
  · rw [if_neg hempty] at heq
    exact h.sendAppdataEncrypt heq

theorem SealOrder.sendPlain {s s' : SendState Enc Dec} {payload : List UInt8} {limit : Limit}
    {sp sp' : ChunkVecBuffer} {n : Nat} (h : SealOrder s)
    (heq : s.sendPlain encrypt payload limit sp = some (n, s', sp')) : SealOrder s' := by
  unfold SendState.sendPlain at heq
  by_cases hmay : s.maySendApplicationData
  · rw [if_neg (by simp [hmay])] at heq
    obtain ⟨⟨n₁, s₁⟩, hsend, hpair⟩ := Option.map_eq_some_iff.mp heq
    cases hpair
    exact h.sendPlainNonBuffering hsend
  · rw [if_pos (by simp [hmay])] at heq
    cases limit with
    | yes =>
      cases heq
      exact h
    | no =>
      cases heq
      exact h

theorem SealOrder.bufferPlaintext {s s' : SendState Enc Dec} {payload : List UInt8}
    {sp sp' : ChunkVecBuffer} {n : Nat} (h : SealOrder s)
    (heq : s.bufferPlaintext encrypt payload sp = some (n, s', sp')) : SealOrder s' :=
  h.perhapsWriteKeyUpdate.sendPlain heq

theorem SealOrder.flushChunks (bufs : List (List UInt8)) :
    ∀ {s s' : SendState Enc Dec}, SealOrder s → s.flushChunks encrypt bufs = some s' → SealOrder s' := by
  induction bufs with
  | nil =>
    intro s s' h heq
    cases heq
    exact h
  | cons buf rest ih =>
    intro s s' h heq
    unfold SendState.flushChunks at heq
    cases hsend : s.sendPlainNonBuffering encrypt buf .no with
    | none =>
      rw [hsend] at heq
      cases heq
    | some p =>
      obtain ⟨n, s₁⟩ := p
      rw [hsend] at heq
      exact ih (h.sendPlainNonBuffering hsend) heq

theorem SealOrder.startOutgoingTraffic {s s' : SendState Enc Dec} {sp sp' : Option ChunkVecBuffer}
    (h : SealOrder s) (heq : s.startOutgoingTraffic encrypt sp = some (s', sp')) : SealOrder s' := by
  unfold SendState.startOutgoingTraffic at heq
  have hmay : SealOrder { s with maySendApplicationData := true } := h.frame rfl rfl rfl rfl
  cases sp with
  | none =>
    cases heq
    exact hmay
  | some b =>
    obtain ⟨⟨s₁, b₁⟩, hflush, hpair⟩ := Option.map_eq_some_iff.mp heq
    cases hpair
    unfold SendState.flushPlaintext at hflush
    split at hflush
    · cases hflush
      exact hmay
    · obtain ⟨s₂, hchunks, hpair⟩ := Option.map_eq_some_iff.mp hflush
      cases hpair
      exact SealOrder.flushChunks _ hmay hchunks

/-! #### Keys -/

theorem SealOrder.prepareMessageEncrypter {s : SendState Enc Dec} (h : SealOrder s) (cipher : Enc)
    (maxMessages : UInt64) : SealOrder (s.prepareMessageEncrypter cipher maxMessages) := by
  refine ⟨?_, ?_, h.lt_hard, h.sorted⟩
  · show min seqSoftLimit maxMessages ≤ seqSoftLimit
    rw [UInt64.le_iff_toNat_le, UInt64.toNat_min]
    omega
  · -- the new installation comes after every one before it
    intro r hr
    rcases h.precedes_next r hr with hinst | ⟨hinst, -⟩
    · exact Or.inl (Nat.lt_succ_of_lt hinst)
    · exact Or.inl (Nat.lt_succ_of_le (Nat.le_of_eq hinst))

theorem SealOrder.startEncrypting {s : SendState Enc Dec} (h : SealOrder s) :
    SealOrder s.startEncrypting :=
  h.frame rfl rfl rfl rfl

theorem SealOrder.setMessageEncrypter {s : SendState Enc Dec} (h : SealOrder s) (cipher : Enc)
    (maxMessages : UInt64) : SealOrder (s.setMessageEncrypter cipher maxMessages) :=
  (h.prepareMessageEncrypter cipher maxMessages).startEncrypting

theorem SealOrder.updateEncrypterAndNotify {s s' : SendState Enc Dec} {cipher : Enc} {limit : UInt64}
    (h : SealOrder s) (heq : s.updateEncrypterAndNotify encrypt cipher limit = some s') : SealOrder s' := by
  unfold SendState.updateEncrypterAndNotify SendState.enqueueKeyUpdateNotification at heq
  cases hout : s.encryptOutgoing encrypt buildKeyUpdateNotify with
  | none =>
    rw [hout] at heq
    cases heq
  | some p =>
    obtain ⟨em, s₁⟩ := p
    rw [hout] at heq
    cases heq
    have hqueued : SealOrder { s₁ with queuedKeyUpdateMessage := some em.encode } :=
      (h.encryptOutgoing hout).frame rfl rfl rfl rfl
    exact hqueued.setMessageEncrypter cipher limit

theorem SealOrder.requestKeyUpdateAndUpdateEncrypter {s s' : SendState Enc Dec} {cipher : Enc}
    {limit : UInt64} {r : Except Error Unit} (h : SealOrder s)
    (heq : s.requestKeyUpdateAndUpdateEncrypter encrypt cipher limit = some (r, s')) : SealOrder s' := by
  unfold SendState.requestKeyUpdateAndUpdateEncrypter SendState.checkAlignedHandshake at heq
  by_cases haligned : s.alignedHandshake
  · rw [if_neg (by simp [haligned])] at heq
    obtain ⟨s₁, hsend, hpair⟩ := Option.map_eq_some_iff.mp heq
    cases hpair
    exact (h.sendMsgEncrypt hsend).setMessageEncrypter cipher limit
  · rw [if_pos (by simp [haligned])] at heq
    cases hfatal : s.sendFatalAlert encrypt .unexpectedMessage
        (.peerMisbehaved .keyEpochWithPendingFragment) with
    | none =>
      rw [hfatal] at heq
      cases heq
    | some p =>
      obtain ⟨err, s₁⟩ := p
      rw [hfatal] at heq
      cases heq
      exact h.sendFatalAlert hfatal

theorem SealOrder.maybeRefreshTrafficKeys {s s' : SendState Enc Dec} {keyUpdate : Option (Enc × UInt64)}
    (h : SealOrder s) (heq : s.maybeRefreshTrafficKeys encrypt keyUpdate = some s') : SealOrder s' := by
  unfold SendState.maybeRefreshTrafficKeys at heq
  have hcleared : SealOrder { s with refreshTrafficKeysPending := false } := h.frame rfl rfl rfl rfl
  split at heq
  · cases keyUpdate with
    | none =>
      cases heq
      exact hcleared
    | some key =>
      obtain ⟨⟨r, s₁⟩, hrequest, hpair⟩ := Option.map_eq_some_iff.mp heq
      cases hpair
      exact hcleared.requestKeyUpdateAndUpdateEncrypter hrequest
  · cases heq
    exact h

theorem SealOrder.write {s s' : SendState Enc Dec} {buf : List UInt8} {sp sp' : ChunkVecBuffer}
    {keyUpdate : Option (Enc × UInt64)} {n : Nat} (h : SealOrder s)
    (heq : s.write encrypt buf sp keyUpdate = some (n, s', sp')) : SealOrder s' := by
  unfold SendState.write at heq
  cases hbuffer : s.bufferPlaintext encrypt buf sp with
  | none =>
    rw [hbuffer] at heq
    cases heq
  | some p =>
    obtain ⟨n₁, s₁, sp₁⟩ := p
    rw [hbuffer] at heq
    obtain ⟨s₂, hrefresh, hpair⟩ := Option.map_eq_some_iff.mp heq
    cases hpair
    exact (h.bufferPlaintext hbuffer).maybeRefreshTrafficKeys hrefresh

/-! #### The unbuffered path -/

theorem SealOrder.checkFragments (fs : List Nat) :
    ∀ {s s' : SendState Enc Dec} {r : Except EncryptError Unit}, SealOrder s →
      s.checkFragments encrypt fs = some (r, s') → SealOrder s' := by
  induction fs with
  | nil =>
    intro s s' r h heq
    cases heq
    exact h
  | cons f rest ih =>
    intro s s' r h heq
    unfold SendState.checkFragments at heq
    split at heq
    · exact ih h heq
    · split at heq
      · have hflag : SealOrder { s with refreshTrafficKeysPending := true } := h.frame rfl rfl rfl rfl
        exact ih hflag heq
      · obtain ⟨s₁, hclose, hpair⟩ := Option.map_eq_some_iff.mp heq
        cases hpair
        exact h.sendCloseNotify hclose
    · cases heq
      exact h

theorem SealOrder.encryptInto (fragments : List OutboundPlainMessage) :
    ∀ {s s' : SendState Enc Dec} {out out' : List UInt8} {written written' : Nat}, SealOrder s →
      s.encryptInto encrypt fragments out written = some (out', written', s') → SealOrder s' := by
  induction fragments with
  | nil =>
    intro s s' out out' written written' h heq
    cases heq
    exact h
  | cons m rest ih =>
    intro s s' out out' written written' h heq
    unfold SendState.encryptInto at heq
    cases hout : s.encryptOutgoing encrypt m with
    | none =>
      simp only [hout, reduceCtorEq] at heq
    | some p =>
      obtain ⟨em, s₁⟩ := p
      cases hcopy : copyInto out written em.encode with
      | none =>
        simp only [hout, hcopy, reduceCtorEq] at heq
      | some out₁ =>
        simp only [hout, hcopy] at heq
        exact ih (h.encryptOutgoing hout) heq

theorem SealOrder.writeFragments {s s' : SendState Enc Dec} {out out' : List UInt8}
    {fragments : List OutboundPlainMessage} {n : Nat} (h : SealOrder s)
    (heq : s.writeFragments encrypt out fragments = some (n, out', s')) : SealOrder s' := by
  unfold SendState.writeFragments at heq
  cases hdrain : drainInto s.sendableTls.chunks out 0 with
  | none =>
    rw [hdrain] at heq
    cases heq
  | some p =>
    obtain ⟨out₁, written⟩ := p
    rw [hdrain] at heq
    obtain ⟨⟨out₂, written₂, s₂⟩, hinto, hpair⟩ := Option.map_eq_some_iff.mp heq
    cases hpair
    have hdrained : SealOrder { s with sendableTls := { s.sendableTls with chunks := [] } } :=
      h.frame rfl rfl rfl rfl
    exact SealOrder.encryptInto fragments hdrained hinto

theorem SealOrder.writePlaintext {encryptedPayloadLen : Enc → Nat → Nat} {s s' : SendState Enc Dec}
    {payload out out' : List UInt8} {r : Except EncryptError Nat} (h : SealOrder s)
    (heq : s.writePlaintext encrypt encryptedPayloadLen payload out = some (r, out', s')) :
    SealOrder s' := by
  unfold SendState.writePlaintext at heq
  by_cases hempty : payload.isEmpty
  · rw [if_pos hempty] at heq
    cases heq
    exact h
  · rw [if_neg hempty] at heq
    cases hcheck : s.checkFragments encrypt
        (List.range (s.messageFragmenter.fragmentCount payload.length)) with
    | none => simp only [hcheck, reduceCtorEq] at heq
    | some p =>
      obtain ⟨c, s₁⟩ := p
      have h₁ := SealOrder.checkFragments _ h hcheck
      cases c with
      | error e =>
        simp only [hcheck] at heq
        cases heq
        exact h₁
      | ok u =>
        simp only [hcheck] at heq
        split at heq
        · cases heq
          exact h₁.perhapsWriteKeyUpdate
        · obtain ⟨⟨n, out₂, s₂⟩, hwrite, hpair⟩ := Option.map_eq_some_iff.mp heq
          cases hpair
          exact h₁.perhapsWriteKeyUpdate.writeFragments hwrite

theorem SealOrder.eagerSendCloseNotify {encryptedPayloadLen : Enc → Nat → Nat} {s s' : SendState Enc Dec}
    {out out' : List UInt8} {r : Except EncryptError Nat} (h : SealOrder s)
    (heq : s.eagerSendCloseNotify encrypt encryptedPayloadLen out = some (r, out', s')) :
    SealOrder s' := by
  unfold SendState.eagerSendCloseNotify at heq
  cases hclose : s.sendCloseNotify encrypt with
  | none => simp only [hclose, reduceCtorEq] at heq
  | some s₁ =>
    simp only [hclose] at heq
    have h₁ := h.sendCloseNotify hclose
    split at heq
    · cases heq
      exact h₁
    · obtain ⟨⟨n, out₂, s₂⟩, hwrite, hpair⟩ := Option.map_eq_some_iff.mp heq
      cases hpair
      exact h₁.writeFragments hwrite

theorem SealOrder.writeTrafficEncrypt {encryptedPayloadLen : Enc → Nat → Nat} {s s' : SendState Enc Dec}
    {payload out out' : List UInt8} {keyUpdate : Option (Enc × UInt64)} {r : Except EncryptError Nat}
    (h : SealOrder s)
    (heq : s.writeTrafficEncrypt encrypt encryptedPayloadLen payload out keyUpdate = some (r, out', s')) :
    SealOrder s' := by
  unfold SendState.writeTrafficEncrypt at heq
  obtain ⟨s₁, hrefresh, hwrite⟩ := Option.bind_eq_some_iff.mp heq
  exact (h.maybeRefreshTrafficKeys hrefresh).writePlaintext hwrite

end Order

end SendState

/-! ### Runs -/

/-- `DEFAULT_BUFFER_LIMIT`. -/
def defaultBufferLimit : Nat := 64 * 1024

/-- Records in sealing order are distinct records of their installations. -/
theorem SealedRecord.Precedes.ne {a b : SealedRecord} (h : a.Precedes b) :
    (a.installation, a.seq) ≠ (b.installation, b.seq) := by
  intro heq
  obtain ⟨hinst, hseq⟩ := Prod.mk.inj heq
  rcases h with hlt | ⟨-, hlt⟩
  · rw [hinst] at hlt
    exact Nat.lt_irrefl _ hlt
  · rw [hseq] at hlt
    exact UInt64.lt_irrefl _ hlt

namespace SendState

variable {Enc Dec : Type}

/-- The send path of `CommonState::new`, with the `invalid()` ciphers of
`RecordLayer::new`. -/
def new (invalidEnc : Enc) (invalidDec : Dec) : SendState Enc Dec :=
  ⟨RecordLayer.new invalidEnc invalidDec, none, true, false, false, false, none,
    ChunkVecBuffer.new (some defaultBufferLimit), MessageFragmenter.default, 0, []⟩

theorem SealOrder.new (invalidEnc : Enc) (invalidDec : Dec) :
    SealOrder (SendState.new invalidEnc invalidDec) := by
  refine ⟨?_, ?_, ?_, List.Pairwise.nil⟩
  · show (0 : UInt64) ≤ seqSoftLimit
    decide
  · intro r hr
    simp [SendState.new] at hr
  · intro r hr
    simp [SendState.new] at hr

/-- In sealing order, no installation seals one sequence number twice. -/
theorem SealOrder.nodup {s : SendState Enc Dec} (h : SealOrder s) :
    (s.sealed.map fun r => (r.installation, r.seq)).Nodup :=
  List.pairwise_map.mpr (h.sorted.imp SealedRecord.Precedes.ne)

end SendState

/-- A call that reaches the send path. -/
inductive SendOp (Enc : Type)
  /-- `Writer::write`, by `PlaintextSink::write`. -/
  | write (buf : List UInt8) (keyUpdate : Option (Enc × UInt64))
  /-- `WriteTraffic::encrypt`. -/
  | writeTrafficEncrypt (applicationData outgoingTls : List UInt8) (keyUpdate : Option (Enc × UInt64))
  /-- `WriteTraffic::queue_close_notify`. -/
  | queueCloseNotify (outgoingTls : List UInt8)
  /-- A handshake message or an alert, by `send_msg`. -/
  | sendMsg (m : OutboundPlainMessage) (mustEncrypt : Bool)
  /-- `CommonState::send_close_notify`. -/
  | sendCloseNotify
  /-- `send_fatal_alert`. -/
  | sendFatalAlert (desc : AlertDescription) (err : Error)
  /-- `start_outgoing_traffic`, once the handshake lets application data out. -/
  | startOutgoingTraffic
  /-- The handshake's `prepare_message_encrypter`. -/
  | prepareMessageEncrypter (cipher : Enc) (maxMessages : UInt64)
  /-- The handshake's `start_encrypting`. -/
  | startEncrypting
  /-- A key_update from the peer that asks for one back. -/
  | updateEncrypterAndNotify (cipher : Enc) (confidentialityLimit : UInt64)
  /-- `refresh_traffic_keys`, with what the connection's state installs. -/
  | refreshTrafficKeys (keyUpdate : Option (Enc × UInt64))
  /-- `write_tls`, taking up to `size` bytes off `sendable_tls`. -/
  | writeTls (size : Nat)

namespace SendOp

section Run

variable {Enc Dec : Type}
  (encrypt : Enc → OutboundPlainMessage → UInt64 → Except Error OutboundOpaqueMessage)
  (encryptedPayloadLen : Enc → Nat → Nat)

/-- What a call does to the send path and to the connection's
`sendable_plaintext`; `none` is a panic. -/
def apply : SendOp Enc → SendState Enc Dec × ChunkVecBuffer →
    Option (SendState Enc Dec × ChunkVecBuffer)
  | write buf keyUpdate, (s, sp) => (s.write encrypt buf sp keyUpdate).map fun (_, s, sp) => (s, sp)
  | writeTrafficEncrypt data out keyUpdate, (s, sp) =>
    (s.writeTrafficEncrypt encrypt encryptedPayloadLen data out keyUpdate).map fun (_, _, s) => (s, sp)
  | queueCloseNotify out, (s, sp) =>
    (s.eagerSendCloseNotify encrypt encryptedPayloadLen out).map fun (_, _, s) => (s, sp)
  | sendMsg m mustEncrypt, (s, sp) => (s.sendMsg encrypt m mustEncrypt).map fun s => (s, sp)
  | sendCloseNotify, (s, sp) => (s.sendCloseNotify encrypt).map fun s => (s, sp)
  | sendFatalAlert desc err, (s, sp) => (s.sendFatalAlert encrypt desc err).map fun (_, s) => (s, sp)
  | startOutgoingTraffic, (s, sp) =>
    (s.startOutgoingTraffic encrypt (some sp)).map fun (s, b) => (s, b.getD sp)
  | prepareMessageEncrypter cipher maxMessages, (s, sp) =>
    some (s.prepareMessageEncrypter cipher maxMessages, sp)
  | startEncrypting, (s, sp) => some (s.startEncrypting, sp)
  | updateEncrypterAndNotify cipher limit, (s, sp) =>
    (s.updateEncrypterAndNotify encrypt cipher limit).map fun s => (s, sp)
  | refreshTrafficKeys keyUpdate, (s, sp) =>
    match keyUpdate with
    | some (cipher, limit) =>
      (s.requestKeyUpdateAndUpdateEncrypter encrypt cipher limit).map fun (_, s) => (s, sp)
    | none => some (s, sp)
  | writeTls size, (s, sp) => some ({ s with sendableTls := (s.sendableTls.read size).2 }, sp)

/-- A run of calls, from first to last. -/
def run (ops : List (SendOp Enc)) (st : SendState Enc Dec × ChunkVecBuffer) :
    Option (SendState Enc Dec × ChunkVecBuffer) :=
  ops.foldlM (fun st op => op.apply encrypt encryptedPayloadLen st) st

end Run

section Order

variable {Enc Dec : Type}
  {encrypt : Enc → OutboundPlainMessage → UInt64 → Except Error OutboundOpaqueMessage}
  {encryptedPayloadLen : Enc → Nat → Nat}

open SendState in
/-- Every call keeps the sealing order. -/
theorem sealOrder_apply {op : SendOp Enc} {st st' : SendState Enc Dec × ChunkVecBuffer}
    (h : SealOrder st.1) (heq : op.apply encrypt encryptedPayloadLen st = some st') : SealOrder st'.1 := by
  obtain ⟨s, sp⟩ := st
  cases op with
  | write buf keyUpdate =>
    obtain ⟨⟨n, s₁, sp₁⟩, hwrite, hpair⟩ := Option.map_eq_some_iff.mp heq
    cases hpair
    exact h.write hwrite
  | writeTrafficEncrypt data out keyUpdate =>
    obtain ⟨⟨r, out₁, s₁⟩, hwrite, hpair⟩ := Option.map_eq_some_iff.mp heq
    cases hpair
    exact h.writeTrafficEncrypt hwrite
  | queueCloseNotify out =>
    obtain ⟨⟨r, out₁, s₁⟩, hclose, hpair⟩ := Option.map_eq_some_iff.mp heq
    cases hpair
    exact h.eagerSendCloseNotify hclose
  | sendMsg m mustEncrypt =>
    obtain ⟨s₁, hsend, hpair⟩ := Option.map_eq_some_iff.mp heq
    cases hpair
    exact h.sendMsg hsend
  | sendCloseNotify =>
    obtain ⟨s₁, hclose, hpair⟩ := Option.map_eq_some_iff.mp heq
    cases hpair
    exact h.sendCloseNotify hclose
  | sendFatalAlert desc err =>
    obtain ⟨⟨e, s₁⟩, hfatal, hpair⟩ := Option.map_eq_some_iff.mp heq
    cases hpair
    exact h.sendFatalAlert hfatal
  | startOutgoingTraffic =>
    obtain ⟨⟨s₁, b⟩, hstart, hpair⟩ := Option.map_eq_some_iff.mp heq
    cases hpair
    exact h.startOutgoingTraffic hstart
  | prepareMessageEncrypter cipher maxMessages =>
    cases heq
    exact h.prepareMessageEncrypter cipher maxMessages
  | startEncrypting =>
    cases heq
    exact h.startEncrypting
  | updateEncrypterAndNotify cipher limit =>
    obtain ⟨s₁, hupdate, hpair⟩ := Option.map_eq_some_iff.mp heq
    cases hpair
    exact h.updateEncrypterAndNotify hupdate
  | refreshTrafficKeys keyUpdate =>
    cases keyUpdate with
    | some key =>
      obtain ⟨⟨r, s₁⟩, hrequest, hpair⟩ := Option.map_eq_some_iff.mp heq
      cases hpair
      exact h.requestKeyUpdateAndUpdateEncrypter hrequest
    | none =>
      cases heq
      exact h
  | writeTls size =>
    cases heq
    exact h.frame rfl rfl rfl rfl

theorem sealOrder_run {ops : List (SendOp Enc)} {st st' : SendState Enc Dec × ChunkVecBuffer}
    (h : SendState.SealOrder st.1) (hrun : run encrypt encryptedPayloadLen ops st = some st') :
    SendState.SealOrder st'.1 :=
  @foldlM_option_invariant (SendOp Enc) (SendState Enc Dec × ChunkVecBuffer)
    (fun st => SendState.SealOrder st.1) _ (fun _ _ _ h₁ heq₁ => sealOrder_apply h₁ heq₁) ops st st' h hrun

/-- **Under each installation of an encrypter, no sequence number is sealed
twice, and none at or past `SEQ_HARD_LIMIT`**, over every run of the send
path that does not panic, from a new connection or from any state that keeps
the sealing order. -/
theorem sealed_nodup_of_run {ops : List (SendOp Enc)} {st st' : SendState Enc Dec × ChunkVecBuffer}
    (h : SendState.SealOrder st.1) (hrun : run encrypt encryptedPayloadLen ops st = some st') :
    (st'.1.sealed.map fun r => (r.installation, r.seq)).Nodup ∧
      ∀ r ∈ st'.1.sealed, r.seq < seqHardLimit :=
  ⟨(sealOrder_run h hrun).nodup, (sealOrder_run h hrun).lt_hard⟩

end Order

end SendOp

/-! ### The confidentiality limit -/

/-- A cipher that seals nothing: the record goes out as it is. -/
def nullEncrypt (_ : Unit) (m : OutboundPlainMessage) (_ : UInt64) : Except Error OutboundOpaqueMessage :=
  .ok m.toUnencryptedOpaque

/-- A TLS 1.2 connection whose encrypter, installed with a confidentiality
limit of one record, has sealed the Finished message, with fragments of 27
bytes, the smallest `set_max_fragment_size` allows. -/
def tls12AtLimit : SendState Unit Unit :=
  ⟨⟨(), (), 1, 1, 1, true, .active, .active, none⟩, some .tlsv1_2, true, true, false, false, none,
    ChunkVecBuffer.new (some defaultBufferLimit), ⟨27, le_refl 27, by decide⟩, 1, [⟨1, 0, .handshake⟩]⟩


namespace SendState

section Limit

variable {Enc Dec : Type}
  {encrypt : Enc → OutboundPlainMessage → UInt64 → Except Error OutboundOpaqueMessage}

/-- One past `write_seq_max` the record layer asks for nothing: the test for
`RefreshOrClose` is an equality, and the hard limit is far off. -/
theorem nextPreEncryptAction_of_eq_add_one {rl : RecordLayer Enc Dec}
    (hmax : rl.writeSeqMax ≤ seqSoftLimit) (hseq : rl.writeSeq = rl.writeSeqMax + 1) :
    rl.nextPreEncryptAction = .nothing := by
  have hsoft : seqSoftLimit.toNat = 2 ^ 64 - 2 ^ 16 := by decide
  have hhard : seqHardLimit.toNat = 2 ^ 64 - 2 := by decide
  rw [UInt64.le_iff_toNat_le, hsoft] at hmax
  have hne : ¬ rl.writeSeqMax + 1 = rl.writeSeqMax := by
    intro heq
    have hnat := congrArg UInt64.toNat heq
    rw [UInt64.toNat_add, UInt64.toNat_one] at hnat
    omega
  have hbelow : ¬ rl.writeSeqMax + 1 ≥ seqHardLimit := by
    rw [ge_iff_le, UInt64.le_iff_toNat_le, UInt64.toNat_add, UInt64.toNat_one, hhard]
    omega
  rw [RecordLayer.nextPreEncryptAction_eq, hseq, if_neg hne, if_neg hbelow]

/-- **A TLS 1.2 connection at its confidentiality limit goes on encrypting
application data under the same key.**  A write of two fragments when the next
sequence number is `write_seq_max` drops the first fragment and seals a
close_notify alert at `write_seq_max` in its place, then seals the second
fragment at `write_seq_max + 1` under the same installation; and it reports the
whole payload written. -/
theorem write_seals_appdata_past_limit (hok : ∀ k m seq, ∃ em, encrypt k m seq = .ok em)
    {s : SendState Enc Dec} (horder : SealOrder s) (h12 : s.negotiatedVersion = some .tlsv1_2)
    (henc : s.recordLayer.isEncrypting = true) (hmay : s.maySendApplicationData = true)
    (hsent : s.sentFatalAlert = false) (hpending : s.refreshTrafficKeysPending = false)
    (hqueued : s.queuedKeyUpdateMessage = none)
    (hat : s.recordLayer.writeSeq = s.recordLayer.writeSeqMax)
    {buf : List UInt8} (hroom : s.sendableTls.applyLimit buf.length = buf.length)
    (hlt : s.messageFragmenter.maxFrag < buf.length)
    (hle : buf.length ≤ 2 * s.messageFragmenter.maxFrag)
    (sp : ChunkVecBuffer) (keyUpdate : Option (Enc × UInt64)) :
    ∃ s', s.write encrypt buf sp keyUpdate = some (buf.length, s', sp) ∧
      (⟨s.installations, s.recordLayer.writeSeqMax, .alert⟩ : SealedRecord) ∈ s'.sealed ∧
      (⟨s.installations, s.recordLayer.writeSeqMax + 1, .applicationData⟩ : SealedRecord) ∈ s'.sealed := by
  obtain ⟨em₁, hem₁⟩ :=
    hok s.recordLayer.messageEncrypter (buildAlert .warning .closeNotify) s.recordLayer.writeSeq
  obtain ⟨em₂, hem₂⟩ := hok s.recordLayer.messageEncrypter
    ⟨.applicationData, .tlsv1_2, buf.drop s.messageFragmenter.maxFrag⟩ (s.recordLayer.writeSeq + 1)
  -- the first fragment gives way to a close_notify, sealed at `write_seq_max`
  have haction : s.recordLayer.nextPreEncryptAction = .refreshOrClose := by
    rw [RecordLayer.nextPreEncryptAction_eq, if_pos hat]
  have hnr : s.recordLayer.nextPreEncryptAction ≠ .refuse := by
    rw [haction]
    exact PreEncryptAction.noConfusion
  let s₁ : SendState Enc Dec :=
    ({ s with sentFatalAlert := true,
              recordLayer := { s.recordLayer with writeSeq := s.recordLayer.writeSeq + 1 },
              sealed := s.sealed ++ [⟨s.installations, s.recordLayer.writeSeq, .alert⟩] } :
      SendState Enc Dec).queueTlsMessage em₁
  have hfirst : s.sendSingleFragment encrypt
      ⟨.applicationData, .tlsv1_2, buf.take s.messageFragmenter.maxFrag⟩ = some s₁ := by
    rw [sendSingleFragment_of_refreshOrClose (by simp) haction (by rw [h12]; decide),
      sendCloseNotify_of_encrypting hsent henc]
    exact encryptAndQueue_of_ok hnr hem₁
  -- the second is sealed at `write_seq_max + 1`, by the same installation
  have hrl₁ : s₁.recordLayer = { s.recordLayer with writeSeq := s.recordLayer.writeSeq + 1 } := by
    simp only [s₁, queueTlsMessage_eq]
  have haction₁ : s₁.recordLayer.nextPreEncryptAction = .nothing := by
    rw [hrl₁]
    exact nextPreEncryptAction_of_eq_add_one horder.writeSeqMax_le (by rw [hat])
  have hnr₁ : s₁.recordLayer.nextPreEncryptAction ≠ .refuse := by
    rw [haction₁]
    exact PreEncryptAction.noConfusion
  have hem₂' : encrypt s₁.recordLayer.messageEncrypter
      ⟨.applicationData, .tlsv1_2, buf.drop s.messageFragmenter.maxFrag⟩ s₁.recordLayer.writeSeq =
        .ok em₂ := by
    rw [hrl₁]
    exact hem₂
  let s₂ : SendState Enc Dec :=
    ({ s₁ with recordLayer := { s₁.recordLayer with writeSeq := s₁.recordLayer.writeSeq + 1 },
               sealed := s₁.sealed ++ [⟨s₁.installations, s₁.recordLayer.writeSeq, .applicationData⟩] } :
      SendState Enc Dec).queueTlsMessage em₂
  have hsecond : s₁.sendSingleFragment encrypt
      ⟨.applicationData, .tlsv1_2, buf.drop s.messageFragmenter.maxFrag⟩ = some s₂ := by
    rw [sendSingleFragment_of_nothing (by simp) haction₁]
    exact encryptAndQueue_of_ok hnr₁ hem₂'
  -- the write, fragment by fragment
  have happ : s.sendAppdataEncrypt encrypt buf .yes = some (buf.length, s₂) := by
    unfold sendAppdataEncrypt
    simp only [hroom, List.take_length,
      MessageFragmenter.fragmentPayload_of_lt_of_le_two_mul _ _ _ hlt hle, List.foldlM_cons,
      List.foldlM_nil, Option.bind_eq_bind, hfirst, Option.bind_some, hsecond, Option.pure_def,
      Option.map_some]
  have hnonempty : buf.isEmpty = false :=
    List.isEmpty_eq_false_iff.mpr (List.ne_nil_of_length_pos (Nat.lt_of_le_of_lt (Nat.zero_le _) hlt))
  have hpending₂ : s₂.refreshTrafficKeysPending = false := by
    simp only [s₂, s₁, queueTlsMessage_eq, hpending]
  refine ⟨s₂, ?_, ?_, ?_⟩
  · unfold write bufferPlaintext sendPlain sendPlainNonBuffering
    rw [perhapsWriteKeyUpdate_of_none hqueued]
    simp only [hmay, Bool.not_true, Bool.false_eq_true, if_false, hnonempty, happ, Option.map_some]
    unfold maybeRefreshTrafficKeys
    simp only [hpending₂, Bool.false_eq_true, if_false, Option.map_some]
  · simp [s₂, s₁, queueTlsMessage_eq, hat]
  · simp [s₂, s₁, queueTlsMessage_eq, hat]

end Limit

end SendState

theorem write_seals_appdata_past_limit_of_one_record :
    (∀ k m seq, ∃ em, nullEncrypt k m seq = .ok em) ∧ SendState.SealOrder tls12AtLimit ∧
      tls12AtLimit.negotiatedVersion = some .tlsv1_2 ∧ tls12AtLimit.recordLayer.isEncrypting = true ∧
      tls12AtLimit.maySendApplicationData = true ∧ tls12AtLimit.sentFatalAlert = false ∧
      tls12AtLimit.refreshTrafficKeysPending = false ∧ tls12AtLimit.queuedKeyUpdateMessage = none ∧
      tls12AtLimit.recordLayer.writeSeq = tls12AtLimit.recordLayer.writeSeqMax ∧
      tls12AtLimit.sendableTls.applyLimit (List.replicate 28 (7 : UInt8)).length =
        (List.replicate 28 (7 : UInt8)).length ∧
      tls12AtLimit.messageFragmenter.maxFrag < (List.replicate 28 (7 : UInt8)).length ∧
      (List.replicate 28 (7 : UInt8)).length ≤ 2 * tls12AtLimit.messageFragmenter.maxFrag ∧
      ∃ s', tls12AtLimit.write nullEncrypt (List.replicate 28 7) (ChunkVecBuffer.new none) none =
          some ((List.replicate 28 (7 : UInt8)).length, s', ChunkVecBuffer.new none) ∧
        (⟨tls12AtLimit.installations, tls12AtLimit.recordLayer.writeSeqMax, .alert⟩ : SealedRecord) ∈
          s'.sealed ∧
        (⟨tls12AtLimit.installations, tls12AtLimit.recordLayer.writeSeqMax + 1, .applicationData⟩ :
          SealedRecord) ∈ s'.sealed := by
  have hok : ∀ k m seq, ∃ em, nullEncrypt k m seq = .ok em := fun _ _ _ => ⟨_, rfl⟩
  have horder : SendState.SealOrder tls12AtLimit := ⟨by decide, by decide, by decide, by decide⟩
  exact ⟨hok, horder, rfl, rfl, rfl, rfl, rfl, rfl, rfl, by decide, by decide, by decide,
    SendState.write_seals_appdata_past_limit hok horder rfl rfl rfl rfl rfl rfl rfl (by decide)
      (by decide) (by decide) _ _⟩

/-- Given 28 bytes to write, the connection seals the close_notify at sequence
number 1 and the last byte of application data at 2, under the same key, and
reports 28 bytes written. -/
theorem appdata_sealed_past_confidentiality_limit :
    (tls12AtLimit.write nullEncrypt (List.replicate 28 7) (ChunkVecBuffer.new none) none).map
        (fun r => (r.1, r.2.1.sealed)) =
      some (28, [⟨1, 0, .handshake⟩, ⟨1, 1, .alert⟩, ⟨1, 2, .applicationData⟩]) := by
  simp +decide [tls12AtLimit, nullEncrypt, SendState.write, SendState.bufferPlaintext,
    SendState.perhapsWriteKeyUpdate, SendState.sendPlain, SendState.sendPlainNonBuffering,
    SendState.sendAppdataEncrypt, MessageFragmenter.fragmentPayload, MessageFragmenter.chunks,
    SendState.sendSingleFragment, SendState.sendCloseNotify, SendState.sendWarningAlertNoLog,
    SendState.sendMsg, SendState.sendMsgEncrypt, SendState.encryptAndQueue, SendState.encryptOutgoing,
    RecordLayer.encryptOutgoing, RecordLayer.nextPreEncryptAction, RecordLayer.preEncryptAction,
    RecordLayer.isEncrypting, SendState.queueTlsMessage, SendState.maybeRefreshTrafficKeys,
    ChunkVecBuffer.applyLimit, ChunkVecBuffer.new, ChunkVecBuffer.append, ChunkVecBuffer.len,
    buildAlert, defaultBufferLimit]

end Rustls
