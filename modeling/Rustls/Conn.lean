import Rustls.CommonState
import Rustls.Msgs.Deframer

/-!
Turning the bytes from the peer into messages for the state machine:
`ConnectionCore` of `conn.rs` and the two connection APIs that drive it.

`deframe` first hands out any handshake message the handshake deframer has
ready; otherwise `process_more_input` reads records from the buffer, from
where the last call stopped.  A record is decrypted in place, unless it is a
change_cipher_spec or a short TLS 1.3 alert that may come in the clear; one
that fails trial decryption is dropped.  Any record but a handshake record is
returned as it is.  A handshake record goes into the handshake deframer, and
is only returned once some message in it is complete.

The buffered API (`process_new_packets`) deframes and processes messages
until the buffer holds no more; it stops early, dropping everything left in
the buffer, when a message was a close_notify, and `read_tls` reads nothing
more after one.  The unbuffered API (`process_tls_records`) works on a buffer
the caller owns and returns at the first thing the caller must act on:
received plaintext, data to send, or, once no message is left, the
connection's state, `Closed` if a close_notify was received.

What a state does with a message is its `handle`, given here as part of a
`ConnectionMachine`, with the record decrypter and the handshake parser.
The loops that run until the buffer is used up are run with fuel: every round
takes a record (five bytes at least) or a pending handshake message out of the
buffer, and `none` is a run that ran out of it.
-/

namespace Rustls

/-- What the connection core calls out to: the record decrypter's `decrypt`,
`HandshakeMessagePayload::read_version`, the type of a parsed handshake
message, and the current state's `handle`. -/
structure ConnectionMachine (Enc Dec St H : Type) where
  decrypt : Dec → InboundOpaqueMessage → UInt64 → Except Error InboundPlainMessage
  readHandshake : ProtocolVersion → List UInt8 → Except InvalidMessage H
  handshakeType : H → HandshakeType
  handle : St → Message H → CommonState Enc Dec → Except Error St × CommonState Enc Dec

/-- `ALLOWED_CONSECUTIVE_EMPTY_FRAGMENTS_MAX`. -/
def allowedConsecutiveEmptyFragmentsMax : Nat := 32

/-- `ConnectionCore`, without the side's connection data. -/
structure ConnectionCore (Enc Dec St : Type) where
  state : Except Error St
  commonState : CommonState Enc Dec
  hsDeframer : HandshakeDeframer
  seenConsecutiveEmptyFragments : Nat

/-- The bytes of `buf` from `pos` on overwritten by `bytes`: in-place decryption. -/
def overwrite (buf : List UInt8) (pos : Nat) (bytes : List UInt8) : List UInt8 :=
  buf.take pos ++ bytes ++ buf.drop (pos + bytes.length)

/-- What lies after the overwritten bytes is left as it was. -/
theorem drop_overwrite {buf : List UInt8} {pos : Nat} (bytes : List UInt8) {k : Nat}
    (hpos : pos ≤ buf.length) (hk : pos + bytes.length ≤ k) :
    (overwrite buf pos bytes).drop k = buf.drop k := by
  have hlen : (buf.take pos ++ bytes).length = pos + bytes.length := by
    simp [Nat.min_eq_left hpos]
  unfold overwrite
  rw [List.drop_append, List.drop_eq_nil_of_le (by omega), List.nil_append, hlen, List.drop_drop]
  congr 1
  omega

/-- The buffer `deframe` works in, and how far through it the connection is. -/
structure Deframing where
  buf : List UInt8
  progress : BufferProgress
  deriving DecidableEq, Repr

namespace ConnectionCore

variable {Enc Dec St H : Type} (m : ConnectionMachine Enc Dec St H)

/-- `handle_deframe_error`, on TCP. -/
def handleDeframeError (core : ConnectionCore Enc Dec St) (error : Error) :
    Error × ConnectionCore Enc Dec St :=
  let alert : Option AlertDescription := match error with
    | .invalidMessage _ => some .decodeError
    | .peerSentOversizedRecord => some .recordOverflow
    | .decryptError => some .badRecordMac
    | _ => none
  match alert with
  | some desc =>
    let (err, cs) := core.commonState.sendFatalAlert desc error
    (err, { core with commonState := cs })
  | none => (error, core)

/-- The record loop inside `process_more_input`: the next record of the
iterator that is not dropped by trial decryption, as a plaintext message with
the bytes the iterator consumed up to its end and where its payload starts;
`none` when more data is needed. -/
def nextRecord (core : ConnectionCore Enc Dec St) :
    Nat → DeframerIter → Nat →
      Option (Except Error (InboundPlainMessage × Nat × Nat)) × ConnectionCore Enc Dec St
  | 0, _, _ => (none, core)
  | fuel + 1, iter, start =>
    match iter.next with
    | none => (none, core)
    | some (.error err) =>
      let (err, core) := core.handleDeframeError err
      (some (.error err), core)
    | some (.ok (message, iter')) =>
      let payloadStart := start + iter.consumed + headerSize
      let cs := core.commonState
      let allowedPlaintext := match message.typ with
        | .changeCipherSpec => true
        | .alert =>
          cs.negotiatedVersion == some .tlsv1_3 && !cs.recordLayer.hasDecrypted &&
            message.payload.length ≤ 2
        | _ => false
      if allowedPlaintext && !core.hsDeframer.isActive then
        (some (.ok (message.intoPlainMessage, iter'.consumed, payloadStart)), core)
      else
        match cs.recordLayer.decryptIncoming m.decrypt message with
        | (.ok none, rl) =>
          let core := { core with commonState := { cs with recordLayer := rl } }
          -- a record dropped by trial decryption may not split a handshake message
          if !core.hsDeframer.isAligned then
            (some (.error (.peerMisbehaved .rejectedEarlyDataInterleavedWithHandshakeMessage)), core)
          else nextRecord core fuel iter' start
        | (.ok (some d), rl) =>
          let cs := { cs with recordLayer := rl }
          let cs := if d.wantCloseBeforeDecrypt then cs.sendCloseNotify else cs
          (some (.ok (d.plaintext, iter'.consumed, payloadStart)), { core with commonState := cs })
        | (.error err, rl) =>
          let core := { core with commonState := { cs with recordLayer := rl } }
          let (err, core) := core.handleDeframeError err
          (some (.error err), core)

/-- `take_handshake_message`. -/
def takeHandshakeMessage (core : ConnectionCore Enc Dec St) (d : Deframing) :
    Option InboundPlainMessage × ConnectionCore Enc Dec St × Deframing :=
  match core.hsDeframer.takeMessage d.buf with
  | (some (message, discard), hs) =>
    (some message, { core with hsDeframer := hs }, { d with progress := d.progress.addDiscard discard })
  | (none, hs) => (none, { core with hsDeframer := hs }, d)

/-- `process_more_input`, with `fuel` rounds of its outer loop. -/
def processMoreInput (core : ConnectionCore Enc Dec St) :
    Nat → Deframing → Except Error (Option InboundPlainMessage) × ConnectionCore Enc Dec St × Deframing
  | 0, d => (.ok none, core, d)
  | fuel + 1, d =>
    let iter := DeframerIter.new (d.buf.drop d.progress.processed)
    match core.nextRecord m (d.buf.length + 1) iter d.progress.processed with
    | (none, core) => (.ok none, core, d)
    | (some (.error err), core) => (.error err, core, d)
    | (some (.ok (message, processed, payloadStart)), core) =>
      -- the plaintext replaces the record's payload in the buffer
      let d := { d with buf := overwrite d.buf payloadStart message.payload }
      if !core.hsDeframer.isAligned && message.typ != .handshake then
        (.error (.peerMisbehaved .messageInterleavedWithHandshakeMessage), core, d)
      else
      let empty := message.payload.isEmpty
      if empty && core.seenConsecutiveEmptyFragments = allowedConsecutiveEmptyFragmentsMax then
        (.error (.peerMisbehaved .tooManyEmptyFragments), core, d)
      else
      let core := { core with
        seenConsecutiveEmptyFragments := if empty then core.seenConsecutiveEmptyFragments + 1 else 0 }
      let d := { d with progress := d.progress.addProcessed processed }
      if message.typ != .handshake then
        (.ok (some message), core, { d with progress := d.progress.addDiscard processed })
      else
      let hs := core.hsDeframer.inputMessage message.version payloadStart message.payload
        d.progress.processed
      match hs.coalesce d.buf with
      | .error err => (.error (.invalidMessage err), { core with hsDeframer := hs }, d)
      | .ok (hs, buf) =>
        let d := { d with buf := buf }
        let cs := { core.commonState with alignedHandshake := hs.isAligned }
        let core := { core with hsDeframer := hs, commonState := cs }
        if hs.hasMessageReady then
          -- trial decryption finishes with the first handshake message after it started
          let core := { core with
            commonState := { cs with recordLayer := cs.recordLayer.finishTrialDecryption } }
          let (message, core, d) := core.takeHandshakeMessage d
          (.ok message, core, d)
        else processMoreInput core fuel d

/-- `deframe`: a ready handshake message first, else more input. -/
def deframe (core : ConnectionCore Enc Dec St) (d : Deframing) :
    Except Error (Option InboundPlainMessage) × ConnectionCore Enc Dec St × Deframing :=
  if core.hsDeframer.hasMessageReady then
    let (message, core, d) := core.takeHandshakeMessage d
    (.ok message, core, d)
  else core.processMoreInput m (d.buf.length + 1) d

/-- `process_main_protocol`: a TLS 1.2 renegotiation request after the
handshake is refused with a warning; anything else goes to the state. -/
def processMainProtocol (cs : CommonState Enc Dec) (msg : Message H) (state : St) :
    Except Error St × CommonState Enc Dec :=
  let rejectTy : HandshakeType := match cs.side with
    | .client => .helloRequest
    | .server => .clientHello
  let isRejected := match msg.payload with
    | .handshake parsed _ => m.handshakeType parsed == rejectTy
    | _ => false
  if cs.mayReceiveApplicationData && !cs.isTls13 && isRejected then
    match cs.receivedRenegotiationRequest with
    | .error err => (.error err, cs)
    | .ok cs => (.ok state, cs.sendWarningAlert .noRenegotiation)
  else
    match m.handle state msg cs with
    | (.error (.inappropriateMessage e g), cs) =>
      let (err, cs) := cs.sendFatalAlert .unexpectedMessage (.inappropriateMessage e g)
      (.error err, cs)
    | (.error (.inappropriateHandshakeMessage e g), cs) =>
      let (err, cs) := cs.sendFatalAlert .unexpectedMessage (.inappropriateHandshakeMessage e g)
      (.error err, cs)
    | r => r

/-- `process_msg`. -/
def processMsg (cs : CommonState Enc Dec) (msg : InboundPlainMessage) (state : St) :
    Except Error St × CommonState Enc Dec :=
  -- change_cipher_spec is dropped during a TLS 1.3 handshake
  if msg.typ == .changeCipherSpec && !cs.mayReceiveApplicationData && cs.isTls13 then
    if !msg.isValidCcs then
      let (err, cs) := cs.sendFatalAlert .unexpectedMessage
        (.peerMisbehaved .illegalMiddleboxChangeCipherSpec)
      (.error err, cs)
    else
      match cs.receivedTls13ChangeCipherSpec with
      | .error err => (.error err, cs)
      | .ok cs => (.ok state, cs)
  else
    match Message.tryFrom m.readHandshake msg with
    | .error err =>
      let (err, cs) := cs.sendFatalAlert .decodeError (.invalidMessage err)
      (.error err, cs)
    | .ok message =>
      match message.payload with
      | .alert alert =>
        match cs.processAlert alert with
        | (.error err, cs) => (.error err, cs)
        | (.ok (), cs) => (.ok state, cs)
      | _ => processMainProtocol m cs message state

/-! ### What one message does -/

/-- Any message but a handshake message goes to the state as it is, and what
the state accepts is the result. -/
theorem processMainProtocol_of_handle {cs cs' : CommonState Enc Dec} {msg : Message H}
    {state state' : St} (hmsg : ∀ parsed encoded, msg.payload ≠ .handshake parsed encoded)
    (hhandle : m.handle state msg cs = (.ok state', cs')) :
    processMainProtocol m cs msg state = (.ok state', cs') := by
  obtain ⟨v, payload⟩ := msg
  cases payload
  case handshake parsed encoded => exact absurd rfl (hmsg parsed encoded)
  all_goals simp [processMainProtocol, hhandle]

/-- A warning close_notify, once application data may be received, only sets
the flag: the state does not see it. -/
theorem processMsg_closeNotify (cs : CommonState Enc Dec) (v : ProtocolVersion) (state : St)
    (hmay : cs.mayReceiveApplicationData = true) :
    processMsg m cs ⟨.alert, v, [1, 0]⟩ state =
      (.ok state, { cs with hasReceivedCloseNotify := true }) := by
  have hread : Message.tryFrom m.readHandshake ⟨.alert, v, [1, 0]⟩ =
      .ok ⟨v, .alert ⟨.warning, .closeNotify⟩⟩ := rfl
  have halert : cs.processAlert ⟨.warning, .closeNotify⟩ =
      (.ok (), { cs with hasReceivedCloseNotify := true }) :=
    cs.processAlert_closeNotify (fun _ => by simp) hmay
  have hccs : (ContentType.alert == .changeCipherSpec) = false := rfl
  simp only [processMsg, hccs, Bool.false_and, Bool.false_eq_true, if_false, hread, halert]

/-- Application data goes to the state. -/
theorem processMsg_applicationData {cs cs' : CommonState Enc Dec} {v : ProtocolVersion}
    {p : List UInt8} {state state' : St}
    (hhandle : m.handle state ⟨v, .applicationData p⟩ cs = (.ok state', cs')) :
    processMsg m cs ⟨.applicationData, v, p⟩ state = (.ok state', cs') := by
  have hread : Message.tryFrom m.readHandshake ⟨.applicationData, v, p⟩ =
      .ok ⟨v, .applicationData p⟩ := rfl
  have hccs : (ContentType.applicationData == .changeCipherSpec) = false := rfl
  have hmain := processMainProtocol_of_handle m (fun _ _ h => by cases h) hhandle
  simp only [processMsg, hccs, Bool.false_and, Bool.false_eq_true, if_false, hread, hmain]

end ConnectionCore

/-! ### The buffered API -/

/-- What `ConnectionCommon` adds to the core for the buffered API. -/
structure ConnectionCommon (Enc Dec St : Type) where
  core : ConnectionCore Enc Dec St
  deframerBuffer : DeframerVecBuffer
  hasSeenEof : Bool

namespace ConnectionCommon

variable {Enc Dec St H : Type} (m : ConnectionMachine Enc Dec St H)

/-- `MAX_WIRE_SIZE`. -/
def maxWireSize : Nat := maxPayload + headerSize

/-- `read_tls`, from a reader that has `available` ready: `none` is the
error for a full plaintext buffer or a full deframer buffer; a read takes
what fits of 4096 bytes (64 KB while a handshake message is being joined). -/
def readTls (c : ConnectionCommon Enc Dec St) (available : List UInt8) :
    Option (Nat × ConnectionCommon Enc Dec St) :=
  if c.core.commonState.receivedPlaintext.isFull then none
  else if c.core.commonState.hasReceivedCloseNotify then some (0, c)
  else
    let used := c.deframerBuffer.buf.length
    let allowMax := if c.core.hsDeframer.isActive then maxHandshakeSize else maxWireSize
    if used ≥ allowMax then none
    else
      let taken := available.take (min allowMax (used + 4096) - used)
      some (taken.length,
        { c with deframerBuffer := c.deframerBuffer.extend taken,
                 hasSeenEof := c.hasSeenEof || taken.isEmpty })

/-- The loop of `process_new_packets`, with `fuel` rounds: the state after,
or the error that ended the loop, with the progress through the buffer. -/
def processLoop (c : ConnectionCommon Enc Dec St) :
    Nat → St → BufferProgress → Option (Except Error St × BufferProgress × ConnectionCommon Enc Dec St)
  | 0, _, _ => none
  | fuel + 1, state, progress =>
    match c.core.deframe m ⟨c.deframerBuffer.buf, progress⟩ with
    | (.error err, core, d) =>
      let (discard, progress) := d.progress.takeDiscard
      let buffer : DeframerVecBuffer := { c.deframerBuffer with buf := d.buf }
      some (.error err, progress, { c with core := core, deframerBuffer := buffer.discard discard })
    | (.ok none, core, d) =>
      let buffer : DeframerVecBuffer := { c.deframerBuffer with buf := d.buf }
      some (.ok state, d.progress, { c with core := core, deframerBuffer := buffer })
    | (.ok (some msg), core, d) =>
      let buffer : DeframerVecBuffer := { c.deframerBuffer with buf := d.buf }
      let c := { c with core := core, deframerBuffer := buffer }
      match ConnectionCore.processMsg m core.commonState msg state with
      | (.error err, cs) =>
        let (discard, progress) := d.progress.takeDiscard
        let core := { c.core with commonState := cs }
        some (.error err, progress, { c with core := core, deframerBuffer := c.deframerBuffer.discard discard })
      | (.ok state, cs) =>
        let c := { c with core := { c.core with commonState := cs } }
        if cs.hasReceivedCloseNotify then
          -- any data received after a closure alert is ignored: all of the buffer goes
          some (.ok state, d.progress.addDiscard d.buf.length, c)
        else
          let (discard, progress) := d.progress.takeDiscard
          processLoop { c with deframerBuffer := c.deframerBuffer.discard discard } fuel state progress

/-- `process_new_packets`: the connection after processing what is
buffered, with the error that stopped it if any. -/
def processNewPackets (c : ConnectionCommon Enc Dec St) :
    Option (Except Error Unit × ConnectionCommon Enc Dec St) :=
  match c.core.state with
  | .error e => some (.error e, c)
  | .ok state =>
    let progress := BufferProgress.empty.addProcessed c.deframerBuffer.processed
    let fuel := c.deframerBuffer.buf.length + c.core.hsDeframer.spans.length + 1
    match c.processLoop m fuel state progress with
    | none => none
    | some (.error err, _, c) => some (.error err, { c with core := { c.core with state := .error err } })
    | some (.ok state, progress, c) =>
      let buffer := { c.deframerBuffer with processed := progress.processed }
      let (discard, _) := progress.takeDiscard
      let core := { c.core with state := .ok state }
      some (.ok (), { c with deframerBuffer := buffer.discard discard, core := core })

/-! ### What one call does -/

/-- A message after which the connection is closed ends the loop, with all of
the buffer to be discarded. -/
theorem processLoop_closed {c : ConnectionCommon Enc Dec St} (fuel : Nat) {state state' : St}
    {progress : BufferProgress} {msg : InboundPlainMessage} {core : ConnectionCore Enc Dec St}
    {d : Deframing} {cs : CommonState Enc Dec}
    (hdeframe : c.core.deframe m ⟨c.deframerBuffer.buf, progress⟩ = (.ok (some msg), core, d))
    (hmsg : ConnectionCore.processMsg m core.commonState msg state = (.ok state', cs))
    (hclosed : cs.hasReceivedCloseNotify = true) :
    c.processLoop m (fuel + 1) state progress =
      some (.ok state', d.progress.addDiscard d.buf.length,
        { c with core := { core with commonState := cs },
                 deframerBuffer := { c.deframerBuffer with buf := d.buf } }) := by
  simp only [processLoop, hdeframe, hmsg, hclosed, if_true]

/-- When the loop asks to discard more than the buffer holds, nothing is
removed: only the processed mark moves. -/
theorem processNewPackets_of_length_lt {c c' : ConnectionCommon Enc Dec St} {state state' : St}
    {progress : BufferProgress} (hstate : c.core.state = .ok state)
    (hloop : c.processLoop m (c.deframerBuffer.buf.length + c.core.hsDeframer.spans.length + 1)
      state ⟨c.deframerBuffer.processed, 0⟩ = some (.ok state', progress, c'))
    (hdiscard : c'.deframerBuffer.buf.length < progress.discard) :
    c.processNewPackets m =
      some (.ok (), { c' with deframerBuffer := { c'.deframerBuffer with processed := progress.processed },
                              core := { c'.core with state := .ok state' } }) := by
  have hprogress : BufferProgress.empty.addProcessed c.deframerBuffer.processed =
      ⟨c.deframerBuffer.processed, 0⟩ := by
    simp [BufferProgress.empty, BufferProgress.addProcessed]
  simp only [processNewPackets, hstate, hprogress, hloop, BufferProgress.takeDiscard]
  rw [DeframerVecBuffer.discard_of_length_lt
    { c'.deframerBuffer with processed := progress.processed } hdiscard]

end ConnectionCommon

/-! ### The unbuffered API -/

/-- `ConnectionState` of the unbuffered API, each with the data it hands the
caller. -/
inductive ConnectionState
  | readTraffic (chunk : List UInt8)
  | closed
  | readEarlyData (chunk : List UInt8)
  | encodeTlsData (m : OutgoingMessage)
  | transmitTlsData
  | blockedHandshake
  | writeTraffic
  deriving DecidableEq, Repr

/-- `UnbufferedStatus`. -/
structure UnbufferedStatus where
  discard : Nat
  state : Except Error ConnectionState
  deriving DecidableEq, Repr

/-- What `UnbufferedConnectionCommon` adds to the core. -/
structure UnbufferedConnectionCommon (Enc Dec St : Type) where
  core : ConnectionCore Enc Dec St
  wantsWrite : Bool

namespace UnbufferedConnectionCommon

variable {Enc Dec St H : Type} (m : ConnectionMachine Enc Dec St H)

/-- The loop of `process_tls_records_common` over the caller's buffer `buf`,
of which `discard` bytes are to be removed: the status, the connection, and the
buffer as in-place decryption and reassembly left it.  `check` is the side's
first test (`pop_early_data` for a server, nothing for a client). -/
def processLoop (check : UnbufferedConnectionCommon Enc Dec St →
      Option (List UInt8 × UnbufferedConnectionCommon Enc Dec St))
    (c : UnbufferedConnectionCommon Enc Dec St) :
    Nat → List UInt8 → Nat → BufferProgress →
      Option (UnbufferedStatus × UnbufferedConnectionCommon Enc Dec St × List UInt8)
  | 0, _, _, _ => none
  | fuel + 1, buf, discard, progress =>
    match check c with
    | some (chunk, c) => some (⟨discard, .ok (.readEarlyData chunk)⟩, c, buf)
    | none =>
    let cs := c.core.commonState
    match cs.receivedPlaintext.pop with
    | (some chunk, received) =>
      let core := { c.core with commonState := { cs with receivedPlaintext := received } }
      some (⟨discard, .ok (.readTraffic chunk)⟩, { c with core := core }, buf)
    | (none, _) =>
    match cs.sendableTls with
    | msg :: rest =>
      let core := { c.core with commonState := { cs with sendableTls := rest } }
      some (⟨discard, .ok (.encodeTlsData msg)⟩, { c with core := core }, buf)
    | [] =>
    match c.core.deframe m ⟨buf.drop discard, progress⟩ with
    | (.error err, core, d) =>
      let (more, _) := d.progress.takeDiscard
      some (⟨discard + more, .error err⟩, { c with core := core }, buf.take discard ++ d.buf)
    | (.ok (some msg), core, d) =>
      let buf := buf.take discard ++ d.buf
      match core.state with
      | .error e =>
        let (more, _) := d.progress.takeDiscard
        some (⟨discard + more, .error e⟩, { c with core := core }, buf)
      | .ok state =>
        match ConnectionCore.processMsg m core.commonState msg state with
        | (.error e, cs) =>
          let (more, _) := d.progress.takeDiscard
          let core := { core with commonState := cs, state := .error e }
          some (⟨discard + more, .error e⟩, { c with core := core }, buf)
        | (.ok state, cs) =>
          let (more, progress) := d.progress.takeDiscard
          let core := { core with commonState := cs, state := .ok state }
          processLoop check { c with core := core } fuel buf (discard + more) progress
    | (.ok none, core, d) =>
      let buf := buf.take discard ++ d.buf
      let c := { c with core := core }
      let state : ConnectionState :=
        if c.wantsWrite then .transmitTlsData
        else if core.commonState.hasReceivedCloseNotify then .closed
        else if core.commonState.maySendApplicationData then .writeTraffic
        else .blockedHandshake
      some (⟨discard, .ok state⟩, c, buf)

/-- `process_tls_records_common` on the caller's buffer `incomingTls`. -/
def processTlsRecordsCommon (check : UnbufferedConnectionCommon Enc Dec St →
      Option (List UInt8 × UnbufferedConnectionCommon Enc Dec St))
    (c : UnbufferedConnectionCommon Enc Dec St) (incomingTls : List UInt8) :
    Option (UnbufferedStatus × UnbufferedConnectionCommon Enc Dec St × List UInt8) :=
  c.processLoop m check (incomingTls.length + c.core.hsDeframer.spans.length + 1) incomingTls 0
    BufferProgress.empty

/-- A client's `process_tls_records`: no side test comes first. -/
def processTlsRecords (c : UnbufferedConnectionCommon Enc Dec St) (incomingTls : List UInt8) :
    Option (UnbufferedStatus × UnbufferedConnectionCommon Enc Dec St × List UInt8) :=
  c.processTlsRecordsCommon m (fun _ => none) incomingTls

/-! ### What one round does -/

/-- Received plaintext is handed out before anything else is looked at. -/
theorem processLoop_readTraffic {check : UnbufferedConnectionCommon Enc Dec St →
      Option (List UInt8 × UnbufferedConnectionCommon Enc Dec St)}
    {c : UnbufferedConnectionCommon Enc Dec St} {fuel : Nat} {buf : List UInt8} {discard : Nat}
    {progress : BufferProgress} {chunk : List UInt8} {received : ChunkVecBuffer}
    (hcheck : check c = none)
    (hpop : c.core.commonState.receivedPlaintext.pop = (some chunk, received)) :
    c.processLoop m check (fuel + 1) buf discard progress =
      some (⟨discard, .ok (.readTraffic chunk)⟩,
        { c with core.commonState.receivedPlaintext := received }, buf) := by
  simp only [processLoop, hcheck, hpop]

/-- With nothing to hand out, a message the state accepts is processed and the
loop goes on, whatever the message was: the closed flag is not looked at. -/
theorem processLoop_message {check : UnbufferedConnectionCommon Enc Dec St →
      Option (List UInt8 × UnbufferedConnectionCommon Enc Dec St)}
    {c : UnbufferedConnectionCommon Enc Dec St} {fuel : Nat} {buf : List UInt8} {discard : Nat}
    {progress : BufferProgress} {msg : InboundPlainMessage} {core : ConnectionCore Enc Dec St}
    {d : Deframing} {state state' : St} {cs : CommonState Enc Dec}
    (hcheck : check c = none) (hplain : c.core.commonState.receivedPlaintext.chunks = [])
    (hsend : c.core.commonState.sendableTls = [])
    (hdeframe : c.core.deframe m ⟨buf.drop discard, progress⟩ = (.ok (some msg), core, d))
    (hstate : core.state = .ok state)
    (hmsg : ConnectionCore.processMsg m core.commonState msg state = (.ok state', cs)) :
    c.processLoop m check (fuel + 1) buf discard progress =
      processLoop m check { c with core := { core with commonState := cs, state := .ok state' } }
        fuel (buf.take discard ++ d.buf) (discard + d.progress.discard)
        d.progress.takeDiscard.2 := by
  have hpop : c.core.commonState.receivedPlaintext.pop =
      (none, c.core.commonState.receivedPlaintext) := by
    simp [ChunkVecBuffer.pop, hplain]
  simp only [processLoop, hcheck, hpop, hsend, hdeframe, hstate, hmsg, BufferProgress.takeDiscard]

end UnbufferedConnectionCommon

end Rustls
