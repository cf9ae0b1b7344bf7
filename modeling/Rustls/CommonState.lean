import Rustls.RecordLayer
import Rustls.VecBuf

/-!
The state a connection shares between its handshake and traffic states:
`CommonState` of `common_state.rs`, with the parsing of a record's payload
into a `Message` (`msgs/message/mod.rs`) and the handling of alerts.

A handshake message body is parsed by a function the connection is given
(`HandshakeMessagePayload::read_version`); everything else about it is left to
the state that receives it.  Messages the connection sends are queued as they
are built, before their encoding and protection.

`process_alert` is where a close_notify is recorded: only once application
data may be received, so that an unauthenticated alert cannot end the
connection cleanly.
-/

namespace Rustls

/-! ### Messages -/

/-- `AlertMessagePayload`. -/
structure AlertMessagePayload where
  level : AlertLevel
  description : AlertDescription
  deriving DecidableEq, Repr

/-- `AlertMessagePayload::read`: a level byte, a description byte, and
nothing after. -/
def AlertMessagePayload.read : List UInt8 → Except InvalidMessage AlertMessagePayload
  | [] => .error (.missingData "AlertLevel")
  | [_] => .error (.missingData "AlertDescription")
  | [level, description] => .ok ⟨.ofU8 level, .ofU8 description⟩
  | _ :: _ :: _ :: _ => .error (.trailingData "AlertMessagePayload")

/-- `ChangeCipherSpecPayload::read`: the byte 1, and nothing after. -/
def readChangeCipherSpec : List UInt8 → Except InvalidMessage Unit
  | [] => .error (.missingData "u8")
  | typ :: rest =>
    if typ ≠ 1 then .error .invalidCcs
    else if rest.isEmpty then .ok ()
    else .error (.trailingData "ChangeCipherSpecPayload")

/-- `MessagePayload`, with a handshake message parsed into `H` beside its
encoding. -/
inductive MessagePayload (H : Type)
  | alert (alert : AlertMessagePayload)
  | handshake (parsed : H) (encoded : List UInt8)
  | changeCipherSpec
  | applicationData (payload : List UInt8)
  deriving DecidableEq, Repr

/-- `MessagePayload::content_type`. -/
def MessagePayload.contentType {H : Type} : MessagePayload H → ContentType
  | .alert _ => .alert
  | .handshake _ _ => .handshake
  | .changeCipherSpec => .changeCipherSpec
  | .applicationData _ => .applicationData

/-- `inappropriate_message` of `check.rs`. -/
def inappropriateMessage {H : Type} (payload : MessagePayload H) (contentTypes : List ContentType) :
    Error :=
  .inappropriateMessage contentTypes payload.contentType

/-- `inappropriate_handshake_message` of `check.rs`: the handshake type, when
the message is a handshake message. -/
def inappropriateHandshakeMessage {H : Type} (handshakeType : H → HandshakeType)
    (payload : MessagePayload H) (contentTypes : List ContentType)
    (handshakeTypes : List HandshakeType) : Error :=
  match payload with
  | .handshake parsed _ => .inappropriateHandshakeMessage handshakeTypes (handshakeType parsed)
  | payload => inappropriateMessage payload contentTypes

/-- `Message`. -/
structure Message (H : Type) where
  version : ProtocolVersion
  payload : MessagePayload H
  deriving DecidableEq, Repr

/-- `MessagePayload::new`, with `readHandshake` for `read_version`. -/
def MessagePayload.new {H : Type} (readHandshake : ProtocolVersion → List UInt8 → Except InvalidMessage H)
    (typ : ContentType) (vers : ProtocolVersion) (payload : List UInt8) :
    Except InvalidMessage (MessagePayload H) :=
  match typ with
  | .applicationData => .ok (.applicationData payload)
  | .alert => (AlertMessagePayload.read payload).map .alert
  | .handshake => (readHandshake vers payload).map fun parsed => .handshake parsed payload
  | .changeCipherSpec => (readChangeCipherSpec payload).map fun _ => .changeCipherSpec
  | _ => .error .invalidContentType

/-- `Message::try_from(InboundPlainMessage)`. -/
def Message.tryFrom {H : Type} (readHandshake : ProtocolVersion → List UInt8 → Except InvalidMessage H)
    (m : InboundPlainMessage) : Except InvalidMessage (Message H) :=
  (MessagePayload.new readHandshake m.typ m.version m.payload).map fun payload => ⟨m.version, payload⟩

/-- `InboundPlainMessage::is_valid_ccs`. -/
def InboundPlainMessage.isValidCcs (m : InboundPlainMessage) : Bool :=
  m.typ == .changeCipherSpec && m.payload == [0x01]

/-- A message queued for the peer, before its encoding and protection. -/
inductive OutgoingMessage
  | alert (level : AlertLevel) (description : AlertDescription)
  | other (m : OutboundPlainMessage)
  deriving DecidableEq, Repr

/-! ### The common state -/

/-- `DEFAULT_RECEIVED_PLAINTEXT_LIMIT`. -/
def defaultReceivedPlaintextLimit : Nat := 16 * 1024

/-- What is read and changed of `CommonState` while records come in, with the
two `TemperCounters` that incoming records spend. -/
structure CommonState (Enc Dec : Type) where
  side : Side
  recordLayer : RecordLayer Enc Dec
  negotiatedVersion : Option ProtocolVersion
  alignedHandshake : Bool
  maySendApplicationData : Bool
  mayReceiveApplicationData : Bool
  hasReceivedCloseNotify : Bool
  sentFatalAlert : Bool
  receivedPlaintext : ChunkVecBuffer
  sendableTls : List OutgoingMessage
  allowedWarningAlerts : Nat
  allowedRenegotiationRequests : Nat
  allowedMiddleboxCcs : Nat

namespace CommonState

variable {Enc Dec : Type}

/-- `is_tls13`. -/
def isTls13 (cs : CommonState Enc Dec) : Bool :=
  cs.negotiatedVersion == some .tlsv1_3

/-- `send_msg`, for a message queued as it is. -/
def sendMsg (cs : CommonState Enc Dec) (m : OutgoingMessage) : CommonState Enc Dec :=
  { cs with sendableTls := cs.sendableTls ++ [m] }

/-- `send_fatal_alert`: queue the alert, and hand back the error. -/
def sendFatalAlert (cs : CommonState Enc Dec) (desc : AlertDescription) (err : Error) :
    Error × CommonState Enc Dec :=
  (err, { cs.sendMsg (.alert .fatal desc) with sentFatalAlert := true })

/-- `send_warning_alert`. -/
def sendWarningAlert (cs : CommonState Enc Dec) (desc : AlertDescription) : CommonState Enc Dec :=
  cs.sendMsg (.alert .warning desc)

/-- `send_close_notify`: nothing after a fatal alert. -/
def sendCloseNotify (cs : CommonState Enc Dec) : CommonState Enc Dec :=
  if cs.sentFatalAlert then cs
  else { cs with sentFatalAlert := true }.sendWarningAlert .closeNotify

/-- `take_received_plaintext`. -/
def takeReceivedPlaintext (cs : CommonState Enc Dec) (bytes : List UInt8) : CommonState Enc Dec :=
  { cs with receivedPlaintext := (cs.receivedPlaintext.append bytes).2 }

/-- `TemperCounters::received_warning_alert`. -/
def receivedWarningAlert (cs : CommonState Enc Dec) : Except Error (CommonState Enc Dec) :=
  match cs.allowedWarningAlerts with
  | 0 => .error (.peerMisbehaved .tooManyWarningAlertsReceived)
  | n + 1 => .ok { cs with allowedWarningAlerts := n }

/-- `TemperCounters::received_renegotiation_request`. -/
def receivedRenegotiationRequest (cs : CommonState Enc Dec) : Except Error (CommonState Enc Dec) :=
  match cs.allowedRenegotiationRequests with
  | 0 => .error (.peerMisbehaved .tooManyRenegotiationRequests)
  | n + 1 => .ok { cs with allowedRenegotiationRequests := n }

/-- `received_tls13_change_cipher_spec`. -/
def receivedTls13ChangeCipherSpec (cs : CommonState Enc Dec) : Except Error (CommonState Enc Dec) :=
  match cs.allowedMiddleboxCcs with
  | 0 => .error (.peerMisbehaved .illegalMiddleboxChangeCipherSpec)
  | n + 1 => .ok { cs with allowedMiddleboxCcs := n }

/-- `process_alert`. -/
def processAlert (cs : CommonState Enc Dec) (alert : AlertMessagePayload) :
    Except Error Unit × CommonState Enc Dec :=
  match alert.level with
  | .unknown _ =>
    let (err, cs) := cs.sendFatalAlert .illegalParameter (.alertReceived alert.description)
    (.error err, cs)
  | level =>
    -- a close_notify ends the connection cleanly, but only once authenticated
    if cs.mayReceiveApplicationData && alert.description == .closeNotify then
      (.ok (), { cs with hasReceivedCloseNotify := true })
    else if level == .warning then
      match cs.receivedWarningAlert with
      | .error err => (.error err, cs)
      | .ok cs =>
        -- warnings are outlawed in TLS 1.3, but for user_canceled
        if cs.isTls13 && alert.description != .userCanceled then
          let (err, cs) := cs.sendFatalAlert .decodeError (.alertReceived alert.description)
          (.error err, cs)
        else (.ok (), cs)
    else (.error (.alertReceived alert.description), cs)

/-- A close_notify at a known level, once application data may be received,
only sets the flag. -/
theorem processAlert_closeNotify (cs : CommonState Enc Dec) {level : AlertLevel}
    (hlevel : ∀ x, level ≠ .unknown x) (hmay : cs.mayReceiveApplicationData = true) :
    cs.processAlert ⟨level, .closeNotify⟩ = (.ok (), { cs with hasReceivedCloseNotify := true }) := by
  cases level with
  | unknown x => exact absurd rfl (hlevel x)
  | warning => simp [processAlert, hmay]
  | fatal => simp [processAlert, hmay]

end CommonState

end Rustls
