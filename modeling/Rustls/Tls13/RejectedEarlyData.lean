import Rustls.RecordLayer.Trial
import Rustls.Tls13.Epochs
import Rustls.Crypto.Ring.Tls13

/-!
What a TLS 1.3 server that rejects 0-RTT makes of the early data the client
has already sent.

The client sends early data before it learns whether the server takes it:
`send_early_plaintext` cuts it into fragments, and `encrypt_outgoing` seals
each one under the client's early traffic secret with the TLS 1.3 record
encrypter, which adds the inner content type byte and the AEAD tag
(`Tls13MessageEncrypter::encrypted_payload_len`).  A server that rejects it
(`EarlyDataDecision::RequestedButRejected` in `handle_client_hello`) reads on
with the client's handshake secret under trial decryption, allowing the
`max_early_data_size` of its configuration: the number its tickets announce,
and the one the client's `EarlyData` counts against.

The two ends count differently.  The client counts plaintext
(`check_write_opt`); trial decryption counts sealed payloads
(`decrypt_incoming`).  The server skips the client's early data exactly when
the sealed records fit; otherwise it answers a record with `DecryptError`,
which the connection turns into a fatal `bad_record_mac` alert.  Every record
adds at least its content type byte, so a client that sends all the early
data its ticket allows is refused (`rejected_early_data_skipped_iff`).
-/

namespace Rustls

variable {E K : Type}

/-- The TLS 1.3 record encrypter of ring under the key and IV a traffic
secret gives (`derive_traffic_key`, `derive_traffic_iv`, here `keyOf` and
`ivOf`). -/
def tls13Encrypt (alg : Aead.Cipher K) (keyOf : List UInt8 → K) (ivOf : List UInt8 → Iv)
    (secret : List UInt8) (msg : OutboundPlainMessage) (seq : UInt64) : Except Error OutboundOpaqueMessage :=
  .ok (Tls13MessageEncrypter.encrypt ⟨alg, keyOf secret, ivOf secret⟩ msg seq)

/-- A record as the peer's deframer reads it back: its type, version and
payload (`deframerIter_round_trip`). -/
def OutboundOpaqueMessage.received (m : OutboundOpaqueMessage) : InboundOpaqueMessage :=
  ⟨m.typ, m.version, m.payload⟩

/-- Every record `encrypt_outgoing` seals is its fragment with the content
type byte and the tag. -/
theorem length_sealed {alg : Aead.Cipher K} (hc : alg.Correct) {keyOf : List UInt8 → K}
    {ivOf : List UInt8 → Iv} {rl rl' : SecretRecordLayer} {fragments : List OutboundPlainMessage}
    {records : List OutboundOpaqueMessage}
    (h : Budget.run (fun rl msg => rl.encryptOutgoing (tls13Encrypt alg keyOf ivOf) msg) rl fragments =
      some (records, rl')) :
    (records.map OutboundOpaqueMessage.received).map (·.payload.length) =
      fragments.map fun m => m.payload.length + 1 + alg.tagLen := by
  have hpairs : List.Forall₂ (fun m r => r.received.payload.length = m.payload.length + 1 + alg.tagLen)
      fragments records := Budget.forall₂_run
    (fun rl m r rl' hseal => by
      obtain ⟨-, hencrypt, -⟩ := RecordLayer.encryptOutgoing_eq_some.mp hseal
      cases hencrypt
      exact Tls13MessageEncrypter.length_encrypt hc m rl.writeSeq) h
  clear h
  rw [List.map_map]
  induction hpairs with
  | nil => rfl
  | cons hlen _ ih => rw [List.map_cons, List.map_cons, ← ih, Function.comp_apply, hlen]

/-- Sealing adds the content type byte and the tag to every fragment. -/
theorem sum_sealed (fragments : List OutboundPlainMessage) (tagLen : Nat) :
    (fragments.map fun m => m.payload.length + 1 + tagLen).sum =
      (fragments.map (·.payload.length)).sum + fragments.length * (1 + tagLen) := by
  induction fragments with
  | nil => simp
  | cons m fragments ih =>
    simp only [List.map_cons, List.sum_cons, List.length_cons, ih]
    ring

namespace Tls13Handshake

variable (h : Tls13Handshake E)

/-- A server that rejects the client's early data reads on with the client's
handshake secret, under trial decryption with its `max_early_data_size`. -/
theorem serverRun_earlyData_of_rejected (hearly : h.earlyData = true) (hrejected : h.earlyDataAccepted = false)
    (rl : SecretRecordLayer) :
    (h.serverRun rl).earlyData.decryptState = .active ∧
      (h.serverRun rl).earlyData.trialDecryptionLen = some (maxEarlyDataSize h.configMaxEarlyDataSize) ∧
      (h.serverRun rl).earlyData.messageDecrypter = h.handshakeSchedule.clientHandshakeTrafficSecret := by
  obtain ⟨hks, -, -⟩ := h.serverHello_spec rl
  have hdecision : h.earlyDataDecision = .requestedButRejected := by
    simp [earlyDataDecision, hearly, hrejected]
  have hlayer : (h.serverRun rl).earlyData =
      (h.serverHello rl).2.setMessageDecrypterWithTrialDecryption h.handshakeSchedule.clientHandshakeTrafficSecret
        (maxEarlyDataSize h.configMaxEarlyDataSize) := by
    simp only [serverRun, serverEarlyDataDecision, hdecision, hks, KeyScheduleHandshake.setHandshakeDecrypter]
  rw [hlayer]
  exact ⟨rfl, rfl, rfl⟩

/-- **A rejecting server skips the client's early data exactly when the
sealed records fit its allowance.**  Let the client seal fragments of early
data through `encrypt_outgoing` with ring's TLS 1.3 encrypter, and let the
server, having rejected early data, read the records with a decrypter under
the client's handshake secret that refuses them.  Then every record is
dropped exactly when the fragments, each with its content type byte and tag,
add up to at most `max_early_data_size`; every record that is not dropped is
answered with `DecryptError`; so early data that fills the allowance is
refused. -/
theorem rejected_early_data_skipped_iff {alg : Aead.Cipher K} (hc : alg.Correct)
    (keyOf : List UInt8 → K) (ivOf : List UInt8 → Iv)
    (decrypt : List UInt8 → InboundOpaqueMessage → UInt64 → Except Error InboundPlainMessage)
    (crl srl : SecretRecordLayer) (fragments : List OutboundPlainMessage) {crl' srl' : SecretRecordLayer}
    {records : List OutboundOpaqueMessage} {outs : List (Option (Except Error (Option Decrypted)))}
    (hearly : h.earlyData = true) (hrejected : h.earlyDataAccepted = false)
    (hsend : Budget.run (fun rl msg => rl.encryptOutgoing (tls13Encrypt alg keyOf ivOf) msg)
      (h.clientRun crl).earlyData fragments = some (records, crl'))
    (hrefused : ∀ r ∈ records, ∀ seq,
      decrypt h.handshakeSchedule.clientHandshakeTrafficSecret r.received seq = .error .decryptError)
    (hread : Budget.run (RecordLayer.readStep decrypt) (h.serverRun srl).earlyData
      ((records.map OutboundOpaqueMessage.received).map .decryptIncoming) = some (outs, srl')) :
    ((∀ out ∈ outs, out = some (.ok none)) ↔
        (fragments.map fun m => m.payload.length + 1 + alg.tagLen).sum ≤ maxEarlyDataSize h.configMaxEarlyDataSize) ∧
      (∀ out ∈ outs, out = some (.ok none) ∨ out = some (.error .decryptError)) ∧
      (fragments ≠ [] → maxEarlyDataSize h.configMaxEarlyDataSize ≤ (fragments.map (·.payload.length)).sum →
        some (.error .decryptError) ∈ outs) := by
  obtain ⟨hactive, htrial, hdecrypter⟩ := h.serverRun_earlyData_of_rejected hearly hrejected srl
  have hfail : ∀ r ∈ records.map OutboundOpaqueMessage.received, ∀ seq,
      decrypt (h.serverRun srl).earlyData.messageDecrypter r seq = .error .decryptError := by
    intro r hr seq
    obtain ⟨r', hr', rfl⟩ := List.mem_map.mp hr
    rw [hdecrypter]
    exact hrefused r' hr' seq
  obtain ⟨hiff, herrors⟩ := RecordLayer.run_refused_records decrypt hactive htrial hfail hread
  rw [length_sealed hc hsend] at hiff
  refine ⟨hiff, herrors, fun hnonempty hfull => ?_⟩
  -- not all records fit, and the one that does not is answered with an error
  have hover : ¬ (fragments.map fun m => m.payload.length + 1 + alg.tagLen).sum ≤
      maxEarlyDataSize h.configMaxEarlyDataSize := by
    have hlen : 0 < fragments.length := List.length_pos_iff.mpr hnonempty
    rw [sum_sealed]
    have hk : fragments.length ≤ fragments.length * (1 + alg.tagLen) :=
      Nat.le_mul_of_pos_right _ (by omega)
    omega
  obtain ⟨out, hout, hkept⟩ : ∃ out ∈ outs, out ≠ some (.ok none) := by
    by_contra hnone
    exact hover (hiff.mp fun out hout => by_contra fun hkept => hnone ⟨out, hout, hkept⟩)
  rcases herrors out hout with hdropped | herror
  · exact absurd hdropped hkept
  · exact herror ▸ hout

end Tls13Handshake

/-- A resumption whose early data the server rejects, with four bytes of early
data allowed. -/
def rejectedHandshake : Tls13Handshake Unit :=
  { resumedHandshake with earlyDataAccepted := false, configMaxEarlyDataSize := 4
                          early_data_accepted := fun h => Bool.noConfusion h }

/-- The client's early data: all four bytes it may send, in one record. -/
def fourBytesOfEarlyData : List OutboundPlainMessage :=
  [⟨.applicationData, .tlsv1_2, [1, 2, 3, 4]⟩]

theorem four_bytes_of_early_data_refused :
    ((∀ out ∈ ([some (.error .decryptError)] : List (Option (Except Error (Option Decrypted)))),
          out = some (.ok none)) ↔
        (fourBytesOfEarlyData.map fun m => m.payload.length + 1 + (Aead.marking [] []).tagLen).sum ≤
          maxEarlyDataSize rejectedHandshake.configMaxEarlyDataSize) ∧
      (∀ out ∈ ([some (.error .decryptError)] : List (Option (Except Error (Option Decrypted)))),
        out = some (.ok none) ∨ out = some (.error .decryptError)) ∧
      (fourBytesOfEarlyData ≠ [] →
        maxEarlyDataSize rejectedHandshake.configMaxEarlyDataSize ≤
          (fourBytesOfEarlyData.map (·.payload.length)).sum →
        some (.error .decryptError) ∈
          ([some (.error .decryptError)] : List (Option (Except Error (Option Decrypted))))) :=
  rejectedHandshake.rejected_early_data_skipped_iff (Aead.marking_correct [] []) (fun _ => ())
    (fun _ => ⟨List.replicate 12 0, rfl⟩) (fun _ _ _ => .error .decryptError) idleRecordLayer idleRecordLayer
    fourBytesOfEarlyData rfl rfl rfl (fun _ _ _ => rfl) rfl

end Rustls
