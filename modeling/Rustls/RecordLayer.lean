import Rustls.Msgs.Message

/-!
The record layer of `record_layer.rs`: the message encrypter and decrypter
in use, with their sequence numbers.

`RecordLayer` holds a `Box<dyn MessageEncrypter>` and a
`Box<dyn MessageDecrypter>`; here they are the type parameters `Enc` and
`Dec`, and the operations that call into them take the cipher's `encrypt` or
`decrypt` as an argument, as the trait method would be.  A record layer is
built once and then only ever changed by installing a cipher, which resets
that direction's sequence number, or by running a record through it, which
advances it.

Sequence numbers are `u64`.  `read_seq += 1` and `write_seq += 1` are the
wrapping additions of `UInt64` here; `encrypt_outgoing` refuses long before
the write side could wrap, and the read side would need `2^64` records.
-/

namespace Rustls

/-- `DirectionState`. -/
inductive DirectionState
  | invalid
  | prepared
  | active
  deriving DecidableEq, Repr

/-- `SEQ_SOFT_LIMIT`. -/
def seqSoftLimit : UInt64 := 0xffff_ffff_ffff_0000

/-- `SEQ_HARD_LIMIT`. -/
def seqHardLimit : UInt64 := 0xffff_ffff_ffff_fffe

/-- `RecordLayer`. -/
structure RecordLayer (Enc Dec : Type) where
  messageEncrypter : Enc
  messageDecrypter : Dec
  writeSeqMax : UInt64
  writeSeq : UInt64
  readSeq : UInt64
  hasDecrypted : Bool
  encryptState : DirectionState
  decryptState : DirectionState
  trialDecryptionLen : Option Nat

/-- `PreEncryptAction`. -/
inductive PreEncryptAction
  | nothing
  | refreshOrClose
  | refuse
  deriving DecidableEq, Repr

/-- `Decrypted`. -/
structure Decrypted where
  wantCloseBeforeDecrypt : Bool
  plaintext : InboundPlainMessage
  deriving DecidableEq, Repr

namespace RecordLayer

variable {Enc Dec : Type}

/-- `RecordLayer::new`, with the `invalid()` cipher objects it starts from. -/
def new (invalidEnc : Enc) (invalidDec : Dec) : RecordLayer Enc Dec :=
  ⟨invalidEnc, invalidDec, 0, 0, 0, false, .invalid, .invalid, none⟩

/-- `prepare_message_encrypter`. -/
def prepareMessageEncrypter (rl : RecordLayer Enc Dec) (cipher : Enc) (maxMessages : UInt64) :
    RecordLayer Enc Dec :=
  { rl with messageEncrypter := cipher, writeSeq := 0, writeSeqMax := min seqSoftLimit maxMessages,
            encryptState := .prepared }

/-- `prepare_message_decrypter`. -/
def prepareMessageDecrypter (rl : RecordLayer Enc Dec) (cipher : Dec) : RecordLayer Enc Dec :=
  { rl with messageDecrypter := cipher, readSeq := 0, decryptState := .prepared }

/-- `start_encrypting`. -/
def startEncrypting (rl : RecordLayer Enc Dec) : RecordLayer Enc Dec :=
  { rl with encryptState := .active }

/-- `start_decrypting`. -/
def startDecrypting (rl : RecordLayer Enc Dec) : RecordLayer Enc Dec :=
  { rl with decryptState := .active }

/-- `set_message_encrypter`. -/
def setMessageEncrypter (rl : RecordLayer Enc Dec) (cipher : Enc) (maxMessages : UInt64) :
    RecordLayer Enc Dec :=
  (rl.prepareMessageEncrypter cipher maxMessages).startEncrypting

/-- `set_message_decrypter`. -/
def setMessageDecrypter (rl : RecordLayer Enc Dec) (cipher : Dec) : RecordLayer Enc Dec :=
  { (rl.prepareMessageDecrypter cipher).startDecrypting with trialDecryptionLen := none }

/-- `set_message_decrypter_with_trial_decryption`. -/
def setMessageDecrypterWithTrialDecryption (rl : RecordLayer Enc Dec) (cipher : Dec)
    (maxLength : Nat) : RecordLayer Enc Dec :=
  { (rl.prepareMessageDecrypter cipher).startDecrypting with trialDecryptionLen := some maxLength }

/-- `finish_trial_decryption`. -/
def finishTrialDecryption (rl : RecordLayer Enc Dec) : RecordLayer Enc Dec :=
  { rl with trialDecryptionLen := none }

/-- `pre_encrypt_action`: the first arm compares with `write_seq_max`, the
second with `SEQ_HARD_LIMIT`. -/
def preEncryptAction (rl : RecordLayer Enc Dec) (add : UInt64) : PreEncryptAction :=
  let v := if rl.writeSeq.toNat + add.toNat < 2 ^ 64 then rl.writeSeq + add else UInt64.ofNat (2 ^ 64 - 1)
  if v = rl.writeSeqMax then .refreshOrClose
  else if v ≥ seqHardLimit then .refuse
  else .nothing

/-- `next_pre_encrypt_action`. -/
def nextPreEncryptAction (rl : RecordLayer Enc Dec) : PreEncryptAction :=
  rl.preEncryptAction 0

/-- `is_encrypting`. -/
def isEncrypting (rl : RecordLayer Enc Dec) : Bool :=
  rl.encryptState = .active

/-- `doing_trial_decryption`: a failed record is dropped while what is left of
the allowance covers its length, which is then taken off the allowance. -/
def doingTrialDecryption (rl : RecordLayer Enc Dec) (requested : Nat) :
    Bool × RecordLayer Enc Dec :=
  match rl.trialDecryptionLen with
  | some value =>
    if requested ≤ value then (true, { rl with trialDecryptionLen := some (value - requested) })
    else (false, rl)
  | none => (false, rl)

/-- `decrypt_incoming`, with the decrypter's `decrypt` as `decrypt`.  A record
that arrives before a decrypter is active passes as plaintext; `none` is a
record dropped by trial decryption. -/
def decryptIncoming (decrypt : Dec → InboundOpaqueMessage → UInt64 → Except Error InboundPlainMessage)
    (rl : RecordLayer Enc Dec) (encr : InboundOpaqueMessage) :
    Except Error (Option Decrypted) × RecordLayer Enc Dec :=
  if rl.decryptState ≠ .active then (.ok (some ⟨false, encr.intoPlainMessage⟩), rl)
  else
    let wantCloseBeforeDecrypt := rl.readSeq = seqSoftLimit
    let encryptedLen := encr.payload.length
    match decrypt rl.messageDecrypter encr rl.readSeq with
    | .ok plaintext =>
      (.ok (some ⟨wantCloseBeforeDecrypt, plaintext⟩),
        { rl with readSeq := rl.readSeq + 1, hasDecrypted := true })
    | .error .decryptError =>
      match rl.doingTrialDecryption encryptedLen with
      | (true, rl') => (.ok none, rl')
      | (false, rl') => (.error .decryptError, rl')
    | .error err => (.error err, rl)

/-- `encrypt_outgoing`, with the encrypter's `encrypt` as `encrypt`; `none`
is the panic of its `assert!` or `unwrap`. -/
def encryptOutgoing
    (encrypt : Enc → OutboundPlainMessage → UInt64 → Except Error OutboundOpaqueMessage)
    (rl : RecordLayer Enc Dec) (plain : OutboundPlainMessage) :
    Option (OutboundOpaqueMessage × RecordLayer Enc Dec) :=
  if rl.nextPreEncryptAction = .refuse then none
  else
    let seq := rl.writeSeq
    match encrypt rl.messageEncrypter plain seq with
    | .ok m => some (m, { rl with writeSeq := seq + 1 })
    | .error _ => none

/-! ### What each operation changes -/

/-- A record that the active decrypter opens is passed on, with a request to
close first at the soft limit, and the read side moves to the next sequence
number. -/
theorem decryptIncoming_of_decrypt
    {decrypt : Dec → InboundOpaqueMessage → UInt64 → Except Error InboundPlainMessage}
    {rl : RecordLayer Enc Dec} {encr : InboundOpaqueMessage} {plain : InboundPlainMessage}
    (hactive : rl.decryptState = .active)
    (hdec : decrypt rl.messageDecrypter encr rl.readSeq = .ok plain) :
    rl.decryptIncoming decrypt encr =
      (.ok (some ⟨rl.readSeq = seqSoftLimit, plain⟩),
        { rl with readSeq := rl.readSeq + 1, hasDecrypted := true }) := by
  simp [decryptIncoming, hactive, hdec]

/-- `set_message_encrypter` installs the cipher with a fresh write sequence
and its limit, encrypting at once; the read side is as it was. -/
@[simp] theorem setMessageEncrypter_eq (rl : RecordLayer Enc Dec) (c : Enc) (m : UInt64) :
    rl.setMessageEncrypter c m =
      { rl with messageEncrypter := c, writeSeq := 0, writeSeqMax := min seqSoftLimit m,
                encryptState := .active } := rfl

/-- `set_message_decrypter` installs the cipher with a fresh read sequence,
decrypting at once and without trial decryption; the write side is as it was. -/
@[simp] theorem setMessageDecrypter_eq (rl : RecordLayer Enc Dec) (c : Dec) :
    rl.setMessageDecrypter c =
      { rl with messageDecrypter := c, readSeq := 0, decryptState := .active, trialDecryptionLen := none } := rfl

/-- `set_message_decrypter_with_trial_decryption`: the same, with records up
to `n` bytes that fail to open skipped. -/
@[simp] theorem setMessageDecrypterWithTrialDecryption_eq (rl : RecordLayer Enc Dec) (c : Dec) (n : Nat) :
    rl.setMessageDecrypterWithTrialDecryption c n =
      { rl with messageDecrypter := c, readSeq := 0, decryptState := .active, trialDecryptionLen := some n } :=
  rfl

/-! ### The limits on the write side -/

theorem seqSoftLimit_lt_seqHardLimit : seqSoftLimit < seqHardLimit := by
  decide

/-- With nothing added, `pre_encrypt_action` looks at `write_seq` itself. -/
theorem nextPreEncryptAction_eq (rl : RecordLayer Enc Dec) :
    rl.nextPreEncryptAction =
      if rl.writeSeq = rl.writeSeqMax then .refreshOrClose
      else if rl.writeSeq ≥ seqHardLimit then .refuse else .nothing := by
  have hfit : rl.writeSeq.toNat + (0 : UInt64).toNat < 2 ^ 64 := by
    rw [UInt64.toNat_zero, Nat.add_zero]
    exact UInt64.toNat_lt rl.writeSeq
  simp only [nextPreEncryptAction, preEncryptAction, if_pos hfit, UInt64.add_zero]

/-- While `write_seq_max` is within the soft limit, the `assert!` of
`encrypt_outgoing` holds exactly below the hard limit. -/
theorem nextPreEncryptAction_ne_refuse_iff {rl : RecordLayer Enc Dec}
    (hmax : rl.writeSeqMax ≤ seqSoftLimit) :
    rl.nextPreEncryptAction ≠ .refuse ↔ rl.writeSeq < seqHardLimit := by
  rw [nextPreEncryptAction_eq]
  by_cases heq : rl.writeSeq = rl.writeSeqMax
  · rw [if_pos heq, heq]
    have hlt : rl.writeSeqMax < seqHardLimit := by
      have hsoft := seqSoftLimit_lt_seqHardLimit
      rw [UInt64.lt_iff_toNat_lt] at hsoft ⊢
      rw [UInt64.le_iff_toNat_le] at hmax
      omega
    exact ⟨fun _ => hlt, fun _ => PreEncryptAction.noConfusion⟩
  · rw [if_neg heq]
    by_cases hhard : rl.writeSeq ≥ seqHardLimit
    · rw [if_pos hhard]
      exact ⟨fun h => absurd rfl h, fun h => absurd hhard (UInt64.not_le.mpr h)⟩
    · rw [if_neg hhard]
      exact ⟨fun _ => UInt64.not_le.mp hhard, fun _ => PreEncryptAction.noConfusion⟩

/-- `encrypt_outgoing` goes through exactly when its `assert!` holds and the
cipher seals: at `write_seq`, which then moves on by one. -/
theorem encryptOutgoing_eq_some
    {encrypt : Enc → OutboundPlainMessage → UInt64 → Except Error OutboundOpaqueMessage}
    {rl rl' : RecordLayer Enc Dec} {plain : OutboundPlainMessage} {em : OutboundOpaqueMessage} :
    rl.encryptOutgoing encrypt plain = some (em, rl') ↔
      rl.nextPreEncryptAction ≠ .refuse ∧ encrypt rl.messageEncrypter plain rl.writeSeq = .ok em ∧
        rl' = { rl with writeSeq := rl.writeSeq + 1 } := by
  unfold encryptOutgoing
  by_cases hrefuse : rl.nextPreEncryptAction = .refuse
  · simp [hrefuse]
  · rw [if_neg hrefuse]
    cases hencrypt : encrypt rl.messageEncrypter plain rl.writeSeq with
    | error e => simp [hencrypt]
    | ok m => simp [hencrypt, hrefuse, eq_comm]

/-- With `write_seq_max` within the soft limit, `pre_encrypt_action(f)`
refuses exactly when `write_seq + f` reaches the hard limit. -/
theorem preEncryptAction_ne_refuse_iff {rl : RecordLayer Enc Dec} (hmax : rl.writeSeqMax ≤ seqSoftLimit)
    {f : Nat} (hf : f < 2 ^ 64) :
    rl.preEncryptAction (UInt64.ofNat f) ≠ .refuse ↔ rl.writeSeq.toNat + f < seqHardLimit.toNat := by
  have hsoft : seqSoftLimit.toNat = 2 ^ 64 - 2 ^ 16 := by decide
  have hhard : seqHardLimit.toNat = 2 ^ 64 - 2 := by decide
  have hofNat : (UInt64.ofNat f).toNat = f := by
    rw [UInt64.toNat_ofNat', Nat.mod_eq_of_lt hf]
  rw [UInt64.le_iff_toNat_le, hsoft] at hmax
  unfold preEncryptAction
  by_cases hfit : rl.writeSeq.toNat + (UInt64.ofNat f).toNat < 2 ^ 64
  · have hsum : (rl.writeSeq + UInt64.ofNat f).toNat = rl.writeSeq.toNat + f := by
      rw [hofNat] at hfit
      rw [UInt64.toNat_add, hofNat]
      omega
    simp only [if_pos hfit]
    by_cases heq : rl.writeSeq + UInt64.ofNat f = rl.writeSeqMax
    · have hnat := congrArg UInt64.toNat heq
      rw [hsum] at hnat
      rw [if_pos heq]
      exact ⟨fun _ => by omega, fun _ => PreEncryptAction.noConfusion⟩
    · rw [if_neg heq]
      by_cases hge : rl.writeSeq + UInt64.ofNat f ≥ seqHardLimit
      · have hnat : seqHardLimit.toNat ≤ rl.writeSeq.toNat + f := by
          rw [ge_iff_le, UInt64.le_iff_toNat_le, hsum] at hge
          exact hge
        rw [if_pos hge]
        exact ⟨fun h => absurd rfl h, fun h => absurd h (by omega)⟩
      · have hnat : rl.writeSeq.toNat + f < seqHardLimit.toNat := by
          rw [ge_iff_le, UInt64.le_iff_toNat_le, hsum] at hge
          omega
        rw [if_neg hge]
        exact ⟨fun _ => hnat, fun _ => PreEncryptAction.noConfusion⟩
  · -- the addition saturates, far past the hard limit
    simp only [if_neg hfit]
    rw [hofNat] at hfit
    have hne : ¬ UInt64.ofNat (2 ^ 64 - 1) = rl.writeSeqMax := by
      intro heq
      have hnat := congrArg UInt64.toNat heq
      rw [UInt64.toNat_ofNat'] at hnat
      omega
    have hge : UInt64.ofNat (2 ^ 64 - 1) ≥ seqHardLimit := by
      decide
    rw [if_neg hne, if_pos hge]
    exact ⟨fun h => absurd rfl h, fun h => absurd h (by omega)⟩

/-- When every offset below `n` passed the check, so do the next `n`
sequence numbers: the first one at the hard limit would have been refused. -/
theorem add_le_seqHardLimit_of_forall {rl : RecordLayer Enc Dec} (hmax : rl.writeSeqMax ≤ seqSoftLimit)
    {n : Nat} (hn : 0 < n) (hchecked : ∀ f < n, rl.preEncryptAction (UInt64.ofNat f) ≠ .refuse) :
    rl.writeSeq.toNat + n ≤ seqHardLimit.toNat := by
  have hhard : seqHardLimit.toNat = 2 ^ 64 - 2 := by decide
  by_contra hgt
  have hf : seqHardLimit.toNat - rl.writeSeq.toNat < n := by omega
  have hbelow := (preEncryptAction_ne_refuse_iff hmax (by omega)).mp (hchecked _ hf)
  omega

/-- `RefreshOrClose` at any offset means `write_seq` itself is below the hard
limit: the offset lands on `write_seq_max`. -/
theorem writeSeq_lt_of_preEncryptAction_eq {rl : RecordLayer Enc Dec} (hmax : rl.writeSeqMax ≤ seqSoftLimit)
    {add : UInt64} (h : rl.preEncryptAction add = .refreshOrClose) : rl.writeSeq < seqHardLimit := by
  have hsoft : seqSoftLimit.toNat = 2 ^ 64 - 2 ^ 16 := by decide
  have hhard : seqHardLimit.toNat = 2 ^ 64 - 2 := by decide
  rw [UInt64.le_iff_toNat_le, hsoft] at hmax
  rw [UInt64.lt_iff_toNat_lt, hhard]
  unfold preEncryptAction at h
  by_cases hfit : rl.writeSeq.toNat + add.toNat < 2 ^ 64
  · simp only [if_pos hfit] at h
    by_cases heq : rl.writeSeq + add = rl.writeSeqMax
    · have hnat := congrArg UInt64.toNat heq
      rw [UInt64.toNat_add] at hnat
      omega
    · rw [if_neg heq] at h
      split at h <;> cases h
  · simp only [if_neg hfit] at h
    have hne : ¬ UInt64.ofNat (2 ^ 64 - 1) = rl.writeSeqMax := by
      intro heq
      have hnat := congrArg UInt64.toNat heq
      rw [UInt64.toNat_ofNat'] at hnat
      omega
    rw [if_neg hne] at h
    split at h <;> cases h

end RecordLayer

end Rustls
