import Rustls.RecordLayer
import Rustls.Lib.Budget

/-!
Trial decryption in the record layer of `record_layer.rs`: how the read side
skips records it cannot open.

A TLS 1.3 server that rejects the client's early data still receives it, as
the client sent it under the early traffic key before it knew.  RFC 8446,
section 4.2.10, lets the server skip the records that fail to deprotect, up to
`max_early_data_size`.  `set_message_decrypter_with_trial_decryption` installs
the handshake decrypter with that allowance; `decrypt_incoming` drops a record
that fails with `DecryptError` while the allowance still covers its payload,
and takes the payload's length off; `finish_trial_decryption`, called at the
first handshake message, and `set_message_decrypter` end it.

Over any run of the read side, with records coming in and decrypters
installed in any order, the payloads of the records dropped add up to at most
the allowances installed; and once trial decryption has ended, no record is
dropped until it is installed again (`trial_decryption_within_allowance`).
-/

namespace Rustls

namespace RecordLayer

/-- What happens to the read side of a record layer: a record comes in, a
decrypter is prepared, started or installed, with trial decryption or
without, or trial decryption ends. -/
inductive ReadEvent (Dec : Type)
  | decryptIncoming (encr : InboundOpaqueMessage)
  | prepareMessageDecrypter (cipher : Dec)
  | startDecrypting
  | setMessageDecrypter (cipher : Dec)
  | setMessageDecrypterWithTrialDecryption (cipher : Dec) (maxLength : Nat)
  | finishTrialDecryption

namespace ReadEvent

variable {Dec : Type}

/-- The allowance an event installs. -/
def allowance : ReadEvent Dec → Nat
  | .setMessageDecrypterWithTrialDecryption _ maxLength => maxLength
  | _ => 0

/-- The payload of the record an event dropped. -/
def dropped : ReadEvent Dec → Option (Except Error (Option Decrypted)) → Nat
  | .decryptIncoming encr, some (.ok none) => encr.payload.length
  | _, _ => 0

/-- The event turns trial decryption on. -/
def InstallsTrial : ReadEvent Dec → Prop
  | .setMessageDecrypterWithTrialDecryption _ _ => True
  | _ => False

/-- The event turns trial decryption off. -/
def EndsTrial : ReadEvent Dec → Prop
  | .setMessageDecrypter _ | .finishTrialDecryption => True
  | _ => False

end ReadEvent

variable {Enc Dec : Type}
  (decrypt : Dec → InboundOpaqueMessage → UInt64 → Except Error InboundPlainMessage)

/-- One read-side event; a record returns what `decrypt_incoming` returns. -/
def readStep (rl : RecordLayer Enc Dec) :
    ReadEvent Dec → Option (Option (Except Error (Option Decrypted)) × RecordLayer Enc Dec)
  | .decryptIncoming encr =>
    let (result, rl) := rl.decryptIncoming decrypt encr
    some (some result, rl)
  | .prepareMessageDecrypter cipher => some (none, rl.prepareMessageDecrypter cipher)
  | .startDecrypting => some (none, rl.startDecrypting)
  | .setMessageDecrypter cipher => some (none, rl.setMessageDecrypter cipher)
  | .setMessageDecrypterWithTrialDecryption cipher maxLength =>
    some (none, rl.setMessageDecrypterWithTrialDecryption cipher maxLength)
  | .finishTrialDecryption => some (none, rl.finishTrialDecryption)

/-- What is left of the trial decryption allowance. -/
def trialAllowance (rl : RecordLayer Enc Dec) : Nat :=
  rl.trialDecryptionLen.getD 0

/-! ### What one record does -/

/-- `doing_trial_decryption` says yes only when the allowance covers the
record, and then takes the record off it. -/
theorem doingTrialDecryption_eq_true {rl rl' : RecordLayer Enc Dec} {requested : Nat}
    (h : rl.doingTrialDecryption requested = (true, rl')) :
    ∃ left, rl.trialDecryptionLen = some left ∧ requested ≤ left ∧
      rl' = { rl with trialDecryptionLen := some (left - requested) } := by
  unfold doingTrialDecryption at h
  rcases hlen : rl.trialDecryptionLen with _ | left
  · rw [hlen] at h
    cases h
  · rw [hlen] at h
    dsimp only at h
    by_cases hfit : requested ≤ left
    · rw [if_pos hfit] at h
      cases h
      exact ⟨left, rfl, hfit, rfl⟩
    · rw [if_neg hfit] at h
      cases h

/-- When `doing_trial_decryption` says no, the allowance did not cover the
record, and nothing changes. -/
theorem doingTrialDecryption_eq_false {rl rl' : RecordLayer Enc Dec} {requested : Nat}
    (h : rl.doingTrialDecryption requested = (false, rl')) :
    rl' = rl ∧ ∀ left, rl.trialDecryptionLen = some left → left < requested := by
  unfold doingTrialDecryption at h
  rcases hlen : rl.trialDecryptionLen with _ | left
  · rw [hlen] at h
    cases h
    exact ⟨rfl, fun _ hsome => by cases hsome⟩
  · rw [hlen] at h
    dsimp only at h
    by_cases hfit : requested ≤ left
    · rw [if_pos hfit] at h
      cases h
    · rw [if_neg hfit] at h
      cases h
      refine ⟨rfl, fun left' hleft' => ?_⟩
      cases hleft'
      omega

/-- Everything `decrypt_incoming` can do.  Before a decrypter is active the
record passes as plaintext.  A record that opens is passed on and moves the
read sequence on.  A record that fails with `DecryptError` is dropped when
trial decryption covers its payload, which is taken off the allowance.  Any
other failure is passed up with nothing changed; a `DecryptError` among them
only when trial decryption could not cover the record. -/
theorem decryptIncoming_cases (rl : RecordLayer Enc Dec) (encr : InboundOpaqueMessage) :
    (rl.decryptState ≠ .active ∧
        rl.decryptIncoming decrypt encr = (.ok (some ⟨false, encr.intoPlainMessage⟩), rl)) ∨
      (rl.decryptState = .active ∧ ∃ plain, decrypt rl.messageDecrypter encr rl.readSeq = .ok plain ∧
        rl.decryptIncoming decrypt encr = (.ok (some ⟨rl.readSeq = seqSoftLimit, plain⟩),
          { rl with readSeq := rl.readSeq + 1, hasDecrypted := true })) ∨
      (rl.decryptState = .active ∧ decrypt rl.messageDecrypter encr rl.readSeq = .error .decryptError ∧
        ∃ left, rl.trialDecryptionLen = some left ∧ encr.payload.length ≤ left ∧
          rl.decryptIncoming decrypt encr =
            (.ok none, { rl with trialDecryptionLen := some (left - encr.payload.length) })) ∨
      (rl.decryptState = .active ∧ ∃ err, decrypt rl.messageDecrypter encr rl.readSeq = .error err ∧
        rl.decryptIncoming decrypt encr = (.error err, rl) ∧
        (err = .decryptError → ∀ left, rl.trialDecryptionLen = some left → left < encr.payload.length)) := by
  by_cases hactive : rl.decryptState = .active
  · rcases hdec : decrypt rl.messageDecrypter encr rl.readSeq with err | plain
    · by_cases herr : err = .decryptError
      · subst herr
        rcases htrial : rl.doingTrialDecryption encr.payload.length with ⟨_ | _, rl'⟩
        · -- the allowance does not cover the record: the error goes up
          obtain ⟨rfl, hshort⟩ := doingTrialDecryption_eq_false htrial
          refine Or.inr (Or.inr (Or.inr ⟨hactive, .decryptError, rfl, ?_, fun _ => hshort⟩))
          simp [decryptIncoming, hactive, hdec, htrial]
        · -- trial decryption drops it
          obtain ⟨left, hlen, hfit, rfl⟩ := doingTrialDecryption_eq_true htrial
          refine Or.inr (Or.inr (Or.inl ⟨hactive, rfl, left, hlen, hfit, ?_⟩))
          simp [decryptIncoming, hactive, hdec, htrial]
      · refine Or.inr (Or.inr (Or.inr ⟨hactive, err, rfl, ?_, fun he => absurd he herr⟩))
        unfold decryptIncoming
        rw [if_neg (not_not.mpr hactive)]
        dsimp only
        rw [hdec]
        split
        · rename_i hbad
          cases hbad
        · rename_i hbad
          exact absurd (Except.error.inj hbad) herr
        · rename_i hbad
          cases hbad
          rfl
    · exact Or.inr (Or.inl ⟨hactive, plain, rfl, by simp [decryptIncoming, hactive, hdec]⟩)
  · exact Or.inl ⟨hactive, by simp [decryptIncoming, hactive]⟩

/-- Every read-side event pays for the record it drops out of the allowance
left and the allowance it installs. -/
theorem readStep_pays :
    Budget.Pays (@readStep Enc Dec decrypt) trialAllowance ReadEvent.allowance ReadEvent.dropped := by
  intro rl ev out rl' h
  cases ev with
  | decryptIncoming encr =>
    simp only [readStep, Option.some.injEq] at h
    rcases decryptIncoming_cases decrypt rl encr with ⟨-, hrl⟩ | ⟨-, plain, -, hrl⟩ |
      ⟨-, -, left, hlen, hfit, hrl⟩ | ⟨-, err, -, hrl, -⟩
    all_goals
      rw [hrl] at h
      obtain ⟨rfl, rfl⟩ := Prod.mk.inj h
    · simp [ReadEvent.dropped, ReadEvent.allowance]
    · simp [ReadEvent.dropped, ReadEvent.allowance, trialAllowance]
    · simp only [ReadEvent.dropped, ReadEvent.allowance, trialAllowance, hlen, Option.getD_some]
      omega
    · cases err <;> simp [ReadEvent.dropped, ReadEvent.allowance]
  | prepareMessageDecrypter cipher =>
    cases h
    simp [ReadEvent.dropped, ReadEvent.allowance, trialAllowance, prepareMessageDecrypter]
  | startDecrypting =>
    cases h
    simp [ReadEvent.dropped, ReadEvent.allowance, trialAllowance, startDecrypting]
  | setMessageDecrypter cipher =>
    cases h
    simp [ReadEvent.dropped, ReadEvent.allowance, trialAllowance]
  | setMessageDecrypterWithTrialDecryption cipher maxLength =>
    cases h
    simp [ReadEvent.dropped, ReadEvent.allowance, trialAllowance]
  | finishTrialDecryption =>
    cases h
    simp [ReadEvent.dropped, ReadEvent.allowance, trialAllowance, finishTrialDecryption]

/-- With trial decryption off, no event but installing it turns it on, and no
record is dropped. -/
theorem readStep_of_trial_off {rl rl' : RecordLayer Enc Dec} {ev : ReadEvent Dec}
    {out : Option (Except Error (Option Decrypted))} (hinstall : ¬ ev.InstallsTrial)
    (hoff : rl.trialDecryptionLen = none) (h : readStep decrypt rl ev = some (out, rl')) :
    out ≠ some (.ok none) ∧ rl'.trialDecryptionLen = none := by
  cases ev with
  | decryptIncoming encr =>
    simp only [readStep, Option.some.injEq] at h
    rcases decryptIncoming_cases decrypt rl encr with ⟨-, hrl⟩ | ⟨-, plain, -, hrl⟩ |
      ⟨-, -, left, hlen, -, -⟩ | ⟨-, err, -, hrl, -⟩
    · rw [hrl] at h
      obtain ⟨rfl, rfl⟩ := Prod.mk.inj h
      exact ⟨by simp, hoff⟩
    · rw [hrl] at h
      obtain ⟨rfl, rfl⟩ := Prod.mk.inj h
      exact ⟨by simp, hoff⟩
    · -- a record is dropped only under trial decryption
      rw [hoff] at hlen
      cases hlen
    · rw [hrl] at h
      obtain ⟨rfl, rfl⟩ := Prod.mk.inj h
      exact ⟨by simp, hoff⟩
  | prepareMessageDecrypter cipher =>
    cases h
    exact ⟨by simp, hoff⟩
  | startDecrypting =>
    cases h
    exact ⟨by simp, hoff⟩
  | setMessageDecrypter cipher =>
    cases h
    exact ⟨by simp, rfl⟩
  | setMessageDecrypterWithTrialDecryption cipher maxLength => exact absurd trivial hinstall
  | finishTrialDecryption =>
    cases h
    exact ⟨by simp, rfl⟩

/-- `set_message_decrypter` and `finish_trial_decryption` turn trial
decryption off. -/
theorem trial_off_of_endsTrial {rl rl' : RecordLayer Enc Dec} {ev : ReadEvent Dec}
    {out : Option (Except Error (Option Decrypted))} (hends : ev.EndsTrial)
    (h : readStep decrypt rl ev = some (out, rl')) : rl'.trialDecryptionLen = none := by
  cases ev with
  | setMessageDecrypter cipher =>
    cases h
    rfl
  | finishTrialDecryption =>
    cases h
    rfl
  | _ => exact hends.elim

/-! ### Whole runs -/

/-- Records that the decrypter in place refuses, read under trial decryption
with `left` bytes allowed: all are dropped exactly when their payloads fit in
`left`, and any that is not dropped is answered with `DecryptError`. -/
theorem run_refused_records {rl rl' : RecordLayer Enc Dec} {records : List InboundOpaqueMessage}
    {outs : List (Option (Except Error (Option Decrypted)))} {left : Nat}
    (hactive : rl.decryptState = .active) (htrial : rl.trialDecryptionLen = some left)
    (hfail : ∀ r ∈ records, ∀ seq, decrypt rl.messageDecrypter r seq = .error .decryptError)
    (h : Budget.run (readStep decrypt) rl (records.map .decryptIncoming) = some (outs, rl')) :
    ((∀ out ∈ outs, out = some (.ok none)) ↔ (records.map (·.payload.length)).sum ≤ left) ∧
      ∀ out ∈ outs, out = some (.ok none) ∨ out = some (.error .decryptError) := by
  -- induction on the records, with the allowance left and the record layer free
  induction records generalizing rl outs left with
  | nil =>
    cases h
    simp
  | cons r records ih =>
    obtain ⟨out, u, outs', hstep, hrest, rfl⟩ := Budget.run_cons_eq_some.mp h
    have hr := hfail r List.mem_cons_self rl.readSeq
    have hlater : ∀ r' ∈ records, ∀ seq, decrypt rl.messageDecrypter r' seq = .error .decryptError :=
      fun r' hr' => hfail r' (List.mem_cons_of_mem r hr')
    simp only [readStep, Option.some.injEq] at hstep
    rcases decryptIncoming_cases decrypt rl r with ⟨hinactive, -⟩ | ⟨-, plain, hplain, -⟩ |
      ⟨-, -, left', hlen, hfit, hrl⟩ | ⟨-, err, herr, hrl, hshort⟩
    · exact absurd hactive hinactive
    · rw [hr] at hplain
      cases hplain
    · -- the first record is dropped, and the rest is read with what is left
      rw [hrl] at hstep
      simp only [Prod.mk.injEq] at hstep
      obtain ⟨rfl, rfl⟩ := hstep
      rw [htrial] at hlen
      cases hlen
      obtain ⟨hiff, herrors⟩ :=
        @ih { rl with trialDecryptionLen := some (left - r.payload.length) } _ _ hactive rfl hlater hrest
      refine ⟨?_, ?_⟩
      · simp only [List.mem_cons, forall_eq_or_imp, true_and, hiff, List.map_cons, List.sum_cons]
        omega
      · intro o ho
        rcases List.mem_cons.mp ho with rfl | ho
        · exact Or.inl rfl
        · exact herrors o ho
    · -- the first record is too long for the allowance: it is answered with an error
      rw [hrl] at hstep
      simp only [Prod.mk.injEq] at hstep
      obtain ⟨rfl, rfl⟩ := hstep
      rw [hr] at herr
      cases herr
      have htoo := hshort rfl left htrial
      obtain ⟨-, herrors⟩ := ih hactive htrial hlater hrest
      refine ⟨?_, ?_⟩
      · simp only [List.mem_cons, forall_eq_or_imp, List.map_cons, List.sum_cons]
        constructor
        · rintro ⟨hbad, -⟩
          cases hbad
        · intro hfits
          omega
      · intro o ho
        rcases List.mem_cons.mp ho with rfl | ho
        · exact Or.inr rfl
        · exact herrors o ho

/-- **Trial decryption keeps to its allowance.**  Over any run of the read
side, with records coming in and decrypters installed in any order, the
payloads of the records dropped, and the allowance left, add up to at most the
allowance at the start and those installed.  And once `set_message_decrypter`
or `finish_trial_decryption` has ended trial decryption, no record is dropped
until it is installed again: a record that fails is passed up. -/
theorem trial_decryption_within_allowance {rl rl' : RecordLayer Enc Dec} {events : List (ReadEvent Dec)}
    {outs : List (Option (Except Error (Option Decrypted)))}
    (h : Budget.run (readStep decrypt) rl events = some (outs, rl')) :
    ((events.zip outs).map fun p => p.1.dropped p.2).sum + rl'.trialAllowance ≤
        rl.trialAllowance + (events.map ReadEvent.allowance).sum ∧
      (∀ pre ev post, events = pre ++ ev :: post → ev.EndsTrial → (∀ ev' ∈ post, ¬ ev'.InstallsTrial) →
        some (.ok none) ∉ outs.drop (pre.length + 1)) := by
  refine ⟨(readStep_pays decrypt).run h, ?_⟩
  intro pre ev post hevents hends hpost hdropped
  rw [hevents] at h
  obtain ⟨outs₁, outs₂, u, hpre, hrest, rfl⟩ := Budget.run_append_eq_some h
  obtain ⟨out, u', outs', hstep, hrun, rfl⟩ := Budget.run_cons_eq_some.mp hrest
  have hdrop : (outs₁ ++ out :: outs').drop (pre.length + 1) = outs' := by
    rw [← Budget.length_run hpre, List.drop_append, List.drop_of_length_le (by omega),
      Nat.add_sub_cancel_left]
    rfl
  rw [hdrop] at hdropped
  -- from the end of trial decryption on, it stays off and drops nothing
  have hkeep : Budget.Keeps (@readStep Enc Dec decrypt) (fun ev' => ¬ ev'.InstallsTrial)
      (fun rl => rl.trialDecryptionLen = none) :=
    fun _ _ _ _ hinstall hoff hs => (readStep_of_trial_off decrypt hinstall hoff hs).2
  have hkept : ∀ o ∈ outs', o ≠ some (.ok none) :=
    hkeep.forall_mem (fun _ _ _ _ hinstall hoff hs => (readStep_of_trial_off decrypt hinstall hoff hs).1)
      hpost (trial_off_of_endsTrial decrypt hends hstep) hrun
  exact hkept _ hdropped rfl

/-- A decrypter that opens nothing. -/
def refusingDecrypt : Unit → InboundOpaqueMessage → UInt64 → Except Error InboundPlainMessage :=
  fun _ _ _ => .error .decryptError

/-- Trial decryption with twenty bytes allowed: a record of seventeen is
dropped; once trial decryption has ended, a record of one byte is answered
with an error. -/
def skippedThenRefused : List (ReadEvent Unit) :=
  [.setMessageDecrypterWithTrialDecryption () 20, .decryptIncoming ⟨.applicationData, .tlsv1_2, List.replicate 17 0⟩,
    .finishTrialDecryption, .decryptIncoming ⟨.applicationData, .tlsv1_2, [0]⟩]

theorem skipped_then_refused_within_allowance :
    ((skippedThenRefused.zip [none, some (.ok none), none, some (.error .decryptError)]).map
          fun p => p.1.dropped p.2).sum +
        trialAllowance ({ RecordLayer.new () () with decryptState := .active } : RecordLayer Unit Unit) ≤
        trialAllowance (RecordLayer.new () () : RecordLayer Unit Unit) +
          (skippedThenRefused.map ReadEvent.allowance).sum ∧
      (∀ pre ev post, skippedThenRefused = pre ++ ev :: post → ev.EndsTrial →
        (∀ ev' ∈ post, ¬ ev'.InstallsTrial) →
        some (.ok none) ∉ ([none, some (.ok none), none, some (.error .decryptError)] :
          List (Option (Except Error (Option Decrypted)))).drop (pre.length + 1)) :=
  trial_decryption_within_allowance refusingDecrypt rfl

end RecordLayer

end Rustls
