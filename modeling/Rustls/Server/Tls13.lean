import Rustls.Msgs.Handshake
import Rustls.Msgs.Persist
import Rustls.VecBuf
import Rustls.Tls13.Epochs
import Rustls.Lib.FirstMatch

/-!
The TLS 1.3 server's handling of a ClientHello, from `server/tls13.rs`, up to
its decision on early data, and the early data it then takes in.

`handle_client_hello` checks the ClientHello, sends a HelloRetryRequest when
the client offered no key share for the selected group, and otherwise looks
for a PSK to resume: it walks the offered identities in order, skips every
one that does not decrypt (or is not in the session store) or cannot be
resumed, and takes the first one left, provided its binder verifies.  With
the stateful store, looking a ticket up removes it (`take`).  Only then does
`decide_if_early_data_allowed` choose between `Accepted`,
`RequestedButRejected` and `Disabled`, from the resumed session and the
configuration, without seeing which identity was chosen.

Early data accepted this way is taken in by
`EarlyDataState::take_received_plaintext`, which keeps the number of bytes
still allowed (`left`) beside the buffer the application reads from.  Reading
frees room in the buffer but never gives back allowance, so the total taken
in is bounded by `max_early_data_size` however the application interleaves
its reads: `EarlyDataState.taken_le_maxSize`.

The hash the binder is checked against, `transcript.hash_given(...)` over the
ClientHello truncated before its binders, is an argument here.  The clock is
read once per identity and never fails.  The QUIC early secret, the client
certificates and application data of a resumed session, and everything from
`emit_server_hello` on except the early data decision are not modelled.
-/

namespace Rustls

/-! ### The server's session state -/

/-- `EarlyDataState` of `server/server_conn.rs`. -/
inductive EarlyDataState
  | new
  | accepted (received : ChunkVecBuffer) (left : Nat)
  | rejected
  deriving DecidableEq, Repr

namespace EarlyDataState

/-- `reject`. -/
def reject : EarlyDataState :=
  .rejected

/-- `accept`: a buffer limited to `max_size`, all of it still allowed. -/
def accept (maxSize : Nat) : EarlyDataState :=
  .accepted (ChunkVecBuffer.new (some maxSize)) maxSize

/-- `was_rejected`. -/
def wasRejected : EarlyDataState → Bool
  | .rejected => true
  | _ => false

/-- `pop`. -/
def pop : EarlyDataState → Option (List UInt8) × EarlyDataState
  | .accepted received left =>
    let (chunk, received) := received.pop
    (chunk, .accepted received left)
  | s => (none, s)

/-- `read` into a buffer of `size` bytes; `none` is its `BrokenPipe` error. -/
def read : EarlyDataState → Nat → Option (List UInt8) × EarlyDataState
  | .accepted received left, size =>
    let (out, received) := received.read size
    (some out, .accepted received left)
  | s, _ => (none, s)

/-- `take_received_plaintext`: the bytes are taken only if all of them fit
both the buffer's limit and what is left of the allowance. -/
def takeReceivedPlaintext : EarlyDataState → List UInt8 → Bool × EarlyDataState
  | .accepted received left, bytes =>
    let available := bytes.length
    if received.applyLimit available = available ∧ available ≤ left then
      (true, .accepted (received.append bytes).2 (left - available))
    else (false, .accepted received left)
  | s, _ => (false, s)

end EarlyDataState

/-- `ProducesTickets` as the handshake uses it: whether it is enabled, and
its `decrypt` followed by decoding the session. -/
structure Ticketer where
  enabled : Bool
  decrypt : List UInt8 → Option ServerSessionValue

/-- `ServerSessionMemoryCache`: sessions by ticket, one for each ticket. -/
structure ServerSessionMemoryCache where
  entries : List (List UInt8 × ServerSessionValue)
  deriving DecidableEq, Repr

/-- `ServerSessionMemoryCache::take`: the session under `key`, removed. -/
def ServerSessionMemoryCache.take (store : ServerSessionMemoryCache) (key : List UInt8) :
    Option ServerSessionValue × ServerSessionMemoryCache :=
  (store.entries.lookup key, ⟨store.entries.filter fun e => e.1 != key⟩)

/-- What the TLS 1.3 ClientHello handling reads of `ServerConfig`; the
session store is threaded through as state. -/
structure ServerConfig where
  maxEarlyDataSize : UInt32
  ticketer : Ticketer
  sendTls13Tickets : Nat

/-- What is read of `ServerContext`: the client's server name, the
negotiated version and ALPN protocol, and the early data state. -/
structure ServerContext where
  sni : Option (List UInt8)
  negotiatedVersion : Option ProtocolVersion
  alpnProtocol : Option (List UInt8)
  earlyData : EarlyDataState

/-- What is read of `CompleteClientHelloHandling`. -/
structure CompleteClientHelloHandling (E : Type) where
  config : ServerConfig
  suite : Tls13CipherSuite E
  doneRetry : Bool

/-- `can_resume` of `server/hs.rs`. -/
def canResume (suite : CipherSuite) (sni : Option (List UInt8)) (usingEms : Bool)
    (resumedata : ServerSessionValue) : Bool :=
  resumedata.cipherSuite == suite &&
    (resumedata.extendedMs == usingEms || (resumedata.extendedMs && !usingEms)) &&
    resumedata.sni == sni

/-! ### Choosing the PSK -/

namespace CompleteClientHelloHandling

variable {E : Type} (hs : CompleteClientHelloHandling E)

/-- `check_binder`, with the transcript hash over the truncated ClientHello
given as `handshakeHash`. -/
def checkBinder (handshakeHash psk binder : List UInt8) : Bool :=
  let keySchedule := KeyScheduleEarly.new hs.suite psk
  let realBinder := keySchedule.resumptionPskBinderKeyAndSignVerifyData handshakeHash
  realBinder == binder

/-- `attempt_tls13_ticket_decryption`. -/
def attemptTls13TicketDecryption (store : ServerSessionMemoryCache) (ticket : List UInt8) :
    Option ServerSessionValue × ServerSessionMemoryCache :=
  if hs.config.ticketer.enabled then (hs.config.ticketer.decrypt ticket, store)
  else store.take ticket

/-- The fatal alert and error a ClientHello can be refused with. -/
abbrev Refusal := AlertDescription × Error

/-- The loop of `handle_client_hello` over the offered identities and their
binders, from position `i`: the first identity whose session decrypts, is
made fresh and can be resumed is chosen, if its binder verifies. -/
def choosePsk (cx : ServerContext) (now : UInt64) (handshakeHash : List UInt8) :
    Nat → List (PresharedKeyIdentity × List UInt8) → ServerSessionMemoryCache →
      Except Refusal (Option (Nat × ServerSessionValue)) × ServerSessionMemoryCache
  | _, [], store => (.ok none, store)
  | i, (pskId, binder) :: rest, store =>
    let (decrypted, store) := hs.attemptTls13TicketDecryption store pskId.identity
    match (decrypted.map fun r => r.setFreshness pskId.obfuscatedTicketAge now).filter
        (canResume hs.suite.commonSuite cx.sni false) with
    | none => choosePsk cx now handshakeHash (i + 1) rest store
    | some resume =>
      if !hs.checkBinder handshakeHash resume.masterSecret binder then
        (.error (.decryptError, .peerMisbehaved .incorrectBinder), store)
      else (.ok (some (i, resume)), store)

/-- The `pre_shared_key` part of `handle_client_hello`: the extension's
checks, then the loop over its identities. -/
def selectPsk (cx : ServerContext) (now : UInt64) (handshakeHash : List UInt8)
    (ch : ClientHelloPayload) (store : ServerSessionMemoryCache) :
    Except Refusal (Option (Nat × ServerSessionValue)) × ServerSessionMemoryCache :=
  match ch.psk with
  | none => (.ok none, store)
  | some pskOffer =>
    if !ch.checkPskExtIsLast then
      (.error (.illegalParameter, .peerMisbehaved .pskExtensionMustBeLast), store)
    else if ch.pskModes.isNone then
      (.error (.missingExtension, .peerMisbehaved .missingPskModesExtension), store)
    else if pskOffer.binders.isEmpty then
      (.error (.decodeError, .peerMisbehaved .missingBinderInPskExtension), store)
    else if pskOffer.binders.length ≠ pskOffer.identities.length then
      (.error (.illegalParameter, .peerMisbehaved .pskExtensionWithMismatchedIdsAndBinders), store)
    else hs.choosePsk cx now handshakeHash 0 (pskOffer.identities.zip pskOffer.binders) store

/-- `decide_if_early_data_allowed`. -/
def decideIfEarlyDataAllowed (cx : ServerContext) (ch : ClientHelloPayload)
    (resumedata : Option ServerSessionValue) : EarlyDataDecision :=
  let earlyDataRequested := ch.earlyDataExtensionOffered
  let rejectedOrDisabled : EarlyDataDecision :=
    if earlyDataRequested then .requestedButRejected else .disabled
  match resumedata with
  | none => rejectedOrDisabled
  | some resume =>
    let earlyDataConfigured := hs.config.maxEarlyDataSize > 0 && !hs.config.ticketer.enabled
    let earlyDataPossible := earlyDataRequested && resume.isFresh &&
      some resume.version == cx.negotiatedVersion && resume.cipherSuite == hs.suite.commonSuite &&
      resume.alpn == cx.alpnProtocol
    if earlyDataConfigured && earlyDataPossible && !cx.earlyData.wasRejected then .accepted
    else rejectedOrDisabled

end CompleteClientHelloHandling

/-- Where `handle_client_hello` leaves a handshake that goes on: the chosen
PSK, the tickets to send, the early data decision and the early data state
it sets up. -/
structure Resumption where
  chosenPskIndex : Option Nat
  resumedata : Option ServerSessionValue
  sendTickets : Nat
  earlyDataDecision : EarlyDataDecision
  earlyData : EarlyDataState

/-- How a ClientHello is answered: with a HelloRetryRequest, or by going on. -/
inductive ClientHelloOutcome
  | helloRetryRequest
  | proceed (r : Resumption)

namespace CompleteClientHelloHandling

variable {E : Type} (hs : CompleteClientHelloHandling E)

/-- `handle_client_hello`, for a ClientHello whose key exchange group
`selectedGroup` is already chosen, up to the early data decision. -/
def handleClientHello (cx : ServerContext) (ch : ClientHelloPayload) (selectedGroup : NamedGroup)
    (now : UInt64) (handshakeHash : List UInt8) (store : ServerSessionMemoryCache) :
    Except Refusal ClientHelloOutcome × ServerSessionMemoryCache :=
  if ch.compressionMethods.length ≠ 1 then
    (.error (.illegalParameter, .peerMisbehaved .offeredIncorrectCompressions), store)
  else
  match ch.keyshareExtension with
  | none => (.error (.handshakeFailure, .peerIncompatible .keyShareExtensionRequired), store)
  | some sharesExt =>
  if ch.hasKeyshareExtensionWithDuplicates then
    (.error (.illegalParameter, .peerMisbehaved .offeredDuplicateKeyShares), store)
  else if ch.hasCertificateCompressionExtensionWithDuplicates then
    (.error (.illegalParameter, .peerMisbehaved .offeredDuplicateCertificateCompressions), store)
  else
  let earlyDataRequested := ch.earlyDataExtensionOffered
  -- the EarlyData extension is illegal in a second ClientHello
  if hs.doneRetry && earlyDataRequested then
    (.error (.illegalParameter, .peerMisbehaved .earlyDataAttemptedInSecondClientHello), store)
  else if (sharesExt.find? fun share => share.group == selectedGroup).isNone then
    if hs.doneRetry then
      (.error (.illegalParameter, .peerMisbehaved .refusedToFollowHelloRetryRequest), store)
    else (.ok .helloRetryRequest, store)
  else
  match hs.selectPsk cx now handshakeHash ch store with
  | (.error e, store) => (.error e, store)
  | (.ok chosen, store) =>
    -- a client that does not offer psk_dhe_ke resumes nothing and gets no tickets
    let (chosen, sendTickets) :=
      if !ch.pskModeOffered .pskDheKe then (none, 0) else (chosen, hs.config.sendTls13Tickets)
    let resumedata := chosen.map (·.2)
    let decision := hs.decideIfEarlyDataAllowed cx ch resumedata
    let earlyData := match decision with
      | .accepted => EarlyDataState.accept hs.config.maxEarlyDataSize.toNat
      | _ => EarlyDataState.reject
    (.ok (.proceed ⟨chosen.map (·.1), resumedata, sendTickets, decision, earlyData⟩), store)

end CompleteClientHelloHandling

/-! ### The session store -/

namespace ServerSessionMemoryCache

/-- After a `take`, the store no longer answers for the ticket taken, and
answers as before for every other. -/
theorem lookup_take (store : ServerSessionMemoryCache) (key k : List UInt8) :
    (store.take key).2.entries.lookup k = if k = key then none else store.entries.lookup k := by
  obtain ⟨es⟩ := store
  unfold take
  induction es with
  | nil => simp
  | cons e es ih =>
    obtain ⟨k', v'⟩ := e
    by_cases hk : k' = key
    · subst hk
      simp only [List.filter_cons, bne_self_eq_false, Bool.false_eq_true, if_false] at ih ⊢
      rw [ih]
      by_cases hkk : k = k'
      · simp [hkk]
      · simp [hkk, List.lookup_cons, beq_eq_false_iff_ne.mpr hkk]
    · simp only [List.filter_cons, bne_iff_ne, ne_eq, hk, not_false_eq_true, if_true,
        List.lookup_cons] at ih ⊢
      by_cases hkk : k = k'
      · subst hkk
        simp [hk]
      · simp only [beq_eq_false_iff_ne.mpr hkk]
        exact ih

/-- `take` removes what it returns: the ticket cannot be used a second time. -/
theorem lookup_take_self (store : ServerSessionMemoryCache) (key : List UInt8) :
    (store.take key).2.entries.lookup key = none := by
  simp [lookup_take]

/-- Every session left after a `take` was there before. -/
theorem lookup_of_lookup_take {store : ServerSessionMemoryCache} {key k : List UInt8}
    {v : ServerSessionValue} (h : (store.take key).2.entries.lookup k = some v) :
    store.entries.lookup k = some v := by
  rw [lookup_take] at h
  split_ifs at h
  exact h

end ServerSessionMemoryCache

/-! ### Early data taken in -/

/-- What reaches the early data state while the server waits for
EndOfEarlyData: a record of early data, or a read by the application. -/
inductive EarlyDataEvent
  | received (bytes : List UInt8)
  | pop
  | read (size : Nat)
  deriving DecidableEq, Repr

namespace EarlyDataState

/-- How much early data is still allowed in. -/
def allowance : EarlyDataState → Nat
  | .accepted _ left => left
  | _ => 0

/-- A run of events: the bytes taken in, and the state after.  A refused
record ends the run, as `ExpectEarlyData` then fails with
`TooMuchEarlyDataReceived`. -/
def run : EarlyDataState → List EarlyDataEvent → Nat × EarlyDataState
  | s, [] => (0, s)
  | s, .received bytes :: evs =>
    match s.takeReceivedPlaintext bytes with
    | (true, s') =>
      let (n, s'') := s'.run evs
      (bytes.length + n, s'')
    | (false, s') => (0, s')
  | s, .pop :: evs => s.pop.2.run evs
  | s, .read size :: evs => (s.read size).2.run evs

/-- Taking bytes in spends exactly their length of the allowance. -/
theorem allowance_takeReceivedPlaintext {s s' : EarlyDataState} {bytes : List UInt8}
    (h : s.takeReceivedPlaintext bytes = (true, s')) :
    bytes.length + s'.allowance = s.allowance := by
  cases s with
  | accepted received left =>
    simp only [takeReceivedPlaintext] at h
    split_ifs at h with hfit
    · cases h
      simp only [allowance]
      omega
    · simp at h
  | new => simp [takeReceivedPlaintext] at h
  | rejected => simp [takeReceivedPlaintext] at h

/-- Refused bytes leave the state as it was. -/
theorem takeReceivedPlaintext_refused {s s' : EarlyDataState} {bytes : List UInt8}
    (h : s.takeReceivedPlaintext bytes = (false, s')) : s' = s := by
  cases s with
  | accepted received left =>
    simp only [takeReceivedPlaintext] at h
    split_ifs at h
    · simp at h
    · simp only [Prod.mk.injEq] at h
      exact h.2.symm
  | new => cases h; rfl
  | rejected => cases h; rfl

/-- The application's reads never give allowance back. -/
@[simp] theorem allowance_pop (s : EarlyDataState) : s.pop.2.allowance = s.allowance := by
  cases s <;> rfl

@[simp] theorem allowance_read (s : EarlyDataState) (size : Nat) :
    (s.read size).2.allowance = s.allowance := by
  cases s <;> rfl

/-- Over any run, what was taken in and what is still allowed add up to what
was allowed at the start. -/
theorem run_taken_add_allowance (s : EarlyDataState) (evs : List EarlyDataEvent) :
    (s.run evs).1 + (s.run evs).2.allowance = s.allowance := by
  induction evs generalizing s with
  | nil => simp [run]
  | cons ev evs ih =>
    cases ev with
    | received bytes =>
      rcases htake : s.takeReceivedPlaintext bytes with ⟨_ | _, s'⟩
      · -- refused: the run stops, nothing more taken in
        simp only [run, htake, takeReceivedPlaintext_refused htake, Nat.zero_add]
      · have hstep := allowance_takeReceivedPlaintext htake
        have hrest := ih s'
        simp only [run, htake]
        omega
    | pop => simpa [run] using ih s.pop.2
    | read size => simpa [run] using ih (s.read size).2

/-- Once early data is accepted with `max_early_data_size`, no interleaving of
records and reads takes in more than that many bytes. -/
theorem taken_le_maxSize (maxSize : Nat) (evs : List EarlyDataEvent) :
    ((accept maxSize).run evs).1 ≤ maxSize := by
  have h := run_taken_add_allowance (accept maxSize) evs
  have hstart : (accept maxSize).allowance = maxSize := rfl
  omega

end EarlyDataState

/-! ### What a chosen PSK rests on -/

namespace CompleteClientHelloHandling

variable {E : Type} (hs : CompleteClientHelloHandling E)

/-- What choosing `resume` for the identity `pskId` with `binder` rests on:
the session came out of the ticketer or, without one, out of the store, which
no longer holds it afterwards; it was made fresh with the identity's ticket
age, it can be resumed, and the binder verifies. -/
structure PskChosen (cx : ServerContext) (now : UInt64) (handshakeHash : List UInt8)
    (store store' : ServerSessionMemoryCache) (pskId : PresharedKeyIdentity) (binder : List UInt8)
    (resume : ServerSessionValue) : Prop where
  decrypted : ∃ v, resume = v.setFreshness pskId.obfuscatedTicketAge now ∧
    if hs.config.ticketer.enabled then hs.config.ticketer.decrypt pskId.identity = some v
    else store.entries.lookup pskId.identity = some v ∧ store'.entries.lookup pskId.identity = none
  resumable : canResume hs.suite.commonSuite cx.sni false resume = true
  binderVerified : hs.checkBinder handshakeHash resume.masterSecret binder = true

variable {hs}

/-- A choice made from a store that only lost sessions is one made from the
store before. -/
theorem PskChosen.of_lookup {cx : ServerContext} {now : UInt64} {hh : List UInt8}
    {store₀ store store' : ServerSessionMemoryCache} {pskId : PresharedKeyIdentity}
    {binder : List UInt8} {resume : ServerSessionValue}
    (hc : hs.PskChosen cx now hh store store' pskId binder resume)
    (hsub : ∀ k v, store.entries.lookup k = some v → store₀.entries.lookup k = some v) :
    hs.PskChosen cx now hh store₀ store' pskId binder resume := by
  obtain ⟨⟨v, hv, hsrc⟩, hres, hbind⟩ := hc
  refine ⟨⟨v, hv, ?_⟩, hres, hbind⟩
  split_ifs at hsrc ⊢
  · exact hsrc
  · exact ⟨hsub _ _ hsrc.1, hsrc.2⟩

variable (hs)

/-- Looking a ticket up only ever removes sessions from the store. -/
theorem lookup_of_lookup_attempt {store : ServerSessionMemoryCache} {ticket k : List UInt8}
    {v : ServerSessionValue} (h : (hs.attemptTls13TicketDecryption store ticket).2.entries.lookup k = some v) :
    store.entries.lookup k = some v := by
  unfold attemptTls13TicketDecryption at h
  split_ifs at h
  · exact h
  · exact ServerSessionMemoryCache.lookup_of_lookup_take h

/-- The loop chooses the identity at some position `k` from where it
started, and the choice rests on `PskChosen`. -/
theorem choosePsk_eq_ok_some {cx : ServerContext} {now : UInt64} {hh : List UInt8} {i j : Nat}
    {l : List (PresharedKeyIdentity × List UInt8)} {store store' : ServerSessionMemoryCache}
    {resume : ServerSessionValue}
    (h : hs.choosePsk cx now hh i l store = (.ok (some (j, resume)), store')) :
    ∃ k pskId binder, l[k]? = some (pskId, binder) ∧ j = i + k ∧
      hs.PskChosen cx now hh store store' pskId binder resume := by
  -- induction on the identities still to try, from any position and store
  induction l generalizing i store with
  | nil => simp [choosePsk] at h
  | cons e rest ih =>
    obtain ⟨pskId, binder⟩ := e
    rcases hatt : hs.attemptTls13TicketDecryption store pskId.identity with ⟨dec, store₁⟩
    simp only [choosePsk, hatt] at h
    rcases hsel : (dec.map fun r => r.setFreshness pskId.obfuscatedTicketAge now).filter
        (canResume hs.suite.commonSuite cx.sni false) with _ | r
    · -- skipped: the choice is made further on, from the store after this lookup
      rw [hsel] at h
      obtain ⟨k, pskId', binder', hk, hj, hc⟩ := ih h
      refine ⟨k + 1, pskId', binder', by simpa using hk, by omega, hc.of_lookup ?_⟩
      intro k' v' hk'
      exact hs.lookup_of_lookup_attempt (by rw [hatt]; exact hk')
    · -- taken: this identity, if its binder verifies
      rw [hsel] at h
      dsimp only at h
      split_ifs at h with hbind
      · cases h
      cases h
      rw [Option.filter_eq_some_iff, Option.map_eq_some_iff] at hsel
      obtain ⟨⟨v, hdec, hv⟩, hres⟩ := hsel
      refine ⟨0, pskId, binder, rfl, rfl, ⟨⟨v, hv.symm, ?_⟩, hres, by simpa using hbind⟩⟩
      unfold attemptTls13TicketDecryption at hatt
      split_ifs at hatt ⊢ with htk
      · simp only [Prod.mk.injEq] at hatt
        rw [hatt.1, hdec]
      · simp only [ServerSessionMemoryCache.take, Prod.mk.injEq] at hatt
        refine ⟨by rw [hatt.1, hdec], ?_⟩
        rw [← hatt.2]
        exact ServerSessionMemoryCache.lookup_take_self store pskId.identity

/-- A PSK chosen by the `pre_shared_key` part is the one at its position in
the offer, identities and binders paired. -/
theorem selectPsk_eq_ok_some {cx : ServerContext} {now : UInt64} {hh : List UInt8}
    {ch : ClientHelloPayload} {store store' : ServerSessionMemoryCache} {j : Nat}
    {resume : ServerSessionValue}
    (h : hs.selectPsk cx now hh ch store = (.ok (some (j, resume)), store')) :
    ∃ offer pskId binder, ch.psk = some offer ∧
      (offer.identities.zip offer.binders)[j]? = some (pskId, binder) ∧
      hs.PskChosen cx now hh store store' pskId binder resume := by
  unfold selectPsk at h
  rcases hpsk : ch.psk with _ | offer
  · simp [hpsk] at h
  · simp only [hpsk] at h
    -- each failed check of the extension is a refusal, not a choice
    iterate 4 replace h := rest_eq_of_ite_eq h nofun
    obtain ⟨k, pskId, binder, hk, rfl, hc⟩ := hs.choosePsk_eq_ok_some h
    exact ⟨offer, pskId, binder, rfl, by simpa using hk, hc⟩

/-- The conditions of `decide_if_early_data_allowed` for accepting. -/
theorem decideIfEarlyDataAllowed_eq_accepted {cx : ServerContext} {ch : ClientHelloPayload}
    {resumedata : Option ServerSessionValue} :
    hs.decideIfEarlyDataAllowed cx ch resumedata = .accepted ↔
      ∃ resume, resumedata = some resume ∧ ch.earlyDataExtensionOffered = true ∧
        resume.isFresh = true ∧ some resume.version = cx.negotiatedVersion ∧
        resume.cipherSuite = hs.suite.commonSuite ∧ resume.alpn = cx.alpnProtocol ∧
        0 < hs.config.maxEarlyDataSize ∧ hs.config.ticketer.enabled = false ∧
        cx.earlyData.wasRejected = false := by
  unfold decideIfEarlyDataAllowed
  rcases resumedata with _ | resume
  · -- not resuming: never accepted
    simp only [reduceCtorEq, false_and, exists_false, iff_false]
    split <;> simp
  · simp only [Option.some.injEq, exists_eq_left']
    split_ifs with hacc hreq
    · simp only [Bool.and_eq_true, decide_eq_true_eq, Bool.not_eq_true', beq_iff_eq] at hacc
      simp only [true_iff]
      tauto
    · simp only [Bool.and_eq_true, decide_eq_true_eq, Bool.not_eq_true', beq_iff_eq, not_and] at hacc
      simp only [false_iff]
      tauto
    · simp only [Bool.and_eq_true, decide_eq_true_eq, Bool.not_eq_true', beq_iff_eq, not_and] at hacc
      simp only [false_iff]
      tauto

/-- A ClientHello the server goes on with: it attempted no early data after a
retry, the PSK part chose `chosen`, and the resumption and the early data
decision are made from that choice. -/
theorem handleClientHello_eq_proceed {cx : ServerContext} {ch : ClientHelloPayload}
    {g : NamedGroup} {now : UInt64} {hh : List UInt8} {store store' : ServerSessionMemoryCache}
    {r : Resumption}
    (h : hs.handleClientHello cx ch g now hh store = (.ok (.proceed r), store')) :
    (hs.doneRetry && ch.earlyDataExtensionOffered) = false ∧
      ∃ chosen, hs.selectPsk cx now hh ch store = (.ok chosen, store') ∧
        r.chosenPskIndex = (if ch.pskModeOffered .pskDheKe then chosen else none).map (·.1) ∧
        r.resumedata = (if ch.pskModeOffered .pskDheKe then chosen else none).map (·.2) ∧
        r.earlyDataDecision = hs.decideIfEarlyDataAllowed cx ch r.resumedata ∧
        (r.earlyDataDecision = .accepted →
          r.earlyData = EarlyDataState.accept hs.config.maxEarlyDataSize.toNat) := by
  unfold handleClientHello at h
  -- the checks before the PSK part refuse, or ask for a retry
  replace h := rest_eq_of_ite_eq h nofun
  rcases hks : ch.keyshareExtension with _ | shares
  · rw [hks] at h
    cases h
  rw [hks] at h
  dsimp only at h
  iterate 2 replace h := rest_eq_of_ite_eq h nofun
  have hretry : (hs.doneRetry && ch.earlyDataExtensionOffered) = false := by
    by_contra hretry
    rw [if_pos (Bool.eq_true_of_not_eq_false hretry)] at h
    cases h
  rw [if_neg (by rw [hretry]; exact Bool.false_ne_true)] at h
  replace h := rest_eq_of_ite_eq h (by split <;> nofun)
  rcases hsel : hs.selectPsk cx now hh ch store with ⟨_ | chosen, store₁⟩
  · rw [hsel] at h
    cases h
  rw [hsel] at h
  dsimp only at h
  simp only [Prod.mk.injEq, Except.ok.injEq, ClientHelloOutcome.proceed.injEq] at h
  obtain ⟨rfl, rfl⟩ := h
  -- without psk_dhe_ke nothing is resumed
  refine ⟨hretry, chosen, rfl, ?_, ?_, rfl, fun hacc => ?_⟩
  · cases ch.pskModeOffered .pskDheKe <;> rfl
  · cases ch.pskModeOffered .pskDheKe <;> rfl
  · simp only at hacc ⊢
    rw [hacc]

/-- What accepting early data rests on.  The ClientHello offered early data
and psk_dhe_ke, in a first ClientHello; the configuration allows early data
and keeps sessions in the store; early data was not rejected before; and the
session resumed is the one the store held under the chosen identity, which
`take` removed, made fresh with that identity's ticket age and matching the
negotiated version, suite and ALPN protocol, with a binder that verifies.
What it does not rest on is the identity's position in the offer. -/
theorem handleClientHello_accepted {cx : ServerContext} {ch : ClientHelloPayload}
    {g : NamedGroup} {now : UInt64} {hh : List UInt8} {store store' : ServerSessionMemoryCache}
    {r : Resumption}
    (h : hs.handleClientHello cx ch g now hh store = (.ok (.proceed r), store'))
    (hacc : r.earlyDataDecision = .accepted) :
    ch.earlyDataExtensionOffered = true ∧ hs.doneRetry = false ∧
      ch.pskModeOffered .pskDheKe = true ∧ 0 < hs.config.maxEarlyDataSize ∧
      hs.config.ticketer.enabled = false ∧ cx.earlyData.wasRejected = false ∧
      r.earlyData = EarlyDataState.accept hs.config.maxEarlyDataSize.toNat ∧
      ∃ offer i pskId binder v, ch.psk = some offer ∧ r.chosenPskIndex = some i ∧
        (offer.identities.zip offer.binders)[i]? = some (pskId, binder) ∧
        store.entries.lookup pskId.identity = some v ∧ store'.entries.lookup pskId.identity = none ∧
        r.resumedata = some (v.setFreshness pskId.obfuscatedTicketAge now) ∧
        (v.setFreshness pskId.obfuscatedTicketAge now).isFresh = true ∧
        some v.version = cx.negotiatedVersion ∧ v.cipherSuite = hs.suite.commonSuite ∧
        v.alpn = cx.alpnProtocol ∧ hs.checkBinder hh v.masterSecret binder = true := by
  obtain ⟨hretry, chosen, hsel, hidx, hres, hdec, hearly⟩ := hs.handleClientHello_eq_proceed h
  have hacc' := hacc
  rw [hdec] at hacc'
  obtain ⟨resume, hresume, hreq, hfresh, hver, hsuite, halpn, hmax, htk, hrej⟩ :=
    hs.decideIfEarlyDataAllowed_eq_accepted.mp hacc'
  -- a session was resumed, so psk_dhe_ke was offered and the PSK part chose one
  have hm : ch.pskModeOffered .pskDheKe = true := by
    by_contra hm
    simp only [hm, if_false, Option.map_none] at hres
    rw [hres] at hresume
    cases hresume
  simp only [hm, if_true] at hidx hres
  rcases chosen with _ | ⟨i, c⟩
  · rw [hres] at hresume
    cases hresume
  simp only [Option.map_some] at hidx hres
  rw [hres, Option.some.injEq] at hresume
  subst hresume
  obtain ⟨offer, pskId, binder, hpsk, hk, hc⟩ := hs.selectPsk_eq_ok_some hsel
  obtain ⟨⟨v, rfl, hsrc⟩, -, hbind⟩ := hc
  simp only [htk, Bool.false_eq_true, if_false] at hsrc
  -- `set_freshness` changed nothing the decision compared
  refine ⟨hreq, by simpa [hreq] using hretry, hm, hmax, htk, hrej, hearly hacc,
    offer, i, pskId, binder, v, hpsk, hidx, hk, hsrc.1, hsrc.2, hres, hfresh, ?_, ?_, ?_, hbind⟩
  · simpa using hver
  · simpa using hsuite
  · simpa using halpn

/-- A first identity whose ticket is not in the store is skipped, and the
loop goes on to the next with the store as `take` left it. -/
theorem choosePsk_skip {cx : ServerContext} {now : UInt64} {hh : List UInt8} {i : Nat}
    {pskId : PresharedKeyIdentity} {binder : List UInt8}
    {rest : List (PresharedKeyIdentity × List UInt8)} {store : ServerSessionMemoryCache}
    (htk : hs.config.ticketer.enabled = false) (hnone : store.entries.lookup pskId.identity = none) :
    hs.choosePsk cx now hh i ((pskId, binder) :: rest) store =
      hs.choosePsk cx now hh (i + 1) rest (store.take pskId.identity).2 := by
  simp [choosePsk, attemptTls13TicketDecryption, htk, ServerSessionMemoryCache.take, hnone]

/-- An identity whose ticket the store holds, resumable and with a binder
that verifies, is chosen where the loop stands. -/
theorem choosePsk_take {cx : ServerContext} {now : UInt64} {hh : List UInt8} {i : Nat}
    {pskId : PresharedKeyIdentity} {rest : List (PresharedKeyIdentity × List UInt8)}
    {store : ServerSessionMemoryCache} {v : ServerSessionValue}
    (htk : hs.config.ticketer.enabled = false) (hstored : store.entries.lookup pskId.identity = some v)
    (hres : canResume hs.suite.commonSuite cx.sni false (v.setFreshness pskId.obfuscatedTicketAge now)) :
    hs.choosePsk cx now hh i
        ((pskId, (KeyScheduleEarly.new hs.suite v.masterSecret).resumptionPskBinderKeyAndSignVerifyData hh)
          :: rest) store =
      (.ok (some (i, v.setFreshness pskId.obfuscatedTicketAge now)), (store.take pskId.identity).2) := by
  simp only [choosePsk, attemptTls13TicketDecryption, htk, Bool.false_eq_true, if_false,
    ServerSessionMemoryCache.take, hstored, Option.map_some, Option.filter_some, hres, if_true]
  simp [checkBinder]

/-- Early data is accepted for a PSK that is not the first offered: when the
store does not hold the first identity's ticket, the server resumes the
second and, everything else being in order, accepts early data for it. -/
theorem handleClientHello_accepts_early_data_for_second_identity {cx : ServerContext}
    {ch : ClientHelloPayload} {g : NamedGroup} {now : UInt64} {hh : List UInt8}
    {store : ServerSessionMemoryCache} {shares : List KeyShareEntry}
    {id₀ id₁ : PresharedKeyIdentity} {b₀ : List UInt8} {v : ServerSessionValue}
    (hcomp : ch.compressionMethods.length = 1) (hks : ch.keyshareExtension = some shares)
    (hshare : (shares.find? fun share => share.group == g).isSome = true)
    (hdup : ch.hasKeyshareExtensionWithDuplicates = false)
    (hcert : ch.hasCertificateCompressionExtensionWithDuplicates = false)
    (hpsk : ch.psk = some ⟨[id₀, id₁],
      [b₀, (KeyScheduleEarly.new hs.suite v.masterSecret).resumptionPskBinderKeyAndSignVerifyData hh]⟩)
    (hlast : ch.checkPskExtIsLast = true) (hmode : ch.pskModeOffered .pskDheKe = true)
    (hearly : ch.earlyDataExtensionOffered = true) (hretry : hs.doneRetry = false)
    (hmax : 0 < hs.config.maxEarlyDataSize) (htk : hs.config.ticketer.enabled = false)
    (hrej : cx.earlyData.wasRejected = false)
    (hnone : store.entries.lookup id₀.identity = none)
    (hstored : store.entries.lookup id₁.identity = some v)
    (hsuite : v.cipherSuite = hs.suite.commonSuite) (hsni : v.sni = cx.sni)
    (hfresh : (v.setFreshness id₁.obfuscatedTicketAge now).isFresh = true)
    (hver : cx.negotiatedVersion = some v.version) (halpn : v.alpn = cx.alpnProtocol) :
    hs.handleClientHello cx ch g now hh store =
      (.ok (.proceed ⟨some 1, some (v.setFreshness id₁.obfuscatedTicketAge now),
        hs.config.sendTls13Tickets, .accepted, .accept hs.config.maxEarlyDataSize.toNat⟩),
        ((store.take id₀.identity).2.take id₁.identity).2) := by
  -- the PSK part skips the first identity and takes the second
  have hne : id₁.identity ≠ id₀.identity := by
    intro h
    rw [h, hnone] at hstored
    cases hstored
  have hstored' : (store.take id₀.identity).2.entries.lookup id₁.identity = some v := by
    rw [ServerSessionMemoryCache.lookup_take, if_neg hne, hstored]
  have hres : canResume hs.suite.commonSuite cx.sni false
      (v.setFreshness id₁.obfuscatedTicketAge now) = true := by
    simp [canResume, hsuite, hsni]
  have hmodes : ch.pskModes.isNone = false := by
    cases hm : ch.pskModes with
    | none => simp [ClientHelloPayload.pskModeOffered, hm] at hmode
    | some _ => rfl
  have hsel : hs.selectPsk cx now hh ch store =
      (.ok (some (1, v.setFreshness id₁.obfuscatedTicketAge now)),
        ((store.take id₀.identity).2.take id₁.identity).2) := by
    simp only [selectPsk, hpsk, hlast, hmodes, Bool.not_true, Bool.false_eq_true, if_false,
      List.isEmpty_cons, List.length_cons, List.length_nil, ne_eq, not_true_eq_false,
      List.zip_cons_cons, List.zip_nil_right]
    rw [hs.choosePsk_skip htk hnone, hs.choosePsk_take htk hstored' hres]
  -- and every condition of `decide_if_early_data_allowed` holds for it
  have hdec : hs.decideIfEarlyDataAllowed cx ch (some (v.setFreshness id₁.obfuscatedTicketAge now)) =
      .accepted :=
    hs.decideIfEarlyDataAllowed_eq_accepted.mpr ⟨_, rfl, hearly, hfresh, by simp [hver],
      by simpa using hsuite, by simpa using halpn, hmax, htk, hrej⟩
  have hfound : (shares.find? fun share => share.group == g).isNone = false := by
    cases hf : shares.find? (fun share => share.group == g) <;> simp_all
  unfold handleClientHello
  simp only [hks, hcomp, ne_eq, not_true_eq_false, if_false, hdup, hcert, hretry, Bool.false_and,
    Bool.false_eq_true, hfound, hsel, hmode, Bool.not_true]
  simp [hdec]

end CompleteClientHelloHandling

/-! ### A server that accepts early data for the second identity -/

/-- A server that allows early data and keeps sessions in its store, on the
suite of the key schedule model. -/
def earlyDataServer : CompleteClientHelloHandling Unit :=
  ⟨⟨16384, ⟨false, fun _ => none⟩, 2⟩, constantSuite, false⟩

/-- A connection on TLS 1.3, with no server name and no ALPN protocol. -/
def earlyDataContext : ServerContext :=
  ⟨none, some .tlsv1_3, none, .new⟩

/-- A session issued at second 1000, without an age offset. -/
def storedSession : ServerSessionValue :=
  ⟨none, .tlsv1_3, .tls13Aes128GcmSha256, [1, 2, 3], false, none, none, [], 1000, 0, none⟩

/-- The store, holding `storedSession` under the ticket `[2]`. -/
def earlyDataStore : ServerSessionMemoryCache :=
  ⟨[([2], storedSession)]⟩

/-- A ClientHello that offers early data, first with the unknown ticket `[1]`,
then with `[2]`, five seconds old, and the binder its secret gives. -/
def secondIdentityHello : ClientHelloPayload :=
  ⟨[0], [.keyShare [⟨.x25519, [9]⟩], .presharedKeyModes [.pskDheKe], .earlyData,
    .presharedKey ⟨[⟨[1], 0⟩, ⟨[2], 5000⟩], [[0], []]⟩]⟩

theorem second_identity_early_data_accepted :
    earlyDataServer.handleClientHello earlyDataContext secondIdentityHello .x25519 1005 []
        earlyDataStore =
      (.ok (.proceed ⟨some 1, some (storedSession.setFreshness 5000 1005), 2, .accepted,
        .accept 16384⟩), ((earlyDataStore.take [1]).2.take [2]).2) :=
  @CompleteClientHelloHandling.handleClientHello_accepts_early_data_for_second_identity Unit
    earlyDataServer earlyDataContext secondIdentityHello .x25519 1005 [] earlyDataStore
    [⟨.x25519, [9]⟩] ⟨[1], 0⟩ ⟨[2], 5000⟩ [0] storedSession
    rfl rfl rfl rfl rfl rfl rfl rfl rfl rfl (by decide) rfl rfl rfl rfl rfl rfl (by decide) rfl rfl

/-- Early data is accepted although the PSK chosen is the second one offered. -/
theorem early_data_accepted_for_second_psk :
    ∃ r store', earlyDataServer.handleClientHello earlyDataContext secondIdentityHello .x25519 1005 []
        earlyDataStore = (.ok (.proceed r), store') ∧
      r.earlyDataDecision = .accepted ∧ r.chosenPskIndex = some 1 :=
  ⟨_, _, rfl, rfl, rfl⟩

end Rustls
