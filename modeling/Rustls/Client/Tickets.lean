import Rustls.Error
import Rustls.Msgs.Persist
import Rustls.Client.Handy

/-!
A client's TLS 1.3 tickets, from the NewSessionTicket that brings one to the
next handshake that offers it: `ExpectTraffic::handle_new_ticket_tls13` of
`client/tls13.rs` stores the ticket, and `find_session` of `client/hs.rs`
takes it out of the store again and checks that it has not expired.

The store is the `ClientSessionMemoryCache` of `Resumption::in_memory_sessions`,
with room for more than eight tickets (with less it keeps nothing, see
`Client/Handy.lean`).  Over TCP; the QUIC checks of the early-data size and
the QUIC parameters are left out, and so is the alert `handle_new_ticket_tls13`
sends with its error.  The ticket's PSK is the key schedule's
`resumption_master_secret_and_derive_ticket_psk` over the transcript, given
here as a function of the ticket's nonce.

RFC 8446 section 4.6.1 says a lifetime of zero means the ticket is to be
discarded at once.  `has_expired` instead reads it as "never expires", so
such a ticket is offered at any later time, with an age that overflows the
`u32` milliseconds once it is some fifty days old.
-/

namespace Rustls

/-- `NewSessionTicketPayloadTls13`, with whether its extensions repeat a type
and the size its early-data extension gives. -/
structure NewSessionTicketPayloadTls13 where
  lifetime : UInt32
  ageAdd : UInt32
  nonce : List UInt8
  ticket : List UInt8
  maxEarlyDataSize : Option UInt32
  hasDuplicateExtension : Bool
  deriving DecidableEq, Repr

variable {K : Type} [DecidableEq K]

/-- The session store of a client configuration. -/
abbrev ClientSessionStore (K : Type) :=
  ClientSessionMemoryCache K Tls12ClientSessionValue Tls13ClientSessionValue

/-- The value `handle_new_ticket_tls13` stores for a ticket received at `now`. -/
def NewSessionTicketPayloadTls13.toValue (nst : NewSessionTicketPayloadTls13) (suite : CipherSuite)
    (hashLen : Nat) (ticketPsk : List UInt8 → List UInt8) (now : UInt64) :
    Tls13ClientSessionValue :=
  .new suite hashLen nst.ticket (ticketPsk nst.nonce) now nst.lifetime nst.ageAdd
    (nst.maxEarlyDataSize.getD 0)

/-- `ExpectTraffic::handle_new_ticket_tls13`, over TCP: the store after the
ticket is stored, at the time `currentTime` gives. -/
def handleNewTicketTls13 (store : ClientSessionStore K) (serverName : K) (suite : CipherSuite)
    (hashLen : Nat) (ticketPsk : List UInt8 → List UInt8) (currentTime : Option UInt64)
    (nst : NewSessionTicketPayloadTls13) : Except Error (ClientSessionStore K) :=
  if nst.hasDuplicateExtension then .error (.peerMisbehaved .duplicateNewSessionTicketExtensions)
  else
    match currentTime with
    | none => .error .failedToGetCurrentTime
    | some now => .ok (store.insertTls13Ticket serverName (nst.toValue suite hashLen ticketPsk now))

/-- `find_session`: a TLS 1.3 ticket taken out of the store, else the TLS 1.2
session, retrieved at the time `currentTime` gives unless it has expired. -/
def findSession (store : ClientSessionStore K) (serverName : K) (currentTime : Option UInt64) :
    Option (Retrieved ClientSessionValue) × ClientSessionStore K :=
  let (taken, store) := store.takeTls13Ticket serverName
  let found := (taken.map ClientSessionValue.tls13).orElse fun _ =>
    (store.tls12Session serverName).map ClientSessionValue.tls12
  let found := found.bind fun resuming =>
    currentTime.bind fun now =>
      let retrieved : Retrieved ClientSessionValue := ⟨resuming, now⟩
      if retrieved.hasExpired ClientSessionValue.common then none else some retrieved
  (found, store)

/-! ### From storing a ticket to offering it -/

/-- A ticket received without repeated extensions is stored as its value. -/
theorem handleNewTicketTls13_eq_ok (store : ClientSessionStore K) (serverName : K)
    (suite : CipherSuite) (hashLen : Nat) (ticketPsk : List UInt8 → List UInt8) (now : UInt64)
    {nst : NewSessionTicketPayloadTls13} (hdup : nst.hasDuplicateExtension = false) :
    handleNewTicketTls13 store serverName suite hashLen ticketPsk (some now) nst =
      .ok (store.insertTls13Ticket serverName (nst.toValue suite hashLen ticketPsk now)) := by
  simp [handleNewTicketTls13, hdup]

/-- Right after a ticket is stored in a store of more than eight tickets,
`find_session` finds it, retrieved at the time given, unless it has expired. -/
theorem findSession_insertTls13Ticket {size : Nat} (hsize : maxTls13TicketsPerServer < size)
    (ops : List (ClientSessionMemoryCache.StoreOp K Tls12ClientSessionValue Tls13ClientSessionValue))
    (serverName : K) (value : Tls13ClientSessionValue) (now : UInt64) :
    (findSession (((ClientSessionMemoryCache.new size).run ops).insertTls13Ticket serverName value)
        serverName (some now)).1 =
      if (⟨.tls13 value, now⟩ : Retrieved ClientSessionValue).hasExpired ClientSessionValue.common
      then none else some ⟨.tls13 value, now⟩ := by
  have htake := ClientSessionMemoryCache.take_insertTls13Ticket_of_eight_lt_size hsize ops
    serverName value
  simp only [findSession]
  rw [htake]
  rfl

/-- **A ticket whose lifetime is zero never expires.**  Stored at `t0` in a
store of more than eight tickets, it is found and offered at every later time
`t`; and once it is `2^32 / 1000` seconds old (about fifty days) the age in
milliseconds `obfuscated_ticket_age` computes overflows a `u32`. -/
theorem findSession_offers_zero_lifetime_ticket {size : Nat}
    (hsize : maxTls13TicketsPerServer < size)
    (ops : List (ClientSessionMemoryCache.StoreOp K Tls12ClientSessionValue Tls13ClientSessionValue))
    (serverName : K) (suite : CipherSuite) (hashLen : Nat) (ticketPsk : List UInt8 → List UInt8)
    {nst : NewSessionTicketPayloadTls13} (hdup : nst.hasDuplicateExtension = false)
    (hzero : nst.lifetime = 0) (t0 t : UInt64) (hlater : t0 ≤ t) :
    ∃ store, handleNewTicketTls13 ((ClientSessionMemoryCache.new size).run ops) serverName suite
        hashLen ticketPsk (some t0) nst = .ok store ∧
      (findSession store serverName (some t)).1 =
        some ⟨.tls13 (nst.toValue suite hashLen ticketPsk t0), t⟩ ∧
      (4294968 ≤ t.toNat - t0.toNat → t.toNat - t0.toNat < 2 ^ 32 →
        2 ^ 32 ≤ (⟨nst.toValue suite hashLen ticketPsk t0, t⟩ :
          Retrieved Tls13ClientSessionValue).ageSecs.toUInt32.toNat * 1000) := by
  let value := nst.toValue suite hashLen ticketPsk t0
  have hlife : value.common.lifetimeSecs = 0 := by
    show min nst.lifetime maxTicketLifetime = 0
    rw [hzero]
    decide
  refine ⟨_, handleNewTicketTls13_eq_ok _ serverName suite hashLen ticketPsk t0 hdup, ?_, ?_⟩
  · rw [findSession_insertTls13Ticket hsize ops serverName value t,
      Retrieved.hasExpired_of_lifetimeSecs_eq_zero hlife]
    rfl
  · intro hold hsmall
    -- the age in seconds is the time since `t0`, and `as u32` keeps it whole
    have hepoch : value.common.epoch = t0 := rfl
    have hage : (⟨value, t⟩ : Retrieved Tls13ClientSessionValue).ageSecs.toNat =
        t.toNat - t0.toNat := by
      rw [Retrieved.toNat_ageSecs (hepoch ▸ hlater), hepoch]
    have hsecs : (⟨value, t⟩ : Retrieved Tls13ClientSessionValue).ageSecs.toUInt32.toNat =
        t.toNat - t0.toNat := by
      rw [UInt64.toNat_toUInt32, hage]
      exact Nat.mod_eq_of_lt hsmall
    show 2 ^ 32 ≤ (⟨value, t⟩ : Retrieved Tls13ClientSessionValue).ageSecs.toUInt32.toNat * 1000
    rw [hsecs]
    omega

theorem findSession_offers_zero_lifetime_ticket_after_sixty_days :
    maxTls13TicketsPerServer < 256 ∧ (⟨0, 0, [], [1], none, false⟩ :
      NewSessionTicketPayloadTls13).hasDuplicateExtension = false ∧
    (⟨0, 0, [], [1], none, false⟩ : NewSessionTicketPayloadTls13).lifetime = 0 ∧
    (1000 : UInt64) ≤ 1000 + 5184000 ∧
    ∃ store, handleNewTicketTls13 ((ClientSessionMemoryCache.new 256).run []) (0 : Nat)
        .tls13Aes128GcmSha256 32 id (some 1000) ⟨0, 0, [], [1], none, false⟩ = .ok store ∧
      (findSession store 0 (some (1000 + 5184000))).1 =
        some ⟨.tls13 ((⟨0, 0, [], [1], none, false⟩ : NewSessionTicketPayloadTls13).toValue
          .tls13Aes128GcmSha256 32 id 1000), 1000 + 5184000⟩ ∧
      (4294968 ≤ (1000 + 5184000 : UInt64).toNat - (1000 : UInt64).toNat →
        (1000 + 5184000 : UInt64).toNat - (1000 : UInt64).toNat < 2 ^ 32 →
        2 ^ 32 ≤ (⟨(⟨0, 0, [], [1], none, false⟩ : NewSessionTicketPayloadTls13).toValue
          .tls13Aes128GcmSha256 32 id 1000, 1000 + 5184000⟩ :
            Retrieved Tls13ClientSessionValue).ageSecs.toUInt32.toNat * 1000) :=
  ⟨by decide, rfl, rfl, by decide,
    findSession_offers_zero_lifetime_ticket (by decide) [] 0 .tls13Aes128GcmSha256 32 id rfl rfl
      1000 (1000 + 5184000) (by decide)⟩

/-- The default store of a client, given a NewSessionTicket with a lifetime of
zero, still offers the ticket sixty days later. -/
theorem zero_lifetime_ticket_offered_after_sixty_days :
    (match handleNewTicketTls13 (ClientSessionMemoryCache.new 256 : ClientSessionStore Nat) 0
        .tls13Aes128GcmSha256 32 id (some 1000) ⟨0, 0, [], [1], none, false⟩ with
      | .ok store => (findSession store 0 (some (1000 + 5184000))).1.isSome
      | .error _ => false) = true := by
  decide

/-- A ticket with a positive lifetime is offered exactly while its age is
within the lifetime, capped at seven days; its age then fits in a `u32` of
milliseconds, and the age sent is the age plus `age_add`, modulo `2^32`. -/
theorem findSession_of_lifetime_ne_zero {size : Nat} (hsize : maxTls13TicketsPerServer < size)
    (ops : List (ClientSessionMemoryCache.StoreOp K Tls12ClientSessionValue Tls13ClientSessionValue))
    (serverName : K) (suite : CipherSuite) (hashLen : Nat) (ticketPsk : List UInt8 → List UInt8)
    {nst : NewSessionTicketPayloadTls13} (hdup : nst.hasDuplicateExtension = false)
    (hpos : nst.lifetime ≠ 0) (t0 t : UInt64) (hlater : t0 ≤ t) (hfit : t0.toNat + 604800 < 2 ^ 64) :
    ∃ store, handleNewTicketTls13 ((ClientSessionMemoryCache.new size).run ops) serverName suite
        hashLen ticketPsk (some t0) nst = .ok store ∧
      ((findSession store serverName (some t)).1.isSome = true ↔
        t.toNat - t0.toNat ≤ min nst.lifetime.toNat 604800) ∧
      (t.toNat - t0.toNat ≤ min nst.lifetime.toNat 604800 →
        (⟨nst.toValue suite hashLen ticketPsk t0, t⟩ :
          Retrieved Tls13ClientSessionValue).obfuscatedTicketAge.toNat =
            ((t.toNat - t0.toNat) * 1000 + nst.ageAdd.toNat) % 2 ^ 32) := by
  let value := nst.toValue suite hashLen ticketPsk t0
  have hepoch : value.common.epoch = t0 := rfl
  have hlife : value.common.lifetimeSecs.toNat = min nst.lifetime.toNat 604800 := by
    simp only [value, NewSessionTicketPayloadTls13.toValue, Tls13ClientSessionValue.new,
      ClientSessionCommon.new, maxTicketLifetime, UInt32.toNat_min]
    rfl
  have hlife_ne : value.common.lifetimeSecs ≠ 0 := by
    intro h0
    rw [h0] at hlife
    have : nst.lifetime.toNat ≠ 0 := fun h => hpos (UInt32.toNat_inj.mp h)
    simp only [UInt32.toNat_zero] at hlife
    omega
  have hage : (⟨value, t⟩ : Retrieved Tls13ClientSessionValue).ageSecs.toNat = t.toNat - t0.toNat := by
    rw [Retrieved.toNat_ageSecs (hepoch ▸ hlater), hepoch]
  refine ⟨_, handleNewTicketTls13_eq_ok _ serverName suite hashLen ticketPsk t0 hdup, ?_, ?_⟩
  · rw [findSession_insertTls13Ticket hsize ops serverName value t]
    have hfit' : value.common.epoch.toNat + value.common.lifetimeSecs.toNat < 2 ^ 64 := by
      rw [hepoch, hlife]
      omega
    have hexp := @Retrieved.hasExpired_iff ClientSessionValue ClientSessionValue.common
      ⟨.tls13 value, t⟩ hlife_ne hfit'
    have hle := UInt64.le_iff_toNat_le.mp hlater
    by_cases hexpired : (⟨.tls13 value, t⟩ : Retrieved ClientSessionValue).hasExpired
        ClientSessionValue.common = true
    · rw [if_pos hexpired]
      have hpast := hexp.mp hexpired
      change value.common.epoch.toNat + value.common.lifetimeSecs.toNat < t.toNat at hpast
      rw [hepoch, hlife] at hpast
      simp only [Option.isSome_none, Bool.false_eq_true, false_iff, not_le]
      omega
    · rw [if_neg hexpired]
      have hnot : ¬ (value.common.epoch.toNat + value.common.lifetimeSecs.toNat < t.toNat) :=
        fun h => hexpired (hexp.mpr h)
      rw [hepoch, hlife] at hnot
      simp only [Option.isSome_some, true_iff]
      omega
  · intro hwithin
    have hsmall : (⟨value, t⟩ : Retrieved Tls13ClientSessionValue).ageSecs.toNat < 2 ^ 32 := by
      rw [hage]
      omega
    rw [Retrieved.toNat_obfuscatedTicketAge hsmall, hage]
    rfl

end Rustls
