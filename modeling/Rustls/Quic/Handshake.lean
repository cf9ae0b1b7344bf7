import Rustls.Quic.Keys
import Rustls.Lib.Budget

/-!
The handshake data of a QUIC connection and the keys that go with it:
`Quic::write_hs` of `quic.rs`, with the calls of `common_state.rs` and
`tls13/key_schedule.rs` that fill the state it reads.

TLS hands QUIC its handshake messages instead of writing records:
`send_msg` queues each encoded message with whether it must be encrypted.
The key schedule leaves the Handshake level's secrets (`into_handshake`) and
the 1-RTT level's (`into_traffic`, `into_traffic_with_client_finished_pending`).
`write_hs` moves queued messages to the caller's buffer, stopping before a
message that must be encrypted while Handshake keys are still to be handed
over, and then hands over at most one key change: the Handshake keys when
their secrets are there, else the 1-RTT keys with the secrets of the next key
phase, and the 1-RTT keys only once.

Over any run of these calls (`QuicEvent`) no handshake byte is lost or
written twice, and they come out in the order they were queued; the 1-RTT
keys are handed over at most once; and every key change carries the keys of
the secrets the key schedule stored, the 1-RTT one with those secrets one key
update on (`write_hs_hands_over_in_order`).  With `Quic.Keys`, the key
changes the client's and the server's `write_hs` hand over agree
(`quic_key_changes_agree`).
-/

namespace Rustls

open Quic

/-- The fields of `Quic` that `write_hs` reads and writes; the transport
parameters, the alert, the early secret and the version it does not read. -/
structure Quic (E P H : Type) where
  hsQueue : List (Bool × List UInt8)
  hsSecrets : Option (Secrets E P H)
  trafficSecrets : Option (Secrets E P H)
  returnedTrafficKeys : Bool

namespace Quic

variable {E P H : Type} (expand : E → List (List UInt8) → (n : Nat) → Vector UInt8 n)

/-- `KeyChange`. -/
inductive KeyChange (E P H : Type)
  | handshake (keys : Keys P H)
  | oneRtt (keys : Keys P H) (next : Secrets E P H)

/-- `Quic::default`. -/
def default : Quic E P H :=
  ⟨[], none, none, false⟩

/-- The loop of `write_hs`: each message at the front of the queue goes to
the buffer, and the loop stops after one when the next must be encrypted and
handshake secrets are still to be handed over. -/
def drainHsQueue (pendingHs : Bool) :
    List (Bool × List UInt8) → List UInt8 → List UInt8 × List (Bool × List UInt8)
  | [], buf => (buf, [])
  | (_, msg) :: rest, buf =>
    match rest with
    | (true, _) :: _ =>
      -- allow the caller to switch keys before proceeding
      if pendingHs then (buf ++ msg, rest) else drainHsQueue pendingHs rest (buf ++ msg)
    | _ => drainHsQueue pendingHs rest (buf ++ msg)

/-- What `write_hs` does once the messages are written: hand over the
Handshake keys when their secrets are there, else the 1-RTT keys with the
secrets of the next key phase, the first time only. -/
def keyChange (q : Quic E P H) : Option (KeyChange E P H) × Quic E P H :=
  match q.hsSecrets with
  | some secrets => (some (.handshake (Keys.new expand secrets)), { q with hsSecrets := none })
  | none =>
    match q.trafficSecrets with
    | some secrets =>
      if !q.returnedTrafficKeys then
        (some (.oneRtt (Keys.new expand secrets) secrets.update),
          { q with trafficSecrets := none, returnedTrafficKeys := true })
      else (none, { q with trafficSecrets := none })
    | none => (none, q)

/-- `write_hs`: the buffer with the messages written, the key change handed
over, and the state after. -/
def writeHs (q : Quic E P H) (buf : List UInt8) :
    (List UInt8 × Option (KeyChange E P H)) × Quic E P H :=
  let drained := drainHsQueue q.hsSecrets.isSome q.hsQueue buf
  let change := keyChange expand { q with hsQueue := drained.2 }
  ((drained.1, change.1), change.2)

/-! ### The queue -/

/-- The bytes of the messages of a queue, in order. -/
def queued (queue : List (Bool × List UInt8)) : List UInt8 :=
  queue.flatMap (·.2)

/-- The loop moves the front of the queue to the buffer, in order: what was
in the buffer and the queue is what is in the buffer and the queue after. -/
theorem drainHsQueue_conserves (pendingHs : Bool) (queue : List (Bool × List UInt8)) (buf : List UInt8) :
    buf ++ queued queue = (drainHsQueue pendingHs queue buf).1 ++ queued (drainHsQueue pendingHs queue buf).2 := by
  induction queue generalizing buf with
  | nil => simp [drainHsQueue, queued]
  | cons m rest ih =>
    obtain ⟨encrypt, msg⟩ := m
    have hmove : buf ++ queued ((encrypt, msg) :: rest) = (buf ++ msg) ++ queued rest := by
      simp [queued]
    rw [hmove]
    -- the loop either stops before an encrypted message or goes on
    unfold drainHsQueue
    split
    · split
      · rfl
      · exact ih _
    · exact ih _

@[simp] theorem hsQueue_keyChange (q : Quic E P H) : (keyChange expand q).2.hsQueue = q.hsQueue := by
  unfold keyChange
  split
  · rfl
  · split
    · split <;> rfl
    · rfl

/-- `write_hs` writes what it takes off the queue. -/
theorem writeHs_conserves (q : Quic E P H) (buf : List UInt8) :
    buf ++ queued q.hsQueue = (q.writeHs expand buf).1.1 ++ queued (q.writeHs expand buf).2.hsQueue := by
  rw [drainHsQueue_conserves q.hsSecrets.isSome q.hsQueue buf]
  simp only [writeHs, hsQueue_keyChange]

/-- Everything `write_hs` can do with the keys: hand over the Handshake keys
of the pending secrets, the 1-RTT keys of the traffic secrets with the next
phase's secrets the first time, or nothing. -/
theorem writeHs_cases (q : Quic E P H) (buf : List UInt8) :
    (∃ secrets, q.hsSecrets = some secrets ∧
        (q.writeHs expand buf).1.2 = some (.handshake (Keys.new expand secrets)) ∧
        (q.writeHs expand buf).2.hsSecrets = none ∧
        (q.writeHs expand buf).2.trafficSecrets = q.trafficSecrets ∧
        (q.writeHs expand buf).2.returnedTrafficKeys = q.returnedTrafficKeys) ∨
      (∃ secrets, q.hsSecrets = none ∧ q.trafficSecrets = some secrets ∧ q.returnedTrafficKeys = false ∧
        (q.writeHs expand buf).1.2 = some (.oneRtt (Keys.new expand secrets) secrets.update) ∧
        (q.writeHs expand buf).2.hsSecrets = none ∧ (q.writeHs expand buf).2.trafficSecrets = none ∧
        (q.writeHs expand buf).2.returnedTrafficKeys = true) ∨
      ((q.writeHs expand buf).1.2 = none ∧ (q.writeHs expand buf).2.hsSecrets = q.hsSecrets ∧
        ((q.writeHs expand buf).2.trafficSecrets = none ∨
          (q.writeHs expand buf).2.trafficSecrets = q.trafficSecrets) ∧
        (q.writeHs expand buf).2.returnedTrafficKeys = q.returnedTrafficKeys) := by
  unfold writeHs keyChange
  dsimp only
  cases hhs : q.hsSecrets with
  | some secrets => exact .inl ⟨secrets, rfl, rfl, rfl, rfl, rfl⟩
  | none =>
    cases htraffic : q.trafficSecrets with
    | none => exact .inr (.inr ⟨rfl, rfl, .inr rfl, rfl⟩)
    | some secrets =>
      cases hreturned : q.returnedTrafficKeys with
      | false => exact .inr (.inl ⟨secrets, rfl, rfl, rfl, rfl, rfl, rfl, rfl⟩)
      | true => exact .inr (.inr ⟨rfl, rfl, .inl rfl, rfl⟩)

/-! ### Runs -/

/-- What reaches the `Quic` state: a handshake message that `send_msg`
queues with whether it must be encrypted, the secrets the key schedule
stores, or a call of `write_hs` with an empty buffer. -/
inductive Event (E P H : Type)
  | sendMsg (mustEncrypt : Bool) (bytes : List UInt8)
  | setHsSecrets (secrets : Secrets E P H)
  | setTrafficSecrets (secrets : Secrets E P H)
  | writeHs

/-- One event, with what `write_hs` returned when it is a call of it. -/
def step (q : Quic E P H) :
    Event E P H → Option (Option (List UInt8 × Option (KeyChange E P H)) × Quic E P H)
  | .sendMsg mustEncrypt bytes => some (none, { q with hsQueue := q.hsQueue ++ [(mustEncrypt, bytes)] })
  | .setHsSecrets secrets => some (none, { q with hsSecrets := some secrets })
  | .setTrafficSecrets secrets => some (none, { q with trafficSecrets := some secrets })
  | .writeHs => some (some (q.writeHs expand []).1, (q.writeHs expand []).2)

/-- The bytes an event queues. -/
def Event.bytes : Event E P H → List UInt8
  | .sendMsg _ bytes => bytes
  | _ => []

/-- The event stores no secrets but the given ones. -/
def Event.Stores (hs traffic : Secrets E P H) : Event E P H → Prop
  | .setHsSecrets secrets => secrets = hs
  | .setTrafficSecrets secrets => secrets = traffic
  | _ => True

/-- The bytes a call of `write_hs` wrote. -/
def written : Option (List UInt8 × Option (KeyChange E P H)) → List UInt8
  | some (buf, _) => buf
  | none => []

/-- The key change a call of `write_hs` handed over. -/
def handedOver : Option (List UInt8 × Option (KeyChange E P H)) → Option (KeyChange E P H)
  | some (_, change) => change
  | none => none

/-- Everything one event can do. -/
theorem step_eq_some {q q' : Quic E P H} {ev : Event E P H}
    {out : Option (List UInt8 × Option (KeyChange E P H))} (h : step expand q ev = some (out, q')) :
    (∃ mustEncrypt bytes, ev = .sendMsg mustEncrypt bytes ∧ out = none ∧
        q' = { q with hsQueue := q.hsQueue ++ [(mustEncrypt, bytes)] }) ∨
      (∃ secrets, ev = .setHsSecrets secrets ∧ out = none ∧ q' = { q with hsSecrets := some secrets }) ∨
      (∃ secrets, ev = .setTrafficSecrets secrets ∧ out = none ∧
        q' = { q with trafficSecrets := some secrets }) ∨
      (ev = .writeHs ∧ out = some (q.writeHs expand []).1 ∧ q' = (q.writeHs expand []).2) := by
  cases ev with
  | sendMsg mustEncrypt bytes =>
    simp only [step, Option.some.injEq, Prod.mk.injEq] at h
    exact .inl ⟨mustEncrypt, bytes, rfl, h.1.symm, h.2.symm⟩
  | setHsSecrets secrets =>
    simp only [step, Option.some.injEq, Prod.mk.injEq] at h
    exact .inr (.inl ⟨secrets, rfl, h.1.symm, h.2.symm⟩)
  | setTrafficSecrets secrets =>
    simp only [step, Option.some.injEq, Prod.mk.injEq] at h
    exact .inr (.inr (.inl ⟨secrets, rfl, h.1.symm, h.2.symm⟩))
  | writeHs =>
    simp only [step, Option.some.injEq, Prod.mk.injEq] at h
    exact .inr (.inr (.inr ⟨rfl, h.1.symm, h.2.symm⟩))

/-- Only a call of `write_hs` hands keys over. -/
theorem writeHs_of_handedOver {q q' : Quic E P H} {ev : Event E P H}
    {out : Option (List UInt8 × Option (KeyChange E P H))} (h : step expand q ev = some (out, q'))
    {change : KeyChange E P H} (hchange : handedOver out = some change) :
    ev = .writeHs ∧ (q.writeHs expand []).1.2 = some change ∧ q' = (q.writeHs expand []).2 := by
  rcases step_eq_some expand h with ⟨_, _, -, rfl, -⟩ | ⟨_, -, rfl, -⟩ | ⟨_, -, rfl, -⟩ | ⟨hev, rfl, hq'⟩
  · cases hchange
  · cases hchange
  · cases hchange
  · exact ⟨hev, hchange, hq'⟩

/-- No event loses or duplicates a queued byte. -/
theorem step_conserves :
    Budget.Conserves (step expand) (fun q : Quic E P H => queued q.hsQueue) Event.bytes written := by
  intro q ev out q' h
  rcases step_eq_some expand h with ⟨mustEncrypt, bytes, rfl, rfl, rfl⟩ | ⟨secrets, rfl, rfl, rfl⟩ |
    ⟨secrets, rfl, rfl, rfl⟩ | ⟨rfl, rfl, rfl⟩
  · simp [queued, Event.bytes, written]
  · simp [Event.bytes, written]
  · simp [Event.bytes, written]
  · simpa [Event.bytes, written] using writeHs_conserves expand q []

/-- The state holds no secrets but the given ones. -/
def HoldsOnly (hs traffic : Secrets E P H) (q : Quic E P H) : Prop :=
  (∀ s, q.hsSecrets = some s → s = hs) ∧ (∀ s, q.trafficSecrets = some s → s = traffic)

section Stored

variable {hs traffic : Secrets E P H}

theorem keeps_holdsOnly : Budget.Keeps (step expand) (Event.Stores hs traffic) (HoldsOnly hs traffic) := by
  intro q ev out q' hstores ⟨hhs, htraffic⟩ h
  rcases step_eq_some expand h with ⟨mustEncrypt, bytes, rfl, rfl, rfl⟩ | ⟨secrets, rfl, rfl, rfl⟩ |
    ⟨secrets, rfl, rfl, rfl⟩ | ⟨rfl, rfl, rfl⟩
  · exact ⟨hhs, htraffic⟩
  · refine ⟨fun s hs' => ?_, htraffic⟩
    cases hs'
    exact hstores
  · refine ⟨hhs, fun s hs' => ?_⟩
    cases hs'
    exact hstores
  · rcases writeHs_cases expand q [] with ⟨_, _, _, hnone, htr, _⟩ | ⟨_, _, _, _, _, hnone, htr, _⟩ |
      ⟨_, hsame, htr, _⟩
    · refine ⟨fun s h' => ?_, fun s h' => htraffic s (htr ▸ h')⟩
      rw [hnone] at h'
      cases h'
    · refine ⟨fun s h' => ?_, fun s h' => ?_⟩
      · rw [hnone] at h'
        cases h'
      · rw [htr] at h'
        cases h'
    · refine ⟨fun s h' => hhs s (hsame ▸ h'), fun s h' => ?_⟩
      rcases htr with htr | htr
      · rw [htr] at h'
        cases h'
      · exact htraffic s (htr ▸ h')

/-- From such a state, a call hands over only the keys of those secrets. -/
theorem handedOver_of_holdsOnly {q q' : Quic E P H} {ev : Event E P H}
    {out : Option (List UInt8 × Option (KeyChange E P H))} (hq : HoldsOnly hs traffic q)
    (h : step expand q ev = some (out, q')) (change : KeyChange E P H) (hchange : handedOver out = some change) :
    change = .handshake (Keys.new expand hs) ∨ change = .oneRtt (Keys.new expand traffic) traffic.update := by
  obtain ⟨-, hcall, -⟩ := writeHs_of_handedOver expand h hchange
  rcases writeHs_cases expand q [] with ⟨secrets, hhs, hout, -⟩ | ⟨secrets, -, htr, -, hout, -⟩ |
    ⟨hout, -⟩
  · rw [hout] at hcall
    cases hcall
    exact .inl (by rw [hq.1 secrets hhs])
  · rw [hout] at hcall
    cases hcall
    exact .inr (by rw [hq.2 secrets htr])
  · rw [hout] at hcall
    cases hcall

end Stored

/-- Once the 1-RTT keys are handed over, they stay handed over. -/
theorem keeps_returned :
    Budget.Keeps (step expand) (fun _ => True) fun q : Quic E P H => q.returnedTrafficKeys = true := by
  intro q ev out q' _ hq h
  rcases step_eq_some expand h with ⟨_, _, rfl, rfl, rfl⟩ | ⟨_, rfl, rfl, rfl⟩ | ⟨_, rfl, rfl, rfl⟩ |
    ⟨rfl, rfl, rfl⟩
  · exact hq
  · exact hq
  · exact hq
  · rcases writeHs_cases expand q [] with ⟨-, -, -, -, -, hret⟩ | ⟨-, -, -, hfalse, -⟩ | ⟨-, -, -, hret⟩
    · exact hret.trans hq
    · rw [hq] at hfalse
      cases hfalse
    · exact hret.trans hq

/-- A call hands over the 1-RTT keys only if they were not handed over, and
marks them handed over. -/
theorem returned_of_oneRtt {q q' : Quic E P H} {ev : Event E P H}
    {out : Option (List UInt8 × Option (KeyChange E P H))} (h : step expand q ev = some (out, q'))
    {keys : Keys P H} {next : Secrets E P H} (hout : handedOver out = some (.oneRtt keys next)) :
    q.returnedTrafficKeys = false ∧ q'.returnedTrafficKeys = true := by
  obtain ⟨-, hcall, rfl⟩ := writeHs_of_handedOver expand h hout
  rcases writeHs_cases expand q [] with ⟨_, -, hchange, -⟩ | ⟨_, -, -, hfalse, -, -, -, hret⟩ |
    ⟨hchange, -⟩
  · rw [hchange] at hcall
    cases hcall
  · exact ⟨hfalse, hret⟩
  · rw [hchange] at hcall
    cases hcall

/-- Over a run that stores only `hs` and `traffic`, every key change handed
over is the Handshake keys of `hs` or the 1-RTT keys of `traffic`, with its
secrets one key update on. -/
theorem handedOver_of_run {hs traffic : Secrets E P H} {events : List (Event E P H)}
    {outs : List (Option (List UInt8 × Option (KeyChange E P H)))} {q : Quic E P H}
    (hstores : ∀ ev ∈ events, ev.Stores hs traffic) (h : Budget.run (step expand) default events = some (outs, q)) :
    ∀ out ∈ outs, ∀ change, handedOver out = some change →
      change = .handshake (Keys.new expand hs) ∨ change = .oneRtt (Keys.new expand traffic) traffic.update := by
  have hinit : HoldsOnly hs traffic (default : Quic E P H) :=
    ⟨fun _ hnone => (by cases hnone), fun _ hnone => (by cases hnone)⟩
  exact (keeps_holdsOnly expand).forall_mem
    (fun _ _ _ _ _ hq hstep change hchange => handedOver_of_holdsOnly expand hq hstep change hchange)
    hstores hinit h

/-- **`write_hs` hands over the handshake data and the keys in order.**  Over
any run of queued messages, stored secrets and calls of `write_hs` from a
fresh state, where the key schedule stores the Handshake secrets `hs` and the
1-RTT secrets `traffic`: the bytes written, followed by what is still queued,
are the bytes queued, in order; every key change is the Handshake keys of
`hs` or the 1-RTT keys of `traffic` with its secrets one key update on; and
once the 1-RTT keys are handed over, no later call hands them over again. -/
theorem write_hs_hands_over_in_order (hs traffic : Secrets E P H) {events : List (Event E P H)}
    {outs : List (Option (List UInt8 × Option (KeyChange E P H)))} {q : Quic E P H}
    (hstores : ∀ ev ∈ events, ev.Stores hs traffic) (h : Budget.run (step expand) default events = some (outs, q)) :
    outs.flatMap written ++ queued q.hsQueue = events.flatMap Event.bytes ∧
      (∀ out ∈ outs, ∀ change, handedOver out = some change →
        change = .handshake (Keys.new expand hs) ∨ change = .oneRtt (Keys.new expand traffic) traffic.update) ∧
      (∀ pre out post, outs = pre ++ out :: post → ∀ keys next, handedOver out = some (.oneRtt keys next) →
        ∀ out' ∈ post, ∀ keys' next', handedOver out' ≠ some (.oneRtt keys' next')) := by
  refine ⟨?_, handedOver_of_run expand hstores h, ?_⟩
  · have hrun := (step_conserves expand).run h
    simpa [default, queued] using hrun.symm
  · intro pre out post hsplit keys next hout
    rw [hsplit] at h
    -- the call that handed the keys over, and the run after it
    obtain ⟨-, erest, u, -, -, hrest⟩ := Budget.run_eq_some_append h
    cases erest with
    | nil => cases hrest
    | cons ev epost =>
      obtain ⟨b, u', bs', hstep, hpost, hbs⟩ := Budget.run_cons_eq_some.mp hrest
      obtain ⟨rfl, rfl⟩ := List.cons.inj hbs
      have hnever : ∀ out' ∈ post, ∀ keys' next', handedOver out' ≠ some (.oneRtt keys' next') :=
        (keeps_returned expand).forall_mem
          (fun _ _ _ _ _ hq hstep' _ _ hout' => by
            have hfalse := (returned_of_oneRtt expand hstep' hout').1
            rw [hq] at hfalse
            cases hfalse)
          (fun _ _ => trivial) (returned_of_oneRtt expand hstep hout).2 hpost
      exact hnever

/-- The Handshake and 1-RTT secrets of a server, over the constant suite. -/
def serverHsSecrets : Secrets Unit Unit Unit := .new [1] [2] constantSuite unitAlgorithm .server .v1

def serverTrafficSecrets : Secrets Unit Unit Unit := .new [3] [4] constantSuite unitAlgorithm .server .v1

/-- A server's flight: the ServerHello in the clear, the handshake secrets,
two encrypted messages, and the traffic secrets, with four calls of
`write_hs` in between. -/
def serverFlight : List (Event Unit Unit Unit) :=
  [.sendMsg false [2], .setHsSecrets serverHsSecrets, .sendMsg true [8], .sendMsg true [11], .writeHs, .writeHs,
    .setTrafficSecrets serverTrafficSecrets, .writeHs, .writeHs]

/-- What the four calls return: the ServerHello with the Handshake keys, the
encrypted messages, the 1-RTT keys, and nothing. -/
def serverFlightOuts : List (Option (List UInt8 × Option (KeyChange Unit Unit Unit))) :=
  [none, none, none, none, some ([2], some (.handshake (Keys.new zeroExpand serverHsSecrets))), some ([8, 11], none),
    none, some ([], some (.oneRtt (Keys.new zeroExpand serverTrafficSecrets) serverTrafficSecrets.update)),
    some ([], none)]

theorem server_flight_handed_over_in_order :
    serverFlightOuts.flatMap written ++ queued ([] : List (Bool × List UInt8)) = serverFlight.flatMap Event.bytes ∧
      (∀ out ∈ serverFlightOuts, ∀ change, handedOver out = some change →
        change = .handshake (Keys.new zeroExpand serverHsSecrets) ∨
          change = .oneRtt (Keys.new zeroExpand serverTrafficSecrets) serverTrafficSecrets.update) ∧
      (∀ pre out post, serverFlightOuts = pre ++ out :: post → ∀ keys next,
        handedOver out = some (.oneRtt keys next) →
          ∀ out' ∈ post, ∀ keys' next', handedOver out' ≠ some (.oneRtt keys' next')) :=
  write_hs_hands_over_in_order zeroExpand serverHsSecrets serverTrafficSecrets
    (by simp [serverFlight, Event.Stores]) (q := ⟨[], none, none, true⟩) rfl

end Quic

variable {E P H : Type} (expand : E → List (List UInt8) → (n : Nat) → Vector UInt8 n)

/-- **The key changes of the two ends agree.**  For every TLS 1.3 handshake
carried over QUIC, take any run of the client's `Quic` state and any run of
the server's in which the key schedules store that handshake's secrets.
Every Handshake key change the server's `write_hs` hands over is the
client's with the directions exchanged, and so is every 1-RTT key change,
whose next secrets give each other's packet keys at every later key phase. -/
theorem quic_key_changes_agree (h : Tls13Handshake E) (quic : Algorithm P H) (version : Version)
    (crl srl : SecretRecordLayer) {cevents sevents : List (Quic.Event E P H)}
    {couts souts : List (Option (List UInt8 × Option (Quic.KeyChange E P H)))} {cq sq : Quic E P H}
    (hclient : ∀ ev ∈ cevents, ev.Stores ((h.clientHandshakeSchedule crl).quicSecrets quic .client version)
      ((h.clientRun crl).traffic.quicSecrets quic .client version))
    (hserver : ∀ ev ∈ sevents, ev.Stores ((h.serverHello srl).1.quicSecrets quic .server version)
      ((h.serverRun srl).traffic.quicSecrets quic .server version))
    (hc : Budget.run (Quic.step expand) Quic.default cevents = some (couts, cq))
    (hs : Budget.run (Quic.step expand) Quic.default sevents = some (souts, sq)) :
    (∀ oc ∈ couts, ∀ os ∈ souts, ∀ kc ks, Quic.handedOver oc = some (.handshake kc) →
        Quic.handedOver os = some (.handshake ks) → ks = kc.swap) ∧
      (∀ oc ∈ couts, ∀ os ∈ souts, ∀ kc nc ks ns, Quic.handedOver oc = some (.oneRtt kc nc) →
        Quic.handedOver os = some (.oneRtt ks ns) →
          ks = kc.swap ∧ ∀ n, ns.keyPhases expand n = (nc.keyPhases expand n).map PacketKeySet.swap) := by
  have hclientChanges := Quic.handedOver_of_run expand hclient hc
  have hserverChanges := Quic.handedOver_of_run expand hserver hs
  rw [h.handshake_quicSecrets_peer quic version crl srl, h.traffic_quicSecrets_peer quic version crl srl]
    at hserverChanges
  constructor
  · intro oc hoc os hos kc ks hkc hks
    -- a Handshake change is the Handshake keys of the stored secrets, at each end
    obtain hkc' | hkc' := hclientChanges oc hoc _ hkc
    · obtain hks' | hks' := hserverChanges os hos _ hks
      · cases hkc'
        cases hks'
        exact Keys.new_peer expand _
      · cases hks'
    · cases hkc'
  · intro oc hoc os hos kc nc ks ns hkc hks
    obtain hkc' | hkc' := hclientChanges oc hoc _ hkc
    · cases hkc'
    · obtain hks' | hks' := hserverChanges os hos _ hks
      · cases hks'
      · cases hkc'
        cases hks'
        refine ⟨Keys.new_peer expand _, fun n => ?_⟩
        rw [Secrets.update_peer, Secrets.keyPhases_peer]

/-- The 1-RTT secrets each end of the resumed handshake stores for QUIC. -/
def resumedClientTraffic : Secrets Unit Unit Unit :=
  (resumedHandshake.clientRun idleRecordLayer).traffic.quicSecrets unitAlgorithm .client .v1

def resumedServerTraffic : Secrets Unit Unit Unit :=
  (resumedHandshake.serverRun idleRecordLayer).traffic.quicSecrets unitAlgorithm .server .v1

theorem resumed_one_rtt_key_changes_agree :
    (∀ oc ∈ [none, some ([], some (.oneRtt (Keys.new zeroExpand resumedClientTraffic) resumedClientTraffic.update))],
      ∀ os ∈ [none, some ([], some (.oneRtt (Keys.new zeroExpand resumedServerTraffic) resumedServerTraffic.update))],
      ∀ kc ks, Quic.handedOver oc = some (.handshake kc) → Quic.handedOver os = some (.handshake ks) →
        ks = kc.swap) ∧
      (∀ oc ∈ [none, some ([], some (.oneRtt (Keys.new zeroExpand resumedClientTraffic) resumedClientTraffic.update))],
        ∀ os ∈ [none, some ([], some (.oneRtt (Keys.new zeroExpand resumedServerTraffic) resumedServerTraffic.update))],
        ∀ kc nc ks ns, Quic.handedOver oc = some (.oneRtt kc nc) → Quic.handedOver os = some (.oneRtt ks ns) →
          ks = kc.swap ∧ ∀ n, ns.keyPhases zeroExpand n = (nc.keyPhases zeroExpand n).map PacketKeySet.swap) :=
  @quic_key_changes_agree Unit Unit Unit zeroExpand resumedHandshake unitAlgorithm .v1 idleRecordLayer
    idleRecordLayer [.setTrafficSecrets resumedClientTraffic, .writeHs]
    [.setTrafficSecrets resumedServerTraffic, .writeHs] _ _ ⟨[], none, none, true⟩ ⟨[], none, none, true⟩
    (by simp [Quic.Event.Stores, resumedClientTraffic]) (by simp [Quic.Event.Stores, resumedServerTraffic]) rfl rfl

end Rustls
