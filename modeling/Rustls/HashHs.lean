import Rustls.CommonState
import Rustls.Msgs.Codec

/-!
The handshake transcript of `hash_hs.rs`.

Until a suite is chosen the handshake only buffers its messages
(`HandshakeHashBuffer`); `start_hash` feeds the buffer to a hash context of
the suite's hash and from then on each message goes to the context
(`HandshakeHash`), and to a second buffer if client authentication may need
the whole transcript.  A HelloRetryRequest restarts the transcript with the
`message_hash` message of its hash, in one of two ways: `into_hrr_buffer`
goes back to a buffer holding that message, to be hashed again by
`start_hash`, and `rollup_for_hrr` puts a fresh context in place and feeds
it the message, while the client-auth buffer keeps what it had and grows.

A hash context is modelled by the bytes fed to it: `update` appends, `finish`
and `fork_finish` apply the hash function, `fork` copies.  The methods that
take `&self` (`hash_given`, `current_hash`) are functions of the state.

`Transcript` is the state under either type, and `Transcript.step` the
methods, each on the type that has it.  What the transcript is meant to be is
RFC 8446's (`rfcTranscript`): the messages one after another, with all before
a HelloRetryRequest replaced by the `message_hash` of their hash.
`holds_run` says every run holds it, in the buffer or in the context, so
`current_hash` is its hash (`transcript_hash_is_rfc`).  The client-auth
buffer holds it too as long as client authentication is on and no
`rollup_for_hrr` came in between.

`add_message` hashes a handshake message by its encoding, and ignores every
other payload; a flight of handshake messages sent at once is hashed with
`add`, which the model's `MessagePayload` stands for.
-/

namespace Rustls

/-- `Output::MAX_LEN`. -/
def outputMaxLen : Nat := 64

/-- `hash::Hash`, as the transcript uses it: its hash function, whose result
a `hash::Output` holds, so at most `Output::MAX_LEN` bytes. -/
structure Hash where
  hash : List UInt8 → List UInt8
  length_hash_le : ∀ m, (hash m).length ≤ outputMaxLen

/-- `hash::Context`: the hash it computes, and the bytes fed to it. -/
structure Context where
  hash : Hash
  fed : List UInt8

/-- `Hash::start`. -/
def Hash.start (h : Hash) : Context :=
  ⟨h, []⟩

namespace Context

/-- `Context::update`. -/
def update (ctx : Context) (data : List UInt8) : Context :=
  { ctx with fed := ctx.fed ++ data }

/-- `Context::finish`. -/
def finish (ctx : Context) : List UInt8 :=
  ctx.hash.hash ctx.fed

/-- `Context::fork_finish`. -/
def forkFinish (ctx : Context) : List UInt8 :=
  ctx.hash.hash ctx.fed

/-- `Context::fork`. -/
def fork (ctx : Context) : Context :=
  ctx

end Context

/-- `HandshakeMessagePayload::build_handshake_hash(hash).get_encoding()`: the
type `MessageHash`, then the hash in a `U24` `LengthPrefixedBuffer`. -/
def encodeHandshakeHash (hash : List UInt8) : List UInt8 :=
  0xfe :: lengthPrefixedBuffer .u24 hash

/-- The encoded handshake message a `Message` carries, if it carries one. -/
def Message.handshakeEncoding {H : Type} (m : Message H) : Option (List UInt8) :=
  match m.payload with
  | .handshake _ encoded => some encoded
  | _ => none

/-- `HandshakeHashBuffer`. -/
structure HandshakeHashBuffer where
  buffer : List UInt8
  clientAuthEnabled : Bool

/-- `HandshakeHash`. -/
structure HandshakeHash where
  provider : Hash
  ctx : Context
  /-- The buffer for client auth. -/
  clientAuth : Option (List UInt8)

namespace HandshakeHashBuffer

/-- `HandshakeHashBuffer::new`. -/
def new : HandshakeHashBuffer :=
  ⟨[], false⟩

/-- `set_client_auth_enabled`. -/
def setClientAuthEnabled (b : HandshakeHashBuffer) : HandshakeHashBuffer :=
  { b with clientAuthEnabled := true }

/-- `add_raw`. -/
def addRaw (b : HandshakeHashBuffer) (buf : List UInt8) : HandshakeHashBuffer :=
  { b with buffer := b.buffer ++ buf }

/-- `add_message`. -/
def addMessage {H : Type} (b : HandshakeHashBuffer) (m : Message H) : HandshakeHashBuffer :=
  match m.payload with
  | .handshake _ encoded => b.addRaw encoded
  | _ => b

/-- `hash_given`. -/
def hashGiven (b : HandshakeHashBuffer) (provider : Hash) (extra : List UInt8) : List UInt8 :=
  let ctx := provider.start
  let ctx := ctx.update b.buffer
  let ctx := ctx.update extra
  ctx.finish

/-- `start_hash`. -/
def startHash (b : HandshakeHashBuffer) (provider : Hash) : HandshakeHash :=
  let ctx := provider.start
  let ctx := ctx.update b.buffer
  ⟨provider, ctx, if b.clientAuthEnabled then some b.buffer else none⟩

end HandshakeHashBuffer

namespace HandshakeHash

/-- `abandon_client_auth`. -/
def abandonClientAuth (hh : HandshakeHash) : HandshakeHash :=
  { hh with clientAuth := none }

/-- `add_raw`. -/
def addRaw (hh : HandshakeHash) (buf : List UInt8) : HandshakeHash :=
  { hh with ctx := hh.ctx.update buf, clientAuth := hh.clientAuth.map (· ++ buf) }

/-- `add_message`. -/
def addMessage {H : Type} (hh : HandshakeHash) (m : Message H) : HandshakeHash :=
  match m.payload with
  | .handshake _ encoded => hh.addRaw encoded
  | _ => hh

/-- `add`. -/
def add (hh : HandshakeHash) (bytes : List UInt8) : HandshakeHash :=
  hh.addRaw bytes

/-- `hash_given`. -/
def hashGiven (hh : HandshakeHash) (extra : List UInt8) : List UInt8 :=
  let ctx := hh.ctx.fork
  let ctx := ctx.update extra
  ctx.finish

/-- `into_hrr_buffer`. -/
def intoHrrBuffer (hh : HandshakeHash) : HandshakeHashBuffer :=
  let oldHash := hh.ctx.finish
  let oldHandshakeHashMsg := encodeHandshakeHash oldHash
  ⟨oldHandshakeHashMsg, hh.clientAuth.isSome⟩

/-- `rollup_for_hrr`: a fresh context, fed the `message_hash` of the old
one; the client-auth buffer is left to grow. -/
def rollupForHrr (hh : HandshakeHash) : HandshakeHash :=
  let oldCtx := hh.ctx
  let hh' := { hh with ctx := hh.provider.start }
  let oldHash := oldCtx.finish
  hh'.addRaw (encodeHandshakeHash oldHash)

/-- `current_hash`. -/
def currentHash (hh : HandshakeHash) : List UInt8 :=
  hh.ctx.forkFinish

/-- `take_handshake_buf`: the client-auth buffer, which is gone after. -/
def takeHandshakeBuf (hh : HandshakeHash) : Option (List UInt8) × HandshakeHash :=
  (hh.clientAuth, { hh with clientAuth := none })

/-- `Clone for HandshakeHash`: the context forked. -/
def clone (hh : HandshakeHash) : HandshakeHash :=
  { hh with ctx := hh.ctx.fork }

end HandshakeHash

/-- The transcript under either of its types. -/
inductive Transcript
  | buffer (b : HandshakeHashBuffer)
  | hashing (hh : HandshakeHash)

/-- A method that changes the transcript. -/
inductive TranscriptOp (H : Type)
  | addMessage (m : Message H)
  | add (bytes : List UInt8)
  | setClientAuthEnabled
  | startHash
  | abandonClientAuth
  | intoHrrBuffer
  | rollupForHrr
  | takeHandshakeBuf

/-- One method, with the suite's hash `p`; none when the transcript's type
has no such method. -/
def Transcript.step {H : Type} (p : Hash) : Transcript → TranscriptOp H → Option Transcript
  | .buffer b, .addMessage m => some (.buffer (b.addMessage m))
  | .buffer b, .setClientAuthEnabled => some (.buffer b.setClientAuthEnabled)
  | .buffer b, .startHash => some (.hashing (b.startHash p))
  | .hashing hh, .addMessage m => some (.hashing (hh.addMessage m))
  | .hashing hh, .add bytes => some (.hashing (hh.add bytes))
  | .hashing hh, .abandonClientAuth => some (.hashing hh.abandonClientAuth)
  | .hashing hh, .intoHrrBuffer => some (.buffer hh.intoHrrBuffer)
  | .hashing hh, .rollupForHrr => some (.hashing hh.rollupForHrr)
  | .hashing hh, .takeHandshakeBuf => some (.hashing hh.takeHandshakeBuf.2)
  | _, _ => none

/-! ### RFC 8446's transcript -/

/-- What the handshake does to its transcript: a message, or a restart after
a HelloRetryRequest. -/
inductive TranscriptEvent
  | message (encoded : List UInt8)
  | restart

/-- RFC 8446 section 4.4.1's `message_hash` message for a hash:
`[254, 0, 0, Hash.length]`, then the hash. -/
def messageHash (h : List UInt8) : List UInt8 :=
  [254, 0, 0, UInt8.ofNat h.length] ++ h

/-- An event applied to the transcript so far: a message is appended, and a
restart replaces everything by the `message_hash` of its hash. -/
def TranscriptEvent.apply (hash : List UInt8 → List UInt8) (t : List UInt8) : TranscriptEvent → List UInt8
  | .message encoded => t ++ encoded
  | .restart => messageHash (hash t)

/-- RFC 8446's transcript after the events, from `t`. -/
def rfcTranscript (hash : List UInt8 → List UInt8) (t : List UInt8) (events : List TranscriptEvent) :
    List UInt8 :=
  events.foldl (fun t ev => ev.apply hash t) t

/-- The event a method is, if it is one. -/
def TranscriptOp.event {H : Type} : TranscriptOp H → Option TranscriptEvent
  | .addMessage m => m.handshakeEncoding.map .message
  | .add bytes => some (.message bytes)
  | .intoHrrBuffer => some .restart
  | .rollupForHrr => some .restart
  | _ => none

/-- Whether a method keeps the client-auth buffer in step with the
transcript: all but giving it up, taking it, and a restart in place. -/
def TranscriptOp.keepsClientAuth {H : Type} : TranscriptOp H → Bool
  | .abandonClientAuth => false
  | .rollupForHrr => false
  | .takeHandshakeBuf => false
  | _ => true

/-- Methods one after another. -/
def Transcript.run {H : Type} (p : Hash) : Transcript → List (TranscriptOp H) → Option Transcript
  | s, [] => some s
  | s, op :: ops => (s.step p op).bind fun s' => s'.run p ops

/-- The state holds the transcript `t`, under the suite's hash `p`: a buffer
holds its bytes, and a context of `p` has been fed them. -/
def Transcript.Holds (p : Hash) (t : List UInt8) : Transcript → Prop
  | .buffer b => b.buffer = t
  | .hashing hh => hh.provider = p ∧ hh.ctx = ⟨p, t⟩

/-- The client-auth buffer keeps the transcript `t`: a buffer that will keep
it once hashing starts, or a hash that keeps it beside its context. -/
def Transcript.KeepsBuffer (t : List UInt8) : Transcript → Prop
  | .buffer b => b.clientAuthEnabled = true
  | .hashing hh => hh.clientAuth = some t

/-- The `message_hash` message as rustls encodes it: a hash output is at
most 64 bytes, so its `u24` length is two zero bytes and the length. -/
theorem encodeHandshakeHash_eq (h : List UInt8) (hlen : h.length ≤ outputMaxLen) :
    encodeHandshakeHash h = messageHash h := by
  have hlt : h.length < 256 := Nat.lt_of_le_of_lt hlen (by decide)
  have hbe : Bytes.be 3 h.length = [0, 0, UInt8.ofNat h.length] := by
    simp only [Bytes.be, Nat.div_eq_of_lt hlt, Nat.zero_div, Nat.zero_mod, Nat.mod_eq_of_lt hlt]
    rfl
  rw [encodeHandshakeHash, lengthPrefixedBuffer, ListLength.width, Bytes.prefixed, hbe]
  rfl

theorem holds_step {H : Type} {p : Hash} {t : List UInt8} {s s' : Transcript} {op : TranscriptOp H}
    (hs : s.Holds p t) (hstep : s.step p op = some s') : s'.Holds p (rfcTranscript p.hash t op.event.toList) := by
  cases s with
  | buffer b =>
    cases op with
    | addMessage m =>
      cases hstep
      change b.buffer = t at hs
      obtain ⟨version, payload⟩ := m
      -- only a handshake message is added, and only it is an event
      cases payload <;>
        simp [Transcript.Holds, HandshakeHashBuffer.addMessage, HandshakeHashBuffer.addRaw, TranscriptOp.event,
          Message.handshakeEncoding, rfcTranscript, TranscriptEvent.apply, hs]
    | setClientAuthEnabled => cases hstep; exact hs
    | startHash =>
      cases hstep
      change b.buffer = t at hs
      exact ⟨rfl, by simp [HandshakeHashBuffer.startHash, Hash.start, Context.update, TranscriptOp.event,
        rfcTranscript, hs]⟩
    | _ => cases hstep
  | hashing hh =>
    obtain ⟨hp, hctx⟩ := hs
    cases op with
    | addMessage m =>
      cases hstep
      obtain ⟨version, payload⟩ := m
      cases payload <;>
        simp [Transcript.Holds, HandshakeHash.addMessage, HandshakeHash.addRaw, Context.update, TranscriptOp.event,
          Message.handshakeEncoding, rfcTranscript, TranscriptEvent.apply, hp, hctx]
    | add bytes =>
      cases hstep
      exact ⟨hp, by simp [HandshakeHash.add, HandshakeHash.addRaw, Context.update, rfcTranscript,
        TranscriptOp.event, TranscriptEvent.apply, hctx]⟩
    | abandonClientAuth => cases hstep; exact ⟨hp, hctx⟩
    | intoHrrBuffer =>
      cases hstep
      show encodeHandshakeHash hh.ctx.finish = _
      rw [hctx, Context.finish, encodeHandshakeHash_eq _ (p.length_hash_le t)]
      rfl
    | rollupForHrr =>
      cases hstep
      refine ⟨hp, ?_⟩
      show (hh.provider.start.update (encodeHandshakeHash hh.ctx.finish)) = _
      rw [hctx, hp, Context.finish, encodeHandshakeHash_eq _ (p.length_hash_le t)]
      rfl
    | takeHandshakeBuf => cases hstep; exact ⟨hp, hctx⟩
    | _ => cases hstep

/-- A method's event, then the events of the rest. -/
theorem rfcTranscript_filterMap_cons {H : Type} (hash : List UInt8 → List UInt8) (t : List UInt8)
    (op : TranscriptOp H) (ops : List (TranscriptOp H)) :
    rfcTranscript hash t ((op :: ops).filterMap TranscriptOp.event) =
      rfcTranscript hash (rfcTranscript hash t op.event.toList) (ops.filterMap TranscriptOp.event) := by
  rw [List.filterMap_cons]
  cases op.event <;> rfl

/-- A property of the state and its transcript that every allowed method
keeps holds after every run of allowed methods. -/
theorem run_invariant {H : Type} (p : Hash) (I : List UInt8 → Transcript → Prop)
    (allowed : TranscriptOp H → Bool)
    (hstep : ∀ {s s' : Transcript} {t : List UInt8} {op : TranscriptOp H}, allowed op = true → I t s →
      s.step p op = some s' → I (rfcTranscript p.hash t op.event.toList) s')
    (ops : List (TranscriptOp H)) :
    ∀ {s s' : Transcript} {t : List UInt8}, (∀ op ∈ ops, allowed op = true) → I t s → s.run p ops = some s' →
      I (rfcTranscript p.hash t (ops.filterMap TranscriptOp.event)) s' := by
  induction ops with
  | nil =>
    intro s s' t _ hs hrun
    cases hrun
    exact hs
  | cons op ops ih =>
    intro s s' t hallowed hs hrun
    rw [List.forall_mem_cons] at hallowed
    simp only [Transcript.run] at hrun
    cases hn : s.step p op with
    | none => rw [hn, Option.bind_none] at hrun; cases hrun
    | some s₁ =>
      rw [hn, Option.bind_some] at hrun
      rw [rfcTranscript_filterMap_cons]
      exact ih hallowed.2 (hstep hallowed.1 hs hn) hrun

/-- **Every run holds RFC 8446's transcript** of the events it went through. -/
theorem holds_run {H : Type} (p : Hash) (ops : List (TranscriptOp H)) {s s' : Transcript} {t : List UInt8}
    (hs : s.Holds p t) (hrun : s.run p ops = some s') :
    s'.Holds p (rfcTranscript p.hash t (ops.filterMap TranscriptOp.event)) :=
  run_invariant p (fun t s => s.Holds p t) (fun _ => true) (fun _ hs hstep => holds_step hs hstep) ops
    (fun _ _ => rfl) hs hrun

/-- While client authentication is on and nothing gives it up or restarts in
place, the client-auth buffer keeps the transcript. -/
theorem keepsBuffer_step {H : Type} {p : Hash} {t : List UInt8} {s s' : Transcript} {op : TranscriptOp H}
    (hop : op.keepsClientAuth = true) (hs : s.Holds p t) (hk : s.KeepsBuffer t)
    (hstep : s.step p op = some s') : s'.KeepsBuffer (rfcTranscript p.hash t op.event.toList) := by
  cases s with
  | buffer b =>
    change b.buffer = t at hs
    change b.clientAuthEnabled = true at hk
    cases op with
    | addMessage m =>
      cases hstep
      obtain ⟨version, payload⟩ := m
      cases payload <;> simp [Transcript.KeepsBuffer, HandshakeHashBuffer.addMessage, HandshakeHashBuffer.addRaw, hk]
    | setClientAuthEnabled => cases hstep; rfl
    | startHash =>
      cases hstep
      simp [Transcript.KeepsBuffer, HandshakeHashBuffer.startHash, TranscriptOp.event, rfcTranscript, hk, hs]
    | _ => cases hstep
  | hashing hh =>
    change hh.clientAuth = some t at hk
    cases op with
    | addMessage m =>
      cases hstep
      obtain ⟨version, payload⟩ := m
      cases payload <;>
        simp [Transcript.KeepsBuffer, HandshakeHash.addMessage, HandshakeHash.addRaw, TranscriptOp.event,
          Message.handshakeEncoding, rfcTranscript, TranscriptEvent.apply, hk]
    | add bytes =>
      cases hstep
      simp [Transcript.KeepsBuffer, HandshakeHash.add, HandshakeHash.addRaw, TranscriptOp.event, rfcTranscript,
        TranscriptEvent.apply, hk]
    | intoHrrBuffer =>
      cases hstep
      simp [Transcript.KeepsBuffer, HandshakeHash.intoHrrBuffer, hk]
    | abandonClientAuth => cases hop
    | rollupForHrr => cases hop
    | takeHandshakeBuf => cases hop
    | _ => cases hstep

/-- Enabling client authentication keeps the transcript, and from then on
the buffer keeps it. -/
theorem keepsBuffer_setClientAuthEnabled {H : Type} {p : Hash} {t : List UInt8} {s s' : Transcript}
    (hs : s.Holds p t) (hstep : s.step p (.setClientAuthEnabled : TranscriptOp H) = some s') :
    s'.Holds p t ∧ s'.KeepsBuffer t := by
  cases s with
  | buffer b =>
    cases hstep
    exact ⟨hs, rfl⟩
  | hashing hh => cases hstep

theorem keepsBuffer_run {H : Type} (p : Hash) (ops : List (TranscriptOp H)) {s s' : Transcript}
    {t : List UInt8} (hops : ∀ op ∈ ops, op.keepsClientAuth = true) (hs : s.Holds p t ∧ s.KeepsBuffer t)
    (hrun : s.run p ops = some s') : s'.KeepsBuffer (rfcTranscript p.hash t (ops.filterMap TranscriptOp.event)) :=
  (run_invariant p (fun t s => s.Holds p t ∧ s.KeepsBuffer t) TranscriptOp.keepsClientAuth
    (fun hop hs hstep => ⟨holds_step hs.1 hstep, keepsBuffer_step hop hs.1 hs.2 hstep⟩) ops hops hs hrun).2

theorem run_append {H : Type} (p : Hash) (s : Transcript) (ops₁ ops₂ : List (TranscriptOp H)) :
    s.run p (ops₁ ++ ops₂) = (s.run p ops₁).bind fun s₁ => s₁.run p ops₂ := by
  induction ops₁ generalizing s with
  | nil => rfl
  | cons op ops ih =>
    simp only [List.cons_append, Transcript.run]
    cases s.step p op with
    | none => rfl
    | some s₁ => simp only [Option.bind_some, ih]

theorem rfcTranscript_append (hash : List UInt8 → List UInt8) (t : List UInt8) (evs₁ evs₂ : List TranscriptEvent) :
    rfcTranscript hash t (evs₁ ++ evs₂) = rfcTranscript hash (rfcTranscript hash t evs₁) evs₂ :=
  List.foldl_append

/-- **The transcript hash is RFC 8446's `Transcript-Hash`.**  Along every run
of the transcript's methods from `HandshakeHashBuffer::new()`, with `T` the
RFC's transcript of the messages and restarts of the run: a buffer holds `T`
and its `hash_given(q, x)` is `q`'s hash of `T ++ x`; a hash's
`current_hash` is the suite's hash of `T` and its `hash_given(x)` that of
`T ++ x`; and if client authentication was enabled and after that nothing
gave it up, took it or restarted in place, `take_handshake_buf` returns
`T`. -/
theorem transcript_hash_is_rfc {H : Type} (p : Hash) (ops : List (TranscriptOp H)) {s : Transcript}
    (hrun : Transcript.run p (.buffer .new) ops = some s) (q : Hash) (extra : List UInt8) :
    (∀ b, s = .buffer b → b.buffer = rfcTranscript p.hash [] (ops.filterMap TranscriptOp.event) ∧
      b.hashGiven q extra = q.hash (rfcTranscript p.hash [] (ops.filterMap TranscriptOp.event) ++ extra)) ∧
    ∀ hh, s = .hashing hh →
      hh.currentHash = p.hash (rfcTranscript p.hash [] (ops.filterMap TranscriptOp.event)) ∧
      hh.hashGiven extra = p.hash (rfcTranscript p.hash [] (ops.filterMap TranscriptOp.event) ++ extra) ∧
      ∀ pre post, ops = pre ++ .setClientAuthEnabled :: post → (∀ op ∈ post, op.keepsClientAuth = true) →
        hh.takeHandshakeBuf.1 = some (rfcTranscript p.hash [] (ops.filterMap TranscriptOp.event)) := by
  have hholds := holds_run p ops (show Transcript.Holds p [] (.buffer .new) from rfl) hrun
  refine ⟨?_, ?_⟩
  · rintro b rfl
    change b.buffer = _ at hholds
    refine ⟨hholds, ?_⟩
    rw [HandshakeHashBuffer.hashGiven, ← hholds]
    rfl
  · rintro hh rfl
    obtain ⟨hp, hctx⟩ := hholds
    refine ⟨?_, ?_, ?_⟩
    · rw [HandshakeHash.currentHash, hctx]
      rfl
    · rw [HandshakeHash.hashGiven, hctx]
      rfl
    · intro pre post hops hpost
      -- run up to the enabling, enable, then run the rest keeping the buffer
      rw [hops, run_append] at hrun
      rw [hops, List.filterMap_append, rfcTranscript_append, rfcTranscript_filterMap_cons]
      cases hpre : Transcript.run p (.buffer .new) pre with
      | none => rw [hpre, Option.bind_none] at hrun; cases hrun
      | some s₁ =>
        rw [hpre, Option.bind_some] at hrun
        have h₁ := holds_run p pre (show Transcript.Holds p [] (.buffer .new) from rfl) hpre
        simp only [Transcript.run] at hrun
        cases hset : s₁.step p (.setClientAuthEnabled : TranscriptOp H) with
        | none => rw [hset, Option.bind_none] at hrun; cases hrun
        | some s₂ =>
          rw [hset, Option.bind_some] at hrun
          exact keepsBuffer_run p post hpost (keepsBuffer_setClientAuthEnabled h₁ hset) hrun

theorem transcript_hash_is_rfc_after_client_auth :
    ∃ s, Transcript.run ⟨fun _ => [], fun _ => Nat.zero_le _⟩ (.buffer .new)
        ([.setClientAuthEnabled, .startHash, .add [1]] : List (TranscriptOp Unit)) = some s ∧
      ((∀ b, s = .buffer b →
          b.buffer = rfcTranscript (fun _ => []) []
            (([.setClientAuthEnabled, .startHash, .add [1]] : List (TranscriptOp Unit)).filterMap
              TranscriptOp.event) ∧
          b.hashGiven ⟨fun _ => [], fun _ => Nat.zero_le _⟩ [] =
            (fun _ => [] : List UInt8 → List UInt8) (rfcTranscript (fun _ => []) []
              (([.setClientAuthEnabled, .startHash, .add [1]] : List (TranscriptOp Unit)).filterMap
                TranscriptOp.event) ++ [])) ∧
        ∀ hh, s = .hashing hh →
          hh.currentHash = (fun _ => [] : List UInt8 → List UInt8) (rfcTranscript (fun _ => []) []
            (([.setClientAuthEnabled, .startHash, .add [1]] : List (TranscriptOp Unit)).filterMap
              TranscriptOp.event)) ∧
          hh.hashGiven [] = (fun _ => [] : List UInt8 → List UInt8) (rfcTranscript (fun _ => []) []
            (([.setClientAuthEnabled, .startHash, .add [1]] : List (TranscriptOp Unit)).filterMap
              TranscriptOp.event) ++ []) ∧
          ∀ pre post, ([.setClientAuthEnabled, .startHash, .add [1]] : List (TranscriptOp Unit)) =
              pre ++ .setClientAuthEnabled :: post → (∀ op ∈ post, op.keepsClientAuth = true) →
            hh.takeHandshakeBuf.1 = some (rfcTranscript (fun _ => []) []
              (([.setClientAuthEnabled, .startHash, .add [1]] : List (TranscriptOp Unit)).filterMap
                TranscriptOp.event))) :=
  ⟨_, rfl, transcript_hash_is_rfc ⟨fun _ => [], fun _ => Nat.zero_le _⟩
    ([.setClientAuthEnabled, .startHash, .add [1]] : List (TranscriptOp Unit)) rfl
    ⟨fun _ => [], fun _ => Nat.zero_le _⟩ []⟩

end Rustls
