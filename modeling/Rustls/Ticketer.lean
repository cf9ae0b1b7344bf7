import Rustls.Error

/-!
`TicketSwitcher` of `ticketer.rs`: a server's ticket key rotation.

The switcher holds a `current` sub-ticketer, which makes new tickets, the
`previous` one, which still opens tickets, and a `next` one made in advance.
It is documented to accept a ticket for no longer than twice its lifetime,
and `ProducesTickets::lifetime` asks for that to be done by key rolling and
erasure.  But rolling is lazy: `maybe_roll` runs only inside `encrypt` and
`decrypt`, and it moves the keys along by one step, however long it has been
since the last switch.  A ticket made just before a switch time is still
opened by `previous` at the first call after it, at any later time.

Sub-ticketers are values of a type `T`, with their `encrypt` and `decrypt`
as arguments, as the trait methods would be.  The generator is a `fn()`
returning a fresh ticketer with fresh keys each time it runs; here it is the
function `generator` from the number of earlier runs to what that run
returns, and the state counts the runs in `generated`.  The mutex is left
out: each call holds it while it changes the state.
-/

namespace Rustls

/-- `TicketSwitcherState`, with the number of times the generator has run. -/
structure TicketSwitcherState (T : Type) where
  next : Option T
  current : T
  previous : Option T
  nextSwitchTime : UInt64
  generated : Nat

/-- `TicketSwitcher`. -/
structure TicketSwitcher (T : Type) where
  generator : Nat → Option T
  lifetime : UInt32
  state : TicketSwitcherState T

namespace TicketSwitcher

variable {T : Type}

/-- `time + lifetime` as `u64::saturating_add` computes it. -/
def switchTimeAfter (time : UInt64) (lifetime : UInt32) : UInt64 :=
  if time.toNat + lifetime.toNat < 2 ^ 64 then time + lifetime.toUInt64
  else UInt64.ofNat (2 ^ 64 - 1)

/-- One run of the generator. -/
def generate (sw : TicketSwitcher T) : Option T × TicketSwitcher T :=
  (sw.generator sw.state.generated,
    { sw with state := { sw.state with generated := sw.state.generated + 1 } })

/-- `TicketSwitcher::new` at the time `now`: `next` is made first, then
`current`. -/
def new (lifetime : UInt32) (generator : Nat → Option T) (now : UInt64) :
    Except Error (TicketSwitcher T) :=
  match generator 0, generator 1 with
  | some next, some current =>
    .ok ⟨generator, lifetime, ⟨some next, current, none, switchTimeAfter now lifetime, 2⟩⟩
  | _, _ => .error .failedToGetRandomBytes

/-- `maybe_roll`: the state the call goes on with, or `none` when the
generator fails; the switch made before the generator runs stays made. -/
def maybeRoll (sw : TicketSwitcher T) (now : UInt64) :
    Option (TicketSwitcherState T) × TicketSwitcher T :=
  if now ≤ sw.state.nextSwitchTime then (some sw.state, sw)
  else
    -- make the switch, or mark for recovery when there is no `next`
    let (sw, areRecovering) : TicketSwitcher T × Bool :=
      match sw.state.next with
      | some next =>
        ({ sw with
            state := { sw.state with next := none, previous := some sw.state.current, current := next,
                                     nextSwitchTime := switchTimeAfter now sw.lifetime } }, false)
      | none => (sw, true)
    match sw.generate with
    | (none, sw) => (none, sw)
    | (some next, sw) =>
      if !areRecovering then
        let sw := { sw with state := { sw.state with next := some next } }
        (some sw.state, sw)
      else
        match sw.generate with
        | (none, sw) => (none, sw)
        | (some newCurrent, sw) =>
          let st := { sw.state with next := some next }
          let st := if now > st.nextSwitchTime then
              { st with previous := some st.current, current := newCurrent,
                        nextSwitchTime := switchTimeAfter now sw.lifetime }
            else st
          (some st, { sw with state := st })

/-- `ProducesTickets::lifetime` of `TicketSwitcher`: `self.lifetime * 2`, a
plain `u32` multiplication. -/
def ticketLifetime (sw : TicketSwitcher T) : UInt32 :=
  sw.lifetime * 2

/-- `ProducesTickets::encrypt` of `TicketSwitcher`, at the time `now`. -/
def encrypt (encrypt : T → List UInt8 → Option (List UInt8)) (sw : TicketSwitcher T)
    (now : UInt64) (message : List UInt8) : Option (List UInt8) × TicketSwitcher T :=
  let (st, sw) := sw.maybeRoll now
  (st.bind fun st => encrypt st.current message, sw)

/-- `ProducesTickets::decrypt` of `TicketSwitcher`, at the time `now`: the
current sub-ticketer first, then the previous one. -/
def decrypt (decrypt : T → List UInt8 → Option (List UInt8)) (sw : TicketSwitcher T)
    (now : UInt64) (ciphertext : List UInt8) : Option (List UInt8) × TicketSwitcher T :=
  let (st, sw) := sw.maybeRoll now
  (st.bind fun st =>
    (decrypt st.current ciphertext).orElse fun _ =>
      st.previous.bind fun previous => decrypt previous ciphertext, sw)

/-- The lifetime `ProducesTickets::lifetime` reports wraps modulo `2^32`: it
is twice the switcher's lifetime only while that is below `2^31`. -/
theorem toNat_ticketLifetime (sw : TicketSwitcher T) :
    sw.ticketLifetime.toNat = 2 * sw.lifetime.toNat % 2 ^ 32 := by
  rw [ticketLifetime, UInt32.toNat_mul]
  simp only [UInt32.reduceToNat]
  omega

/-! ### What a call sees -/

/-- Up to the switch time nothing moves. -/
theorem maybeRoll_of_le {sw : TicketSwitcher T} {now : UInt64} (h : now ≤ sw.state.nextSwitchTime) :
    sw.maybeRoll now = (some sw.state, sw) := by
  simp [maybeRoll, h]

/-- Past the switch time, with a `next` ready and a generator that delivers,
`current` becomes `previous` and `next` becomes `current`: one step, however
late the call. -/
theorem maybeRoll_of_lt {sw : TicketSwitcher T} {now : UInt64} (h : sw.state.nextSwitchTime < now)
    {next fresh : T} (hnext : sw.state.next = some next)
    (hgen : sw.generator sw.state.generated = some fresh) :
    sw.maybeRoll now =
      let st : TicketSwitcherState T := ⟨some fresh, next, some sw.state.current,
        switchTimeAfter now sw.lifetime, sw.state.generated + 1⟩
      (some st, { sw with state := st }) := by
  have hnot : ¬ now ≤ sw.state.nextSwitchTime := UInt64.not_le.mpr h
  simp only [maybeRoll, hnot, if_false, hnext, generate, hgen, Bool.not_false, if_true]

/-- A ticket the current sub-ticketer makes is one the switcher makes, as long
as the switch time has not come. -/
theorem encrypt_of_le (encrypt : T → List UInt8 → Option (List UInt8)) {sw : TicketSwitcher T}
    {now : UInt64} (h : now ≤ sw.state.nextSwitchTime) (message : List UInt8) :
    sw.encrypt encrypt now message = (encrypt sw.state.current message, sw) := by
  simp [TicketSwitcher.encrypt, maybeRoll_of_le h]

/-- **Tickets outlive twice the lifetime.**  A ticket made at or before the
switch time is accepted by the first call past it, at any later time `t1`,
for sub-ticketers that open their own tickets and a generator that delivers. -/
theorem decrypt_accepts_at_any_later_time (encrypt decrypt : T → List UInt8 → Option (List UInt8))
    (hcorrect : ∀ k m c, encrypt k m = some c → decrypt k c = some m)
    (sw : TicketSwitcher T) (hnext : sw.state.next ≠ none)
    (hgen : ∀ n, sw.generator n ≠ none) {message ticket : List UInt8} {t0 t1 : UInt64}
    (ht0 : t0 ≤ sw.state.nextSwitchTime) (ht1 : sw.state.nextSwitchTime < t1)
    (henc : (sw.encrypt encrypt t0 message).1 = some ticket) :
    ((sw.encrypt encrypt t0 message).2.decrypt decrypt t1 ticket).1.isSome = true := by
  rw [encrypt_of_le encrypt ht0] at henc ⊢
  obtain ⟨next, hnext'⟩ := Option.ne_none_iff_exists'.mp hnext
  obtain ⟨fresh, hfresh⟩ := Option.ne_none_iff_exists'.mp (hgen sw.state.generated)
  have hroll := maybeRoll_of_lt ht1 hnext' hfresh
  -- the old `current` is now `previous`, and it opens the ticket it made
  have hprev : decrypt sw.state.current ticket = some message := hcorrect _ _ _ henc
  simp only [TicketSwitcher.decrypt, hroll, Option.bind_some]
  cases decrypt next ticket with
  | none => simp [hprev]
  | some m => rfl

/-- Sub-ticketers numbered by the generator run that made them, each marking
its tickets with its number: `encrypt`. -/
def markedEncrypt (k : Nat) (message : List UInt8) : Option (List UInt8) :=
  some (UInt8.ofNat k :: message)

/-- `decrypt` of the marked sub-ticketers: only tickets with their mark. -/
def markedDecrypt (k : Nat) : List UInt8 → Option (List UInt8)
  | mark :: message => if mark = UInt8.ofNat k then some message else none
  | [] => none

theorem markedDecrypt_of_markedEncrypt (k : Nat) (message ticket : List UInt8)
    (h : markedEncrypt k message = some ticket) : markedDecrypt k ticket = some message := by
  cases h
  simp [markedDecrypt]

/-- The switcher `new(1, ..)` makes at time 0: `next` is the generator's first
run, `current` its second, and the switch is due at time 1. -/
theorem decrypt_accepts_marked_ticket_after_thousand_seconds :
    (∀ k m c, markedEncrypt k m = some c → markedDecrypt k c = some m) ∧
      (⟨fun n => some n, 1, ⟨some 0, 1, none, 1, 2⟩⟩ : TicketSwitcher Nat).state.next ≠ none ∧
      (∀ n, (⟨fun n => some n, 1, ⟨some 0, 1, none, 1, 2⟩⟩ : TicketSwitcher Nat).generator n ≠ none) ∧
      (((⟨fun n => some n, 1, ⟨some 0, 1, none, 1, 2⟩⟩ : TicketSwitcher Nat).encrypt markedEncrypt 1
        [42]).2.decrypt markedDecrypt 1001 [1, 42]).1.isSome = true :=
  ⟨markedDecrypt_of_markedEncrypt, Option.some_ne_none 0, fun n => Option.some_ne_none n,
    decrypt_accepts_at_any_later_time markedEncrypt markedDecrypt markedDecrypt_of_markedEncrypt _
      (Option.some_ne_none 0) (fun n => Option.some_ne_none n) (by decide) (by decide) rfl⟩

end TicketSwitcher

/-- A switcher with a lifetime of one second, made at time 0, still accepts
at time 1001 the ticket it made at time 1, while reporting a lifetime of two
seconds. -/
theorem ticket_accepted_long_after_lifetime :
    (match TicketSwitcher.new 1 (fun n => some n) 0 with
      | .ok sw =>
        let (ticket, sw) := sw.encrypt TicketSwitcher.markedEncrypt 1 [42]
        (ticket.bind fun t => (sw.decrypt TicketSwitcher.markedDecrypt 1001 t).1) == some [42] &&
          sw.ticketLifetime == 2
      | .error _ => false) = true := by
  decide

end Rustls
