import Rustls.Client.Tls13
import Rustls.Lib.Budget

/-!
The client's early data over a whole connection: `EarlyData` of
`client/client_conn.rs` under any interleaving of what the handshake does to
it and of the application's writes.

The handshake enables early data when it resumes a TLS 1.3 ticket that allows
it (`enable`, with the ticket's `max_early_data_size`), learns at
EncryptedExtensions whether the server took it (`accepted`, `rejected`), and
ends it at the server's Finished (`finished`).  In between, the application
writes through `write_early_data`, which hands on the part of its data that
`check_write` lets through.

RFC 8446, section 4.2.10, bounds the 0-RTT data a client sends by the
ticket's `max_early_data_size`, and ends it once the server has rejected it or
the handshake is over.  Both hold of every run that does not panic
(`early_data_within_allowance`): all the bytes handed on, and what is still
allowed, are within what `enable` allowed; `enable` goes through at most once;
and after `rejected` or `finished` no write hands anything on.
-/

namespace Rustls

namespace Client

/-- What happens to the client's early data: the handshake's calls on
`EarlyData`, and the application's writes. -/
inductive EarlyDataEvent
  | enable (maxData : Nat)
  | accepted
  | rejected
  | finished
  | write (data : List UInt8)
  deriving DecidableEq, Repr

/-- The bytes an event allows: the ticket's `max_early_data_size` for
`enable`. -/
def EarlyDataEvent.allowance : EarlyDataEvent → Nat
  | .enable maxData => maxData
  | _ => 0

namespace EarlyData

/-- `ClientConnection::write_early_data`, up to `send_early_plaintext`: the
first bytes of `data` that `check_write` lets through are handed on; `none`
inside is its `InvalidInput` error once early data is over. -/
def writeEarlyData (ed : EarlyData) (data : List UInt8) : Option (Option (List UInt8) × EarlyData) :=
  (ed.checkWriteOpt data.length).map fun (sz, ed) => (sz.map data.take, ed)

/-- One event, with the bytes a write hands on. -/
def step (ed : EarlyData) : EarlyDataEvent → Option (Option (List UInt8) × EarlyData)
  | .enable maxData => (ed.enable maxData).map ((none, ·))
  | .accepted => ed.accepted.map ((none, ·))
  | .rejected => some (none, ed.rejected)
  | .finished => ed.finished.map ((none, ·))
  | .write data => ed.writeEarlyData data

/-- Early data is over: the server rejected it, or the handshake finished
after accepting it. -/
def Over (ed : EarlyData) : Prop :=
  ed.state = .rejected ∨ ed.state = .acceptedFinished

/-! ### What one event does -/

/-- A write while early data is enabled hands on the first bytes of the data
that are still allowed, and spends them; once early data is over it hands on
nothing and changes nothing. -/
theorem writeEarlyData_eq_some {ed ed' : EarlyData} {data : List UInt8} {out : Option (List UInt8)}
    (h : ed.writeEarlyData data = some (out, ed')) :
    (ed.isEnabled = true ∧ out = some (data.take ed.left) ∧ ed' = { ed with left := ed.left - data.length }) ∨
      (ed.Over ∧ out = none ∧ ed' = ed) := by
  obtain ⟨state, left⟩ := ed
  unfold writeEarlyData checkWriteOpt at h
  cases state with
  | disabled => cases h
  | ready | accepted =>
    refine Or.inl ⟨rfl, ?_⟩
    by_cases hless : left < data.length
    · -- fewer bytes are left than asked for: all of them go, none are left
      simp only [hless, if_true, Option.map_some, Option.some.injEq, Prod.mk.injEq] at h
      obtain ⟨rfl, rfl⟩ := h
      have hzero : left - data.length = 0 := by omega
      exact ⟨rfl, by rw [hzero]⟩
    · simp only [hless, if_false, Option.map_some, Option.some.injEq, Prod.mk.injEq] at h
      obtain ⟨rfl, rfl⟩ := h
      refine ⟨?_, rfl⟩
      dsimp only
      rw [List.take_length, List.take_of_length_le (by omega)]
  | rejected =>
    cases h
    exact Or.inr ⟨Or.inl rfl, rfl, rfl⟩
  | acceptedFinished =>
    cases h
    exact Or.inr ⟨Or.inr rfl, rfl, rfl⟩

/-- What an event that goes through can do: each call of the handshake
checks the state it asserts and hands nothing on; a write is as
`writeEarlyData_eq_some` says. -/
theorem step_eq_some {ed ed' : EarlyData} {ev : EarlyDataEvent} {out : Option (List UInt8)}
    (h : step ed ev = some (out, ed')) :
    (∃ maxData, ev = .enable maxData ∧ ed.state = .disabled ∧ out = none ∧ ed' = ⟨.ready, maxData⟩) ∨
      (ev = .accepted ∧ ed.state = .ready ∧ out = none ∧ ed' = { ed with state := .accepted }) ∨
      (ev = .rejected ∧ out = none ∧ ed' = { ed with state := .rejected }) ∨
      (ev = .finished ∧ ed.state = .accepted ∧ out = none ∧ ed' = { ed with state := .acceptedFinished }) ∨
      (∃ data, ev = .write data ∧ ed.writeEarlyData data = some (out, ed')) := by
  cases ev with
  | enable maxData =>
    refine Or.inl ⟨maxData, rfl, ?_⟩
    simp only [step, enable] at h
    split_ifs at h with hdisabled
    · simp only [Option.map_some, Option.some.injEq, Prod.mk.injEq] at h
      obtain ⟨rfl, rfl⟩ := h
      exact ⟨hdisabled, rfl, rfl⟩
    · cases h
  | accepted =>
    refine Or.inr (Or.inl ⟨rfl, ?_⟩)
    simp only [step, accepted] at h
    split_ifs at h with hready
    · simp only [Option.map_some, Option.some.injEq, Prod.mk.injEq] at h
      obtain ⟨rfl, rfl⟩ := h
      exact ⟨hready, rfl, rfl⟩
    · cases h
  | rejected =>
    cases h
    exact Or.inr (Or.inr (Or.inl ⟨rfl, rfl, rfl⟩))
  | finished =>
    refine Or.inr (Or.inr (Or.inr (Or.inl ⟨rfl, ?_⟩)))
    simp only [step, finished] at h
    split at h
    · simp only [Option.map_some, Option.some.injEq, Prod.mk.injEq] at h
      obtain ⟨rfl, rfl⟩ := h
      exact ⟨‹_›, rfl, rfl⟩
    · cases h
  | write data => exact Or.inr (Or.inr (Or.inr (Or.inr ⟨data, rfl, h⟩)))

/-- Every event pays for the bytes it hands on out of what is still allowed
and the allowance it brings. -/
theorem step_pays :
    Budget.Pays step left EarlyDataEvent.allowance fun _ out => (out.getD []).length := by
  intro ed ev out ed' h
  rcases step_eq_some h with ⟨maxData, rfl, -, rfl, rfl⟩ | ⟨rfl, -, rfl, rfl⟩ | ⟨rfl, rfl, rfl⟩ |
    ⟨rfl, -, rfl, rfl⟩ | ⟨data, rfl, hwrite⟩
  · simp [EarlyDataEvent.allowance]
  · simp [EarlyDataEvent.allowance]
  · simp [EarlyDataEvent.allowance]
  · simp [EarlyDataEvent.allowance]
  · rcases writeEarlyData_eq_some hwrite with ⟨-, rfl, rfl⟩ | ⟨-, rfl, rfl⟩
    · simp only [Option.getD_some, List.length_take, EarlyDataEvent.allowance]
      omega
    · simp [EarlyDataEvent.allowance]

/-- Early data never goes back to disabled. -/
theorem keeps_enabled : Budget.Keeps step (fun _ => True) fun ed => ed.state ≠ .disabled := by
  intro ed ev out ed' _ hstate h
  rcases step_eq_some h with ⟨maxData, -, hdisabled, -, -⟩ | ⟨-, -, -, rfl⟩ | ⟨-, -, rfl⟩ |
    ⟨-, -, -, rfl⟩ | ⟨data, -, hwrite⟩
  · exact absurd hdisabled hstate
  · exact EarlyDataState.noConfusion
  · exact EarlyDataState.noConfusion
  · exact EarlyDataState.noConfusion
  · rcases writeEarlyData_eq_some hwrite with ⟨-, -, rfl⟩ | ⟨-, -, rfl⟩
    · exact hstate
    · exact hstate

/-- Once early data is over, no event hands anything on, and it stays over:
nothing but `rejected` and writes goes through, and neither brings it back. -/
theorem step_of_over {ed ed' : EarlyData} {ev : EarlyDataEvent} {out : Option (List UInt8)}
    (hover : ed.Over) (h : step ed ev = some (out, ed')) : out = none ∧ ed'.Over := by
  have hnot : ∀ st, ed.state = st → st ≠ .rejected → st ≠ .acceptedFinished → False := by
    intro st hst hr hf
    rcases hover with hs | hs
    · exact hr (hst ▸ hs)
    · exact hf (hst ▸ hs)
  rcases step_eq_some h with ⟨maxData, -, hdisabled, -, -⟩ | ⟨-, hready, -, -⟩ | ⟨-, rfl, rfl⟩ |
    ⟨-, haccepted, -, -⟩ | ⟨data, -, hwrite⟩
  · exact (hnot _ hdisabled EarlyDataState.noConfusion EarlyDataState.noConfusion).elim
  · exact (hnot _ hready EarlyDataState.noConfusion EarlyDataState.noConfusion).elim
  · exact ⟨rfl, Or.inl rfl⟩
  · exact (hnot _ haccepted EarlyDataState.noConfusion EarlyDataState.noConfusion).elim
  · rcases writeEarlyData_eq_some hwrite with ⟨henabled, -, -⟩ | ⟨-, rfl, rfl⟩
    · -- a write hands something on only while early data is enabled
      rcases hover with hs | hs <;> simp [isEnabled, hs] at henabled
    · exact ⟨rfl, hover⟩

theorem keeps_over : Budget.Keeps step (fun _ => True) Over :=
  fun _ _ _ _ _ hover h => (step_of_over hover h).2

/-- `rejected`, and a `finished` that goes through, leave early data over. -/
theorem over_of_step {ed ed' : EarlyData} {ev : EarlyDataEvent} {out : Option (List UInt8)}
    (hev : ev = .rejected ∨ ev = .finished) (h : step ed ev = some (out, ed')) : ed'.Over := by
  rcases step_eq_some h with ⟨maxData, rfl, -⟩ | ⟨rfl, -⟩ | ⟨-, -, rfl⟩ | ⟨-, -, -, rfl⟩ |
    ⟨data, rfl, -⟩
  · simp at hev
  · simp at hev
  · exact Or.inl rfl
  · exact Or.inr rfl
  · simp at hev

/-! ### Whole runs -/

/-- The bytes handed on, all together, are the sum of what each write handed
on. -/
theorem length_flatten_filterMap (sent : List (Option (List UInt8))) :
    (sent.filterMap id).flatten.length = (sent.map fun out => (out.getD []).length).sum := by
  induction sent with
  | nil => rfl
  | cons out sent ih =>
    cases out with
    | none => simpa using ih
    | some bytes =>
      have hcons : (some bytes :: sent).filterMap id = bytes :: sent.filterMap id := rfl
      rw [hcons, List.flatten_cons, List.length_append, ih]
      simp

/-- **The client keeps to the ticket's early data allowance.**  Over any run
of the handshake's calls and the application's writes from `EarlyData::new`
that does not panic: the early data handed on, all together, and what is
still allowed come to at most what `enable` allowed; `enable` goes through at
most once; and once the server has rejected early data or the handshake has
finished, no write hands on anything. -/
theorem early_data_within_allowance {events : List EarlyDataEvent} {sent : List (Option (List UInt8))}
    {ed : EarlyData} (h : Budget.run step EarlyData.new events = some (sent, ed)) :
    (sent.filterMap id).flatten.length + ed.bytesLeft ≤ (events.map EarlyDataEvent.allowance).sum ∧
      (∀ pre post maxData, events = pre ++ .enable maxData :: post → ∀ maxData', .enable maxData' ∉ post) ∧
      (∀ pre ev post, events = pre ++ ev :: post → ev = .rejected ∨ ev = .finished →
        ∀ out ∈ sent.drop (pre.length + 1), out = none) := by
  refine ⟨?_, ?_, ?_⟩
  · -- the budget rule, with the costs read off the outputs alone
    have hpaid := step_pays.run h
    have houts : (events.zip sent).map (fun p => (p.2.getD []).length) =
        sent.map fun out => (out.getD []).length :=
      calc (events.zip sent).map (fun p => (p.2.getD []).length)
          = ((events.zip sent).map Prod.snd).map fun out => (out.getD []).length := by
            rw [List.map_map]
            rfl
        _ = sent.map fun out => (out.getD []).length := by
            rw [List.map_snd_zip (Budget.length_run h).le]
    rw [houts, ← length_flatten_filterMap] at hpaid
    simpa [bytesLeft, EarlyData.new] using hpaid
  · -- after an `enable`, early data is never disabled again, and a second one panics
    intro pre post maxData hevents maxData'
    rw [hevents] at h
    obtain ⟨-, bs, u, -, hrest, -⟩ := Budget.run_append_eq_some h
    obtain ⟨b, u', bs', hstep, hpost, -⟩ := Budget.run_cons_eq_some.mp hrest
    have henabled : u'.state ≠ .disabled := by
      rcases step_eq_some hstep with ⟨m, -, -, -, rfl⟩ | ⟨hev, -⟩ | ⟨hev, -⟩ | ⟨hev, -⟩ | ⟨data, hev, -⟩
      · exact EarlyDataState.noConfusion
      all_goals cases hev
    refine keeps_enabled.not_mem (fun e he => ?_) (fun _ _ => trivial) henabled hpost
    cases hstep' : step e (.enable maxData') with
    | none => rfl
    | some p =>
      rcases step_eq_some hstep' with ⟨m, -, hdisabled, -⟩ | ⟨hev, -⟩ | ⟨hev, -⟩ | ⟨hev, -⟩ | ⟨data, hev, -⟩
      · exact absurd hdisabled he
      all_goals cases hev
  · -- after `rejected` or `finished`, early data is over for the rest of the run
    intro pre ev post hevents hev out hout
    rw [hevents] at h
    obtain ⟨bs₁, bs, u, hpre, hrest, rfl⟩ := Budget.run_append_eq_some h
    obtain ⟨b, u', bs', hstep, hpost, rfl⟩ := Budget.run_cons_eq_some.mp hrest
    have hdrop : (bs₁ ++ b :: bs').drop (pre.length + 1) = bs' := by
      rw [← Budget.length_run hpre, List.drop_append, List.drop_of_length_le (by omega),
        Nat.add_sub_cancel_left]
      rfl
    rw [hdrop] at hout
    exact keeps_over.forall_mem (fun _ _ _ _ _ hover hs => (step_of_over hover hs).1)
      (fun _ _ => trivial) (over_of_step hev hstep) hpost out hout

/-- A ticket allows four bytes; three are written, the server rejects early
data, and a last write is refused. -/
def rejectedAfterThree : List EarlyDataEvent :=
  [.enable 4, .write [1, 2, 3], .rejected, .write [4, 5]]

theorem rejected_after_three_within_allowance :
    (([none, some [1, 2, 3], none, none] : List (Option (List UInt8))).filterMap id).flatten.length +
        EarlyData.bytesLeft ⟨.rejected, 1⟩ ≤ (rejectedAfterThree.map EarlyDataEvent.allowance).sum ∧
      (∀ pre post maxData, rejectedAfterThree = pre ++ .enable maxData :: post →
        ∀ maxData', .enable maxData' ∉ post) ∧
      (∀ pre ev post, rejectedAfterThree = pre ++ ev :: post → ev = .rejected ∨ ev = .finished →
        ∀ out ∈ ([none, some [1, 2, 3], none, none] : List (Option (List UInt8))).drop (pre.length + 1),
          out = none) :=
  early_data_within_allowance rfl

end EarlyData

end Client

end Rustls
