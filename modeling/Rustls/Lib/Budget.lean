import Mathlib

/-!
Runs of a step function that may fail, and the budgets they spend.

A component that hands out a limited resource (bytes that may still be sent,
records that may still be skipped) is a state machine whose steps each return
something, and may fail outright: a panic, or an `assert!` that does not hold.
`run` plays a list of inputs through such a step from a start state.

Two rules are proved once for these runs.  A property of states that every
step keeps holds after the run, and what every step returns from such a state
has whatever property the step gives it (`Keeps.run`, `Keeps.forall_mem`);
where only some inputs keep it, the run must be of those.
A budget that every step pays out of bounds the whole run (`Pays.run`): when
the cost of each step, with the budget after it, is at most the budget before
it and the credit its input brings, the run's total cost and the budget it
leaves are at most the start's budget and the total credit.  And what every
step passes on without loss is passed on, in order, by the run
(`Conserves.run`).
-/

namespace Budget

variable {σ α β : Type} (step : σ → α → Option (β × σ))

/-- The inputs played through `step` from `s`: what each step returned, and
the state after the last; `none` when some step fails. -/
def run : σ → List α → Option (List β × σ)
  | s, [] => some ([], s)
  | s, a :: as =>
    match step s a with
    | none => none
    | some (b, s') =>
      match run s' as with
      | none => none
      | some (bs, t) => some (b :: bs, t)

variable {step}

@[simp] theorem run_nil (s : σ) : run step s [] = some ([], s) := rfl

/-- A run of one more input: its first step, then the rest of the run. -/
theorem run_cons_eq_some {s t : σ} {a : α} {as : List α} {bs : List β} :
    run step s (a :: as) = some (bs, t) ↔
      ∃ b s' bs', step s a = some (b, s') ∧ run step s' as = some (bs', t) ∧ bs = b :: bs' := by
  constructor
  · intro h
    unfold run at h
    rcases hstep : step s a with _ | ⟨b, s'⟩
    · rw [hstep] at h
      cases h
    · rw [hstep] at h
      dsimp only at h
      rcases hrest : run step s' as with _ | ⟨bs', t'⟩
      · rw [hrest] at h
        cases h
      · rw [hrest] at h
        cases h
        exact ⟨b, s', bs', rfl, hrest, rfl⟩
  · rintro ⟨b, s', bs', hstep, hrest, rfl⟩
    simp only [run, hstep, hrest]

/-- A run returns one output for each input. -/
theorem length_run {s t : σ} {as : List α} {bs : List β} (h : run step s as = some (bs, t)) :
    bs.length = as.length := by
  induction as generalizing s bs with
  | nil =>
    cases h
    rfl
  | cons a as ih =>
    obtain ⟨b, s', bs', -, hrest, rfl⟩ := run_cons_eq_some.mp h
    rw [List.length_cons, List.length_cons, ih hrest]

/-- A run of two lists of inputs is a run of the first, then one of the
second from where it stopped. -/
theorem run_append_eq_some {s t : σ} {as as' : List α} {bs : List β}
    (h : run step s (as ++ as') = some (bs, t)) :
    ∃ bs₁ bs₂ u, run step s as = some (bs₁, u) ∧ run step u as' = some (bs₂, t) ∧ bs = bs₁ ++ bs₂ := by
  induction as generalizing s bs with
  | nil => exact ⟨[], bs, s, rfl, h, rfl⟩
  | cons a as ih =>
    obtain ⟨b, s', bs', hstep, hrest, rfl⟩ := run_cons_eq_some.mp h
    obtain ⟨bs₁, bs₂, u, hfirst, hsecond, rfl⟩ := ih hrest
    exact ⟨b :: bs₁, bs₂, u, run_cons_eq_some.mpr ⟨b, s', bs₁, hstep, hfirst, rfl⟩, hsecond, rfl⟩

/-- A run whose outputs split in two is a run of the inputs that gave the
first part, then a run of the rest from where it stopped. -/
theorem run_eq_some_append {s t : σ} {as : List α} {bs₁ bs₂ : List β}
    (h : run step s as = some (bs₁ ++ bs₂, t)) :
    ∃ as₁ as₂ u, as = as₁ ++ as₂ ∧ run step s as₁ = some (bs₁, u) ∧ run step u as₂ = some (bs₂, t) := by
  induction bs₁ generalizing s as with
  | nil => exact ⟨[], as, s, rfl, rfl, h⟩
  | cons b bs₁ ih =>
    cases as with
    | nil => cases h
    | cons a as =>
      obtain ⟨b', s', bs', hstep, hrest, hbs⟩ := run_cons_eq_some.mp h
      obtain ⟨rfl, rfl⟩ := List.cons.inj hbs
      obtain ⟨as₁, as₂, u, rfl, hfirst, hsecond⟩ := ih hrest
      exact ⟨a :: as₁, as₂, u, rfl, run_cons_eq_some.mpr ⟨b, s', bs₁, hstep, hfirst, rfl⟩, hsecond⟩

/-- When every step's output is related to its input by `rel`, the run's
outputs are, one by one. -/
theorem forall₂_run {rel : α → β → Prop} (hrel : ∀ s a b s', step s a = some (b, s') → rel a b)
    {s t : σ} {as : List α} {bs : List β} (h : run step s as = some (bs, t)) : List.Forall₂ rel as bs := by
  induction as generalizing s bs with
  | nil =>
    cases h
    exact .nil
  | cons a as ih =>
    obtain ⟨b, s', bs', hstep, hrest, rfl⟩ := run_cons_eq_some.mp h
    exact .cons (hrel s a b s' hstep) (ih hrest)

/-! ### Invariants -/

variable (step) in
/-- `inv` is kept by every step on an input that `allowed` admits, when the
step does not fail. -/
def Keeps (allowed : α → Prop) (inv : σ → Prop) : Prop :=
  ∀ s a b s', allowed a → inv s → step s a = some (b, s') → inv s'

section Keeps

variable {allowed : α → Prop} {inv : σ → Prop}

/-- An invariant that holds at the start holds after a run of admitted
inputs. -/
theorem Keeps.run (hkeep : Keeps step allowed inv) {s t : σ} {as : List α} {bs : List β}
    (hall : ∀ a ∈ as, allowed a) (hs : inv s) (h : Budget.run step s as = some (bs, t)) : inv t := by
  induction as generalizing s bs with
  | nil =>
    cases h
    exact hs
  | cons a as ih =>
    obtain ⟨b, s', bs', hstep, hrest, rfl⟩ := run_cons_eq_some.mp h
    have ha := hall a List.mem_cons_self
    exact ih (fun a' ha' => hall a' (List.mem_cons_of_mem a ha')) (hkeep s a b s' ha hs hstep) hrest

/-- While an invariant holds, every output is one that a step from such a
state may return. -/
theorem Keeps.forall_mem {out : β → Prop} (hkeep : Keeps step allowed inv)
    (hout : ∀ s a b s', allowed a → inv s → step s a = some (b, s') → out b) {s t : σ} {as : List α}
    {bs : List β} (hall : ∀ a ∈ as, allowed a) (hs : inv s) (h : Budget.run step s as = some (bs, t)) :
    ∀ b ∈ bs, out b := by
  induction as generalizing s bs with
  | nil =>
    cases h
    simp
  | cons a as ih =>
    obtain ⟨b, s', bs', hstep, hrest, rfl⟩ := run_cons_eq_some.mp h
    have ha := hall a List.mem_cons_self
    have hlater := ih (fun a' ha' => hall a' (List.mem_cons_of_mem a ha')) (hkeep s a b s' ha hs hstep) hrest
    intro b' hb'
    rcases List.mem_cons.mp hb' with rfl | hb'
    · exact hout s a b' s' ha hs hstep
    · exact hlater b' hb'

/-- An input that every step from a state with the invariant refuses does not
occur in a run of admitted inputs from such a state. -/
theorem Keeps.not_mem (hkeep : Keeps step allowed inv) {a : α}
    (hrefuse : ∀ s, inv s → step s a = none) {s t : σ} {as : List α} {bs : List β}
    (hall : ∀ a ∈ as, allowed a) (hs : inv s) (h : Budget.run step s as = some (bs, t)) : a ∉ as := by
  induction as generalizing s bs with
  | nil => exact List.not_mem_nil
  | cons a' as ih =>
    obtain ⟨b, s', bs', hstep, hrest, rfl⟩ := run_cons_eq_some.mp h
    have ha' := hall a' List.mem_cons_self
    intro hmem
    rcases List.mem_cons.mp hmem with rfl | hlater
    · rw [hrefuse s hs] at hstep
      cases hstep
    · exact ih (fun a'' ha'' => hall a'' (List.mem_cons_of_mem a' ha'')) (hkeep s a' b s' ha' hs hstep)
        hrest hlater

end Keeps

/-! ### Conservation -/

variable (step) in
/-- Nothing is lost or made: what the state held and what the input brought
is what the step gave out followed by what the new state holds. -/
def Conserves {γ : Type} (held : σ → List γ) (brought : α → List γ) (given : β → List γ) : Prop :=
  ∀ s a b s', step s a = some (b, s') → held s ++ brought a = given b ++ held s'

/-- **The conservation rule.**  Over a whole run, what the start state held
and the inputs brought is what the steps gave out, in order, followed by
what the last state holds. -/
theorem Conserves.run {γ : Type} {held : σ → List γ} {brought : α → List γ} {given : β → List γ}
    (hcons : Conserves step held brought given) {s t : σ} {as : List α} {bs : List β}
    (h : run step s as = some (bs, t)) :
    held s ++ as.flatMap brought = bs.flatMap given ++ held t := by
  induction as generalizing s bs with
  | nil =>
    cases h
    simp
  | cons a as ih =>
    obtain ⟨b, s', bs', hstep, hrest, rfl⟩ := run_cons_eq_some.mp h
    calc held s ++ (a :: as).flatMap brought
        = (held s ++ brought a) ++ as.flatMap brought := by simp
      _ = given b ++ (held s' ++ as.flatMap brought) := by rw [hcons s a b s' hstep, List.append_assoc]
      _ = (b :: bs').flatMap given ++ held t := by rw [ih hrest]; simp

/-! ### Budgets -/

variable (step) in
/-- Every step pays the cost of what it did out of the budget before it and
the credit its input brings. -/
def Pays (budget : σ → Nat) (credit : α → Nat) (cost : α → β → Nat) : Prop :=
  ∀ s a b s', step s a = some (b, s') → cost a b + budget s' ≤ budget s + credit a

/-- **The budget rule.**  Over a whole run, the total cost and the budget
left are at most the budget at the start and the total credit. -/
theorem Pays.run {budget : σ → Nat} {credit : α → Nat} {cost : α → β → Nat}
    (hpay : Pays step budget credit cost) {s t : σ} {as : List α} {bs : List β}
    (h : run step s as = some (bs, t)) :
    ((as.zip bs).map fun p => cost p.1 p.2).sum + budget t ≤ budget s + (as.map credit).sum := by
  induction as generalizing s bs with
  | nil =>
    cases h
    simp
  | cons a as ih =>
    obtain ⟨b, s', bs', hstep, hrest, rfl⟩ := run_cons_eq_some.mp h
    have hfirst := hpay s a b s' hstep
    have hlater := ih hrest
    simp only [List.zip_cons_cons, List.map_cons, List.sum_cons]
    omega

end Budget
