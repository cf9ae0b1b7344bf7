import Mathlib

/-!
A list kept in order of time stamps.

A cache that evicts by age keeps its entries in a list, oldest first, and
stamps each key with the step at which it was last touched.  `Recent` is that
order: the stamps increase strictly along the list, and all of them lie
before the current step.  Touching an element, moving it (or a new one) to the
back with the current step as its stamp, keeps the order, as does taking any
sublist; the front of such a list is then the element touched longest ago.
-/

namespace List

variable {α κ : Type}

/-- The list's keys, in strictly increasing order of their stamps, all
before step `t`. -/
structure Recent (l : List α) (key : α → κ) (stamp : κ → Nat) (t : Nat) : Prop where
  /-- Stamps increase along the list. -/
  pairwise : l.Pairwise fun a b => stamp (key a) < stamp (key b)
  /-- Every stamp is from an earlier step. -/
  lt_now : ∀ a ∈ l, stamp (key a) < t

variable {l l' : List α} {key : α → κ} {stamp : κ → Nat} {t : Nat}

theorem recent_nil (key : α → κ) (stamp : κ → Nat) (t : Nat) : Recent [] key stamp t :=
  ⟨List.Pairwise.nil, fun _ h => absurd h List.not_mem_nil⟩

theorem Recent.sublist (h : Recent l key stamp t) (hsub : l' <+ l) : Recent l' key stamp t :=
  ⟨h.pairwise.sublist hsub, fun a ha => h.lt_now a (hsub.subset ha)⟩

theorem Recent.mono (h : Recent l key stamp t) {t' : Nat} (ht : t ≤ t') : Recent l key stamp t' :=
  ⟨h.pairwise, fun a ha => Nat.lt_of_lt_of_le (h.lt_now a ha) ht⟩

/-- The front was touched before everything behind it. -/
theorem Recent.head_lt {a : α} (h : Recent (a :: l) key stamp t) : ∀ b ∈ l, stamp (key a) < stamp (key b) :=
  (List.pairwise_cons.mp h.pairwise).1

variable [DecidableEq κ]

/-- Stamping a key that no element has changes nothing of the order. -/
theorem Recent.update_of_not_mem (h : Recent l key stamp t) {k : κ} (hk : ∀ a ∈ l, key a ≠ k) (s : Nat) :
    Recent l key (Function.update stamp k s) t := by
  have hsame : ∀ a ∈ l, Function.update stamp k s (key a) = stamp (key a) :=
    fun a ha => Function.update_of_ne (hk a ha) _ _
  refine ⟨?_, fun a ha => (hsame a ha).symm ▸ h.lt_now a ha⟩
  exact h.pairwise.imp_of_mem fun ha hb hab => by rw [hsame _ ha, hsame _ hb]; exact hab

/-- **Touching an element**: put at the back with the current step as its
stamp, it is the most recent, and the order moves on by one step. -/
theorem Recent.append_touch (h : Recent l key stamp t) {e : α} (hk : ∀ a ∈ l, key a ≠ key e) :
    Recent (l ++ [e]) key (Function.update stamp (key e) t) (t + 1) := by
  have hrest := h.update_of_not_mem hk t
  have hnew : Function.update stamp (key e) t (key e) = t := Function.update_self _ _ _
  constructor
  · rw [List.pairwise_append]
    refine ⟨hrest.pairwise, List.pairwise_singleton _ _, ?_⟩
    intro a ha b hb
    rw [List.mem_singleton] at hb
    rw [hb, hnew]
    exact hrest.lt_now a ha
  · intro a ha
    rw [List.mem_append, List.mem_singleton] at ha
    rcases ha with ha | rfl
    · exact Nat.lt_succ_of_lt (hrest.lt_now a ha)
    · rw [hnew]
      exact Nat.lt_succ_self t

end List
