import Mathlib.Data.List.Basic

/-!
The first match of a scan over a list, and where it stands.

A choice made by scanning a list in order, with `find?` or `findSome?`,
returns the first element that qualifies.  What a caller relies on is that
nothing that qualifies comes before it: the first position of what was chosen
is at most the first position of anything else that qualifies.  That is the
order a preference list expresses.

A handler that runs its checks one after another is the same scan over its
tests: the first that fails answers.  A result that no failed check gives
comes from the checks after it (`rest_eq_of_ite_eq`).
-/

/-- A chain of checks `if c then a else rest` that gave a result the check's
own answer `a` is not, gave it from `rest`. -/
theorem rest_eq_of_ite_eq {α : Type} {c : Prop} [Decidable c] {a rest v : α} (h : (if c then a else rest) = v)
    (ha : a ≠ v) : rest = v := by
  by_cases hc : c
  · rw [if_pos hc] at h
    exact absurd h ha
  · rwa [if_neg hc] at h

namespace List

variable {α β : Type} [BEq α] [LawfulBEq α]

/-- What `find?` returns stands no later than anything else it accepts. -/
theorem idxOf_le_of_find?_eq_some {p : α → Bool} {l : List α} {b : α} (h : l.find? p = some b)
    {x : α} (hx : x ∈ l) (hpx : p x = true) : l.idxOf b ≤ l.idxOf x := by
  obtain ⟨hpb, as, bs, rfl, has⟩ := List.find?_eq_some_iff_append.mp h
  have hb : b ∉ as := fun hmem => by simpa [hpb] using has b hmem
  have hxs : x ∉ as := fun hmem => by simpa [hpx] using has x hmem
  rw [idxOf_append_of_notMem hb, idxOf_append_of_notMem hxs, idxOf_cons_self]
  omega

/-- `findSome?` answers for the first element `f` maps to something: that
element stands no later than any other `f` maps to something. -/
theorem exists_idxOf_le_of_findSome?_eq_some {f : α → Option β} {l : List α} {b : β}
    (h : l.findSome? f = some b) :
    ∃ a ∈ l, f a = some b ∧ ∀ x ∈ l, (f x).isSome = true → l.idxOf a ≤ l.idxOf x := by
  obtain ⟨l₁, a, l₂, rfl, hfa, hnone⟩ := List.findSome?_eq_some_iff.mp h
  have ha : a ∉ l₁ := fun hmem => by simp [hnone a hmem] at hfa
  refine ⟨a, by simp, hfa, ?_⟩
  intro x _ hfx
  have hxs : x ∉ l₁ := fun hmem => by simp [hnone x hmem] at hfx
  rw [idxOf_append_of_notMem ha, idxOf_append_of_notMem hxs, idxOf_cons_self]
  omega

/-! ### `findIdx?` -/

/-- The position `findIdx?` answers splits the list at the first element `p`
accepts: everything before it is refused. -/
theorem exists_append_of_findIdx?_eq_some {γ : Type} {p : γ → Bool} {l : List γ} {i : Nat}
    (h : l.findIdx? p = some i) :
    ∃ pre x post, l = pre ++ x :: post ∧ pre.length = i ∧ p x = true ∧ ∀ y ∈ pre, p y = false := by
  obtain ⟨hlt, hp, hfirst⟩ := List.findIdx?_eq_some_iff_getElem.mp h
  refine ⟨l.take i, l[i], l.drop (i + 1), ?_, ?_, hp, ?_⟩
  · rw [List.getElem_cons_drop hlt, List.take_append_drop]
  · rw [List.length_take]
    omega
  · intro y hy
    obtain ⟨j, hj, rfl⟩ := List.mem_take_iff_getElem.mp hy
    exact Bool.eq_false_iff.mpr (hfirst j (by omega))

/-- After a stretch that `p` refuses, the first element it accepts is found at
the stretch's length. -/
theorem findIdx?_append_cons {γ : Type} {p : γ → Bool} {pre post : List γ} {x : γ}
    (hpre : ∀ y ∈ pre, p y = false) (hx : p x = true) : (pre ++ x :: post).findIdx? p = some pre.length := by
  have hnone : pre.findIdx? p = none := List.findIdx?_eq_none_iff.mpr fun y hy => by simp [hpre y hy]
  rw [List.findIdx?_append, hnone, Option.none_or, List.findIdx?_cons, if_pos hx, Option.map_some, Nat.zero_add]

/-! ### Rewriting by position

`(l.zipIdx k).filterMap f` rewrites each element by its position from `k` on.
Over a stretch of positions where `f` keeps every element as it is, the
stretch comes back; where it drops them all, nothing does. -/

section Positions

variable {γ : Type} {f : γ × Nat → Option γ}

theorem filterMap_zipIdx_of_keep {l : List γ} {k : Nat} (h : ∀ x i, k ≤ i → i < k + l.length → f (x, i) = some x) :
    (l.zipIdx k).filterMap f = l := by
  induction l generalizing k with
  | nil => rfl
  | cons x l ih =>
    have hx : f (x, k) = some x := h x k (Nat.le_refl k) (by simp)
    have htail : (l.zipIdx (k + 1)).filterMap f = l :=
      ih fun y i hi hlt => h y i (by omega) (by simp only [List.length_cons]; omega)
    rw [List.zipIdx_cons, List.filterMap_cons_some hx, htail]

theorem filterMap_zipIdx_of_drop {l : List γ} {k : Nat} (h : ∀ x i, k ≤ i → i < k + l.length → f (x, i) = none) :
    (l.zipIdx k).filterMap f = [] := by
  induction l generalizing k with
  | nil => rfl
  | cons x l ih =>
    have hx : f (x, k) = none := h x k (Nat.le_refl k) (by simp)
    have htail : (l.zipIdx (k + 1)).filterMap f = [] :=
      ih fun y i hi hlt => h y i (by omega) (by simp only [List.length_cons]; omega)
    rw [List.zipIdx_cons, List.filterMap_cons_none hx, htail]

end Positions

/-! ### `lookup`

`lookup` answers with the value of the first pair whose key matches.  Where a
key is not already there, a pair put at the back changes the answer at that
key only, and taking a pair off the front does too. -/

section Lookup

variable {γ : Type} [DecidableEq γ]

theorem lookup_eq_none_of_not_mem {l : List (γ × β)} {k : γ} (hk : k ∉ l.map Prod.fst) :
    l.lookup k = none :=
  List.lookup_eq_none_iff.mpr fun p hp => bne_iff_ne.mpr fun hkp => hk (List.mem_map.mpr ⟨p, hp, hkp.symm⟩)

theorem lookup_append_singleton {l : List (γ × β)} {k : γ} (hk : k ∉ l.map Prod.fst) (v : β) (k' : γ) :
    (l ++ [(k, v)]).lookup k' = Function.update (fun a => l.lookup a) k (some v) k' := by
  rw [List.lookup_append]
  by_cases hkk : k' = k
  · subst hkk
    rw [lookup_eq_none_of_not_mem hk, Function.update_self, Option.none_or, List.lookup_cons,
      beq_self_eq_true]
  · rw [Function.update_of_ne hkk, List.lookup_cons, beq_false_of_ne hkk, List.lookup_nil, Option.or_none]

theorem lookup_of_cons {p : γ × β} {l : List (γ × β)} (hp : p.1 ∉ l.map Prod.fst) (k' : γ) :
    l.lookup k' = Function.update (fun a => (p :: l).lookup a) p.1 none k' := by
  by_cases hkk : k' = p.1
  · subst hkk
    rw [Function.update_self, lookup_eq_none_of_not_mem hp]
  · rw [Function.update_of_ne hkk, List.lookup_cons, beq_false_of_ne hkk]

end Lookup

end List
