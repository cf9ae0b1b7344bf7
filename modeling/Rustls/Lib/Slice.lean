import Mathlib

/-!
Ranges of a list, as a slice indexed by `s..e` gives them.

`l[s..e]` of a slice panics unless `s ≤ e ≤ l.len()`; `getRange?` is that
indexing with the panic as `none`, and where it succeeds it is the library's
`List.extract`.  A sequence of slices laid end to end is cut by windows: the
lemmas below say how a window of a concatenation splits into a window of each
part, and how cutting a window at an offset gives two windows.  The last two
are the laws that a cursor pair `start..end` over a list of slices obeys.
-/

namespace List

variable {α : Type}

/-- The range `s..e` of a list, or `none` where indexing a slice panics. -/
def getRange? (l : List α) (s e : Nat) : Option (List α) :=
  if s ≤ e ∧ e ≤ l.length then some (l.extract s e) else none

theorem getRange?_eq_some {l : List α} {s e : Nat} (hse : s ≤ e) (he : e ≤ l.length) :
    l.getRange? s e = some (l.extract s e) :=
  if_pos ⟨hse, he⟩

theorem extract_eq_drop_take_of (l : List α) (s e : Nat) : l.extract s e = (l.take e).drop s := by
  rw [List.extract_eq_take_drop, List.drop_take]

@[simp] theorem length_extract (l : List α) (s e : Nat) :
    (l.extract s e).length = min e l.length - s := by
  rw [extract_eq_drop_take_of, List.length_drop, List.length_take]

theorem extract_eq_nil_of_le (l : List α) {s e : Nat} (h : e ≤ s) : l.extract s e = [] := by
  rw [List.extract_eq_take_drop, Nat.sub_eq_zero_of_le h, List.take_zero]

/-- Past the end of the list, a window's end makes no difference. -/
theorem extract_min_length (l : List α) (s e : Nat) : l.extract s (min e l.length) = l.extract s e := by
  rw [extract_eq_drop_take_of, extract_eq_drop_take_of, ← List.take_eq_take_min]

/-- A window of a concatenation is a window of each part, the second one's
cursors moved back by the length of the first. -/
theorem extract_append (l₁ l₂ : List α) (s e : Nat) :
    (l₁ ++ l₂).extract s e = l₁.extract s e ++ l₂.extract (s - l₁.length) (e - l₁.length) := by
  rw [extract_eq_drop_take_of, extract_eq_drop_take_of, extract_eq_drop_take_of, List.take_append,
    List.drop_append, List.length_take]
  by_cases he : l₁.length ≤ e
  · rw [Nat.min_eq_right he]
  · -- the window ends inside the first part, and takes nothing of the second
    have hzero : e - l₁.length = 0 := by omega
    simp only [hzero, List.take_zero, List.drop_nil]

/-- The first `m` elements of a window are the window cut at `s + m`. -/
theorem take_extract (l : List α) (s e m : Nat) :
    (l.extract s e).take m = l.extract s (min (s + m) e) := by
  rw [extract_eq_drop_take_of, extract_eq_drop_take_of, List.take_drop, List.take_take,
    Nat.min_comm]

/-- What follows the first `m` elements of a window is the window from `s + m`. -/
theorem drop_extract (l : List α) (s e m : Nat) :
    (l.extract s e).drop m = l.extract (min (s + m) e) e := by
  rw [extract_eq_drop_take_of, extract_eq_drop_take_of, List.drop_drop]
  by_cases h : s + m ≤ e
  · rw [Nat.min_eq_left h]
  · -- both windows are past the end of the first `e` elements
    have hlen : (l.take e).length ≤ e := List.length_take_le _ _
    rw [Nat.min_eq_right (by omega), List.drop_eq_nil_of_le (by omega),
      List.drop_eq_nil_of_le hlen]

end List
