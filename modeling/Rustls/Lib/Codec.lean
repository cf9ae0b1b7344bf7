import Rustls.Lib.BigEndian

/-!
Length-prefixed fields, and lists of elements held in one.

A wire format writes a variable-length field as its length in `w` bytes,
big-endian, followed by the bytes, and a list as one such field holding its
elements one after another.  The reader takes the length off, then exactly
that many bytes; a list is read element by element until its field is used
up.

The writer keeps only the `w` low bytes of the length, as `be` does.  Below
`256 ^ w` the reader undoes it.  At or above, the reader sees the length
modulo `256 ^ w` and stops short, and what it leaves behind is read as
whatever comes next: `readPrefixed_prefixed` says exactly what it returns.
A list reads back when its elements do, each taking what its writer wrote
whatever follows and at least one byte, and when the whole fits the prefix.
-/

namespace Bytes

/-- A reader: what it takes off the front of the input, and the rest. -/
abbrev Reader (α : Type) := List UInt8 → Option (α × List UInt8)

/-- Exactly `n` bytes off the front, when there are that many. -/
def takeExact (n : Nat) : Reader (List UInt8) := fun input =>
  if n ≤ input.length then some (input.take n, input.drop n) else none

/-- A field of `w` length bytes holding `body`. -/
def prefixed (w : Nat) (body : List UInt8) : List UInt8 :=
  be w body.length ++ body

/-- The reader of a field of `w` length bytes. -/
def readPrefixed (w : Nat) : Reader (List UInt8) := fun input =>
  (takeExact w input).bind fun (len, rest) => takeExact (value len) rest

/-- A number of `w` bytes, big-endian, off the front. -/
def readBe (w : Nat) : Reader Nat := fun input =>
  (takeExact w input).map fun (bs, rest) => (value bs, rest)

/-- Elements read one after another until the input is used up, with `fuel`
bounding their number. -/
def readAll {α : Type} (read : Reader α) : Nat → List UInt8 → Option (List α)
  | _, [] => some []
  | 0, _ :: _ => none
  | fuel + 1, b :: bs =>
    (read (b :: bs)).bind fun (x, rest) => (readAll read fuel rest).map (x :: ·)

/-- A list written in one field of `w` length bytes. -/
def prefixedList {α : Type} (w : Nat) (write : α → List UInt8) (xs : List α) : List UInt8 :=
  prefixed w (xs.flatMap write)

/-- The reader of a list in one field of `w` length bytes: the field, then
its elements until it is used up. -/
def readList {α : Type} (w : Nat) (read : Reader α) : Reader (List α) := fun input =>
  (readPrefixed w input).bind fun (body, rest) => (readAll read body.length body).map (·, rest)

@[simp] theorem length_prefixed (w : Nat) (body : List UInt8) :
    (prefixed w body).length = w + body.length := by
  rw [prefixed, List.length_append, length_be]

theorem takeExact_append {n : Nat} {pre : List UInt8} (h : pre.length = n) (rest : List UInt8) :
    takeExact n (pre ++ rest) = some (pre, rest) := by
  have hle : n ≤ (pre ++ rest).length := by
    rw [List.length_append]
    omega
  rw [takeExact, if_pos hle, List.take_left' h, List.drop_left' h]

theorem takeExact_of_le {n : Nat} {input : List UInt8} (h : n ≤ input.length) :
    takeExact n input = some (input.take n, input.drop n) := by
  rw [takeExact, if_pos h]

theorem takeExact_of_lt {n : Nat} {input : List UInt8} (h : input.length < n) : takeExact n input = none := by
  rw [takeExact, if_neg (Nat.not_le.mpr h)]

theorem takeExact_eq_some {n : Nat} {input pre rest : List UInt8} (h : takeExact n input = some (pre, rest)) :
    pre.length = n ∧ pre ++ rest = input := by
  unfold takeExact at h
  split at h
  · obtain ⟨rfl, rfl⟩ := Prod.mk.inj (Option.some.inj h)
    exact ⟨List.length_take_of_le ‹_›, List.take_append_drop n input⟩
  · cases h

/-- A field read back is shorter than its length bytes can count. -/
theorem length_lt_of_readPrefixed {w : Nat} {input body rest : List UInt8}
    (h : readPrefixed w input = some (body, rest)) : body.length < 256 ^ w := by
  unfold readPrefixed at h
  cases hlen : takeExact w input with
  | none => rw [hlen] at h; cases h
  | some field =>
    obtain ⟨len, after⟩ := field
    rw [hlen, Option.bind_some] at h
    have hw := (takeExact_eq_some hlen).1
    have hbody := (takeExact_eq_some h).1
    rw [hbody, ← hw]
    exact value_lt len

/-- **What the reader makes of a field.**  It takes the length modulo
`256 ^ w` bytes: the whole body when the length fits, a prefix of it when it
does not. -/
theorem readPrefixed_prefixed (w : Nat) (body rest : List UInt8) :
    readPrefixed w (prefixed w body ++ rest) =
      some ((body ++ rest).take (body.length % 256 ^ w), (body ++ rest).drop (body.length % 256 ^ w)) := by
  have hmod : body.length % 256 ^ w ≤ (body ++ rest).length := by
    rw [List.length_append]
    exact Nat.le_trans (Nat.mod_le _ _) (Nat.le_add_right _ _)
  rw [readPrefixed, prefixed, List.append_assoc, takeExact_append (length_be w body.length),
    Option.bind_some]
  dsimp only
  rw [value_be, takeExact_of_le hmod]

/-- A body shorter than `256 ^ w` reads back as itself. -/
theorem readPrefixed_prefixed_of_lt {w : Nat} {body : List UInt8} (h : body.length < 256 ^ w)
    (rest : List UInt8) : readPrefixed w (prefixed w body ++ rest) = some (body, rest) := by
  rw [readPrefixed_prefixed, Nat.mod_eq_of_lt h, List.take_left' rfl, List.drop_left' rfl]

/-- A number below `256 ^ w` reads back. -/
theorem readBe_be {w n : Nat} (h : n < 256 ^ w) (rest : List UInt8) :
    readBe w (be w n ++ rest) = some (n, rest) := by
  rw [readBe, takeExact_append (length_be w n), Option.map_some]
  dsimp only
  rw [value_be, Nat.mod_eq_of_lt h]

section Lists

variable {α : Type} {read : Reader α} {write : α → List UInt8}

/-- Elements whose reader takes exactly what their writer wrote, one byte at
least each, read back from their concatenation. -/
theorem readAll_flatMap (xs : List α) (hread : ∀ x ∈ xs, ∀ rest, read (write x ++ rest) = some (x, rest))
    (hpos : ∀ x ∈ xs, 0 < (write x).length) :
    ∀ fuel, (xs.flatMap write).length ≤ fuel → readAll read fuel (xs.flatMap write) = some xs := by
  induction xs with
  | nil =>
    intro fuel _
    rw [List.flatMap_nil]
    cases fuel <;> rfl
  | cons x xs ih =>
    intro fuel hfuel
    rw [List.forall_mem_cons] at hread hpos
    rw [List.flatMap_cons, List.length_append] at hfuel
    obtain ⟨b, bs, hwrite⟩ : ∃ b bs, write x = b :: bs := List.exists_cons_of_length_pos hpos.1
    obtain ⟨fuel, rfl⟩ : ∃ k, fuel = k + 1 := ⟨fuel - 1, by omega⟩
    rw [List.flatMap_cons, hwrite, List.cons_append, readAll, ← List.cons_append, ← hwrite,
      hread.1, Option.bind_some]
    dsimp only
    rw [ih hread.2 hpos.2 fuel (by omega), Option.map_some]

/-- What holds of everything the element reader returns holds of every
element of a list read. -/
theorem forall_mem_readAll {P : α → Prop} (hP : ∀ input x rest, read input = some (x, rest) → P x) :
    ∀ fuel input xs, readAll read fuel input = some xs → ∀ x ∈ xs, P x := by
  intro fuel
  induction fuel with
  | zero =>
    intro input xs h
    cases input with
    | nil => cases h; simp
    | cons b bs => cases h
  | succ fuel ih =>
    intro input xs h
    cases input with
    | nil => cases h; simp
    | cons b bs =>
      rw [readAll] at h
      cases hx : read (b :: bs) with
      | none => rw [hx] at h; cases h
      | some r =>
        obtain ⟨x, rest⟩ := r
        rw [hx, Option.bind_some] at h
        dsimp only at h
        cases hxs : readAll read fuel rest with
        | none => rw [hxs] at h; cases h
        | some xs' =>
          rw [hxs, Option.map_some] at h
          cases h
          intro y hy
          rcases List.mem_cons.mp hy with rfl | hy
          · exact hP _ _ _ hx
          · exact ih rest xs' hxs y hy

theorem forall_mem_readList {P : α → Prop} (hP : ∀ input x rest, read input = some (x, rest) → P x)
    {w : Nat} {input rest : List UInt8} {xs : List α} (h : readList w read input = some (xs, rest)) :
    ∀ x ∈ xs, P x := by
  unfold readList at h
  cases hbody : readPrefixed w input with
  | none => rw [hbody] at h; cases h
  | some field =>
    obtain ⟨body, after⟩ := field
    rw [hbody, Option.bind_some] at h
    dsimp only at h
    cases hxs : readAll read body.length body with
    | none => rw [hxs] at h; cases h
    | some xs' =>
      rw [hxs, Option.map_some] at h
      obtain ⟨rfl, -⟩ := Prod.mk.inj (Option.some.inj h)
      exact forall_mem_readAll hP _ _ _ hxs

/-- **A list reads back** when its elements do and the whole fits the prefix. -/
theorem readList_prefixedList {w : Nat} {xs : List α}
    (hread : ∀ x ∈ xs, ∀ rest, read (write x ++ rest) = some (x, rest))
    (hpos : ∀ x ∈ xs, 0 < (write x).length) (hfit : (xs.flatMap write).length < 256 ^ w)
    (rest : List UInt8) : readList w read (prefixedList w write xs ++ rest) = some (xs, rest) := by
  rw [readList, prefixedList, readPrefixed_prefixed_of_lt hfit, Option.bind_some]
  dsimp only
  rw [readAll_flatMap xs hread hpos _ (le_refl _), Option.map_some]

end Lists

end Bytes
