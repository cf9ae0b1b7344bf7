import Mathlib

/-!
A loop over the chunks of an output buffer that carries a state.

`for chunk in out.chunks_mut(size)` visits the buffer in pieces of `size`
elements, the last one shorter; a loop that overwrites each piece with the
front of a block it computes from a state, and steps the state on, writes
the blocks of successive states end to end, cut at the buffer's length.
`fillChunks` is the loop, by the number of elements left, with fuel; `blocks`
is the sequence of blocks it writes, and `fillChunks_eq` says the buffer ends
up holding the first `n` elements of it, whatever it held before.  A counter
mode key derivation is such a loop, with a pseudorandom block per state.
-/

namespace List

variable {σ α : Type}

/-- `for chunk in out.chunks_mut(size)` over an output of `n` elements: the
body is given the state and the chunk's length, and returns what the chunk
now holds and the next state.  `fuel` bounds the number of chunks. -/
def fillChunks (size : Nat) (body : σ → Nat → List α × σ) : Nat → Nat → σ → List α
  | 0, _, _ => []
  | fuel + 1, n, s =>
    if n = 0 then []
    else
      let r := body s (min size n)
      r.1 ++ fillChunks size body fuel (n - min size n) r.2

/-- The blocks of the states `s`, `step s`, …, `k` of them, end to end. -/
def blocks (block : σ → List α) (step : σ → σ) (s : σ) (k : Nat) : List α :=
  ((List.range k).map fun i => block (step^[i] s)).flatten

variable {size : Nat} {body : σ → Nat → List α × σ} {block : σ → List α} {step : σ → σ}

@[simp] theorem fillChunks_zero (fuel : Nat) (s : σ) : fillChunks size body fuel 0 s = [] := by
  cases fuel <;> rfl

@[simp] theorem blocks_zero (s : σ) : blocks block step s 0 = [] := rfl

/-- The first block, then the blocks of the states after it. -/
theorem blocks_succ (s : σ) (k : Nat) : blocks block step s (k + 1) = block s ++ blocks block step (step s) k := by
  rw [blocks, List.range_succ_eq_map, List.map_cons, List.map_map, List.flatten_cons, blocks]
  rfl

/-- `k + j` blocks are `k` blocks, then the `j` blocks from the `k`-th state. -/
theorem blocks_add (s : σ) (k j : Nat) :
    blocks block step s (k + j) = blocks block step s k ++ blocks block step (step^[k] s) j := by
  induction k generalizing s with
  | zero =>
    rw [Nat.zero_add, blocks_zero, List.nil_append]
    rfl
  | succ k ih =>
    rw [Nat.add_right_comm, blocks_succ, ih, blocks_succ, List.append_assoc, Function.iterate_succ_apply]

theorem length_blocks (hblock : ∀ s, (block s).length = size) (s : σ) (k : Nat) :
    (blocks block step s k).length = k * size := by
  induction k generalizing s with
  | zero => rw [blocks_zero, List.length_nil, Nat.zero_mul]
  | succ k ih => rw [blocks_succ, List.length_append, hblock, ih, Nat.succ_mul, Nat.add_comm]

/-- Blocks of a fixed size: the first `n` elements are the same for any
number of blocks that covers them. -/
theorem take_blocks_of_le (hblock : ∀ s, (block s).length = size) (s : σ) {n k k' : Nat}
    (hn : n ≤ k * size) (hk : k ≤ k') :
    (blocks block step s k').take n = (blocks block step s k).take n := by
  obtain ⟨j, rfl⟩ := Nat.exists_eq_add_of_le hk
  rw [blocks_add, List.take_append_of_le_length (by rw [length_blocks hblock]; exact hn)]

/-- `⌈n / size⌉` is one more than `⌈(n - size) / size⌉` past the first chunk. -/
theorem ceil_div_of_lt {n size : Nat} (hsize : 0 < size) (h : size < n) :
    (n + size - 1) / size = (n - size + size - 1) / size + 1 := by
  have hsplit : n + size - 1 = (n - size + size - 1) + size := by omega
  rw [hsplit, Nat.add_div_right _ hsize]

/-- **The loop writes the blocks.**  Overwriting each chunk with the front of
the state's block, a block of exactly `size` elements, fills `n` elements
with the first `n` of the `⌈n / size⌉` blocks. -/
theorem fillChunks_eq (hsize : 0 < size) (hblock : ∀ s, (block s).length = size) :
    ∀ (fuel n : Nat) (s : σ), n ≤ fuel →
      fillChunks size (fun s len => ((block s).take len, step s)) fuel n s =
        (blocks block step s ((n + size - 1) / size)).take n := by
  intro fuel
  induction fuel with
  | zero =>
    intro n s h
    have hn : n = 0 := by omega
    rw [hn, fillChunks_zero, List.take_zero]
  | succ fuel ih =>
    intro n s h
    by_cases hn : n = 0
    · rw [hn, fillChunks_zero, List.take_zero]
    rw [fillChunks, if_neg hn]
    dsimp only
    by_cases hle : n ≤ size
    · -- the whole output is one chunk, the front of the first block
      have hone : (n + size - 1) / size = 1 := Nat.div_eq_of_lt_le (by omega) (by omega)
      rw [Nat.min_eq_right hle, Nat.sub_self, fillChunks_zero, List.append_nil, hone, blocks_succ,
        blocks_zero, List.append_nil]
    · -- a full first chunk, then the rest of the output from the next state
      have hlt : size < n := Nat.lt_of_not_le hle
      have hfirst : (block s).take n = block s := List.take_of_length_le (by rw [hblock]; omega)
      have hchunk : (block s).take size = block s := List.take_of_length_le (Nat.le_of_eq (hblock s))
      rw [Nat.min_eq_left (Nat.le_of_lt hlt), ih (n - size) (step s) (by omega), ceil_div_of_lt hsize hlt,
        blocks_succ, List.take_append, hfirst, hblock, hchunk]

/-- The `⌈n / size⌉` blocks cover `n` elements. -/
theorem le_ceil_div_mul (n : Nat) {size : Nat} (hsize : 0 < size) : n ≤ (n + size - 1) / size * size := by
  have hdiv := Nat.div_add_mod (n + size - 1) size
  have hmod := Nat.mod_lt (n + size - 1) hsize
  rw [Nat.mul_comm]
  omega

/-- A number of blocks that covers `n` elements is at least `⌈n / size⌉`. -/
theorem ceil_div_le {n size k : Nat} (hsize : 0 < size) (h : n ≤ k * size) : (n + size - 1) / size ≤ k := by
  apply Nat.le_of_lt_succ
  rw [Nat.div_lt_iff_lt_mul hsize, Nat.succ_mul]
  omega

/-- The loop writes the first `n` elements of any number of blocks that
covers them. -/
theorem fillChunks_eq_of_le (hsize : 0 < size) (hblock : ∀ s, (block s).length = size) {fuel n : Nat}
    (s : σ) (h : n ≤ fuel) {k : Nat} (hk : n ≤ k * size) :
    fillChunks size (fun s len => ((block s).take len, step s)) fuel n s = (blocks block step s k).take n := by
  rw [fillChunks_eq hsize hblock fuel n s h,
    ← take_blocks_of_le hblock s (le_ceil_div_mul n hsize) (ceil_div_le hsize hk)]

/-- The loop leaves the output as long as it was. -/
theorem length_fillChunks (hsize : 0 < size) (hblock : ∀ s, (block s).length = size) {fuel n : Nat}
    (s : σ) (h : n ≤ fuel) :
    (fillChunks size (fun s len => ((block s).take len, step s)) fuel n s).length = n := by
  rw [fillChunks_eq hsize hblock fuel n s h, List.length_take, length_blocks hblock]
  exact Nat.min_eq_left (le_ceil_div_mul n hsize)

end List
