import Mathlib

/-!
Fixed-width big-endian integers over byte strings.

Wire formats write lengths and counters as `w` bytes, most significant first,
and read them back by folding the bytes into a number.  `be w n` is the
writer (it keeps the `w` low bytes of `n`, which is what an `as uN` cast
followed by `to_be_bytes` does) and `value` the reader.  Everything a codec
proof needs is that the reader undoes the writer below `256 ^ w`, and that
the writer is injective there.

`xorBytes` is the byte-wise exclusive or used to mask a counter into a
fixed initialisation vector; masking with the same vector is injective.  A
mask applied twice cancels, and a mask confined to some bits of a byte leaves
the others as they were.
`ascii` is a byte-string literal such as `b"tls13 "`.
-/

namespace Bytes

/-- The `w` low bytes of `n`, most significant first. -/
def be : Nat → Nat → List UInt8
  | 0, _ => []
  | w + 1, n => be w (n / 256) ++ [UInt8.ofNat (n % 256)]

/-- The number a big-endian byte string denotes. -/
def value (bs : List UInt8) : Nat :=
  bs.foldl (fun acc b => acc * 256 + b.toNat) 0

@[simp] theorem length_be (w n : Nat) : (be w n).length = w := by
  induction w generalizing n with
  | zero => rfl
  | succ w ih => simp [be, ih]

private theorem foldl_value (xs : List UInt8) (acc : Nat) :
    xs.foldl (fun acc b => acc * 256 + b.toNat) acc = acc * 256 ^ xs.length + value xs := by
  induction xs generalizing acc with
  | nil => simp [value]
  | cons x xs ih =>
    simp only [List.foldl_cons, value, List.length_cons]
    rw [ih, ih (0 * 256 + x.toNat)]
    ring

theorem value_append (xs ys : List UInt8) :
    value (xs ++ ys) = value xs * 256 ^ ys.length + value ys := by
  rw [value, List.foldl_append, foldl_value]
  rfl

@[simp] theorem value_nil : value [] = 0 := rfl

@[simp] theorem value_singleton (b : UInt8) : value [b] = b.toNat := by
  simp [value]

theorem value_append_singleton (xs : List UInt8) (b : UInt8) :
    value (xs ++ [b]) = value xs * 256 + b.toNat := by
  rw [value_append, value_singleton, List.length_singleton, pow_one]

/-- **Reading back what was written gives the number modulo the width.** -/
theorem value_be (w n : Nat) : value (be w n) = n % 256 ^ w := by
  induction w generalizing n with
  | zero => simp [be, Nat.mod_one]
  | succ w ih =>
    have hlow : (UInt8.ofNat (n % 256)).toNat = n % 256 := by simp
    rw [be, value_append_singleton, ih, hlow, pow_succ', Nat.mod_mul]
    ring

theorem value_lt (bs : List UInt8) : value bs < 256 ^ bs.length := by
  induction bs using List.reverseRecOn with
  | nil => simp
  | append_singleton xs x ih =>
    rw [value_append_singleton, List.length_append, List.length_singleton, pow_succ]
    have hx : x.toNat < 256 := x.toNat_lt
    nlinarith

/-- **Writing what was read gives the bytes back.** -/
theorem be_value (bs : List UInt8) : be bs.length (value bs) = bs := by
  induction bs using List.reverseRecOn with
  | nil => rfl
  | append_singleton xs x ih =>
    have hx : x.toNat < 256 := x.toNat_lt
    have hdiv : (value xs * 256 + x.toNat) / 256 = value xs := by omega
    have hmod : (value xs * 256 + x.toNat) % 256 = x.toNat := by omega
    rw [List.length_append, List.length_singleton, be, value_append_singleton, hdiv, hmod, ih]
    simp

theorem be_injective {w m n : Nat} (hm : m < 256 ^ w) (hn : n < 256 ^ w)
    (h : be w m = be w n) : m = n := by
  have := congrArg value h
  rwa [value_be, value_be, Nat.mod_eq_of_lt hm, Nat.mod_eq_of_lt hn] at this

theorem be_mod (w n : Nat) : be w (n % 256 ^ w) = be w n := by
  have h := be_value (be w n)
  rw [length_be, value_be] at h
  exact h

/-! ### Masking with a fixed vector -/

/-- Byte-wise exclusive or; the result is as long as the shorter input. -/
def xorBytes (xs ys : List UInt8) : List UInt8 :=
  List.zipWith (· ^^^ ·) xs ys

@[simp] theorem length_xorBytes (xs ys : List UInt8) :
    (xorBytes xs ys).length = min xs.length ys.length := by
  simp [xorBytes]

/-- Masking two strings of the vector's length with it is injective. -/
theorem xorBytes_left_injective {xs ys mask : List UInt8} (hx : xs.length = mask.length)
    (hy : ys.length = mask.length) (h : xorBytes xs mask = xorBytes ys mask) : xs = ys := by
  induction mask generalizing xs ys with
  | nil => rw [List.length_eq_zero_iff.mp hx, List.length_eq_zero_iff.mp hy]
  | cons m ms ih =>
    obtain ⟨x, xs', rfl⟩ := List.exists_cons_of_length_eq_add_one hx
    obtain ⟨y, ys', rfl⟩ := List.exists_cons_of_length_eq_add_one hy
    simp only [xorBytes, List.zipWith_cons_cons, List.cons.injEq, UInt8.xor_left_inj] at h
    obtain ⟨rfl, hrest⟩ := h
    rw [ih (by simpa using hx) (by simpa using hy) hrest]

theorem xorBytes_append {xs xs' ys ys' : List UInt8} (h : xs.length = ys.length) :
    xorBytes (xs ++ xs') (ys ++ ys') = xorBytes xs ys ++ xorBytes xs' ys' := by
  simp [xorBytes, List.zipWith_append h]

/-- Masking twice with the same byte gives the byte back. -/
theorem xor_xor_cancel (a b : UInt8) : a ^^^ b ^^^ b = a := by
  rw [UInt8.xor_assoc, UInt8.xor_self, UInt8.xor_zero]

theorem xor_and_distrib (a m b c : UInt8) : (a ^^^ (m &&& b)) &&& c = (a &&& c) ^^^ (m &&& (b &&& c)) := by
  apply UInt8.toBitVec_inj.mp
  ext i hi
  simp [Bool.and_xor_distrib_right, Bool.and_assoc]

/-- A mask confined to the bits `b` leaves the bits of `c` outside them as
they were. -/
theorem xor_and_of_and_eq_zero {b c : UInt8} (h : b &&& c = 0) (a m : UInt8) :
    (a ^^^ (m &&& b)) &&& c = a &&& c := by
  rw [xor_and_distrib, h, UInt8.and_zero, UInt8.xor_zero]

/-- The bytes of an ASCII string literal. -/
def ascii (s : String) : List UInt8 :=
  s.toList.map Char.toUInt8

end Bytes
