import Rustls.Lib.Codec

/-!
DER's definite length (X.690, 8.1.3 and 10.1): how the length of a value is
written in front of it, and a reader that takes a tag, a length and the value
back off the front of its input.

A length below 128 is one byte.  A longer one is the byte `0x80 + k`, then the
length in `k` bytes, big-endian.  DER asks for the fewest bytes, so the first
of them is not zero: `byteLen n`, the number of base-256 digits of `n`, is
that `k`.  The reader refuses every other form: the indefinite length `0x80`,
a long form with a leading zero byte, and a long form of a length that fits
the short one.  What the writer makes, the reader takes back whole
(`readTlv_tlv`).
-/

namespace Bytes

/-- Zero, in any number of bytes. -/
theorem be_zero_right (w : Nat) : be w 0 = List.replicate w 0 := by
  induction w with
  | zero => rfl
  | succ w ih =>
    rw [be, Nat.zero_div, ih, Nat.zero_mod, List.replicate_succ']
    rfl

/-- The first of `k + 1` bytes holds the quotient by `256 ^ k`. -/
theorem be_succ (k n : Nat) : be (k + 1) n = UInt8.ofNat (n / 256 ^ k) :: be k n := by
  induction k generalizing n with
  | zero =>
    rw [be, be, Nat.pow_zero, Nat.div_one, UInt8.ofNat_mod_size']
    rfl
  | succ k ih =>
    rw [be, ih, be, Nat.div_div_eq_div_mul, ← Nat.pow_succ']
    rfl

/-- A number below `256 ^ k`, written in `m` more bytes than `k`: `m` zero
bytes in front. -/
theorem be_add_of_lt {k n : Nat} (m : Nat) (h : n < 256 ^ k) : be (m + k) n = List.replicate m 0 ++ be k n := by
  induction k generalizing n with
  | zero =>
    have hn : n = 0 := by simpa using h
    rw [hn, Nat.add_zero, be_zero_right, be, List.append_nil]
  | succ k ih =>
    have hdiv : n / 256 < 256 ^ k := by
      rw [Nat.pow_succ] at h
      exact Nat.div_lt_of_lt_mul (by omega)
    rw [← Nat.add_assoc, be, be, ih hdiv, List.append_assoc]

end Bytes

namespace Der

/-- The number of bytes of `n` written big-endian without leading zeros. -/
def byteLen (n : Nat) : Nat := (Nat.digits 256 n).length

/-- The length octets of a value of `n` bytes. -/
def lengthOctets (n : Nat) : List UInt8 :=
  if n ≤ 0x7f then [UInt8.ofNat n]
  else (0x80 + UInt8.ofNat (byteLen n)) :: Bytes.be (byteLen n) n

/-- The length octets read back: the short form, or a long form of the
fewest bytes. -/
def readLength : Bytes.Reader Nat
  | [] => none
  | b :: rest =>
    if b < 0x80 then some (b.toNat, rest)
    else
      (Bytes.takeExact (b.toNat - 0x80) rest).bind fun (bs, rest) =>
        if bs.head? = some 0 ∨ Bytes.value bs ≤ 0x7f then none else some (Bytes.value bs, rest)

/-- A tag, its length, and that many bytes of value. -/
def readTlv : Bytes.Reader (UInt8 × List UInt8)
  | [] => none
  | tag :: rest =>
    (readLength rest).bind fun (len, rest) => (Bytes.takeExact len rest).map fun (value, rest) => ((tag, value), rest)

theorem lt_pow_byteLen (n : Nat) : n < 256 ^ byteLen n :=
  Nat.lt_base_pow_length_digits (by norm_num)

/-- A number needs every one of its bytes: one of `k + 1` bytes is at least
`256 ^ k`. -/
theorem pow_le_of_byteLen_eq {n k : Nat} (h : byteLen n = k + 1) : 256 ^ k ≤ n := by
  have hn : n ≠ 0 := by
    rintro rfl
    simp [byteLen] at h
  have hle := Nat.base_pow_length_digits_le 256 n (by norm_num) hn
  rw [← byteLen, h, Nat.pow_succ] at hle
  omega

/-- `byteLen` is the fewest bytes: a number below `256 ^ k` has at most `k`. -/
theorem byteLen_le {n k : Nat} (h : n < 256 ^ k) : byteLen n ≤ k := by
  by_contra hgt
  obtain ⟨j, hj⟩ : ∃ j, byteLen n = j + 1 := ⟨byteLen n - 1, by omega⟩
  have hpow : 256 ^ k ≤ 256 ^ j := Nat.pow_le_pow_right (by norm_num) (by omega)
  have := pow_le_of_byteLen_eq hj
  omega

theorem byteLen_pos {n : Nat} (hn : n ≠ 0) : 0 < byteLen n :=
  List.length_pos_of_ne_nil (Nat.digits_ne_nil_iff_ne_zero.mpr hn)

theorem uint8_size : UInt8.size = 256 := rfl

/-- The bytes of a number of `k + 1` bytes start with a nonzero one. -/
theorem be_byteLen_eq_cons {n k : Nat} (h : byteLen n = k + 1) :
    ∃ b, b ≠ 0 ∧ Bytes.be (byteLen n) n = b :: Bytes.be k n := by
  have hlow := pow_le_of_byteLen_eq h
  have hsize := uint8_size
  have hhigh : n < 256 ^ (k + 1) := h ▸ lt_pow_byteLen n
  have hq : n / 256 ^ k < 256 := by
    rw [Nat.pow_succ] at hhigh
    exact Nat.div_lt_of_lt_mul hhigh
  have hq0 : 0 < n / 256 ^ k := Nat.div_pos hlow (Nat.pow_pos (by norm_num))
  refine ⟨UInt8.ofNat (n / 256 ^ k), ?_, by rw [h, Bytes.be_succ]⟩
  intro h0
  have := congrArg UInt8.toNat h0
  rw [UInt8.toNat_ofNat_of_lt' (by rw [hsize]; exact hq)] at this
  simp at this
  omega

/-- A short length is its own byte. -/
theorem lengthOctets_of_le {n : Nat} (h : n ≤ 0x7f) : lengthOctets n = [UInt8.ofNat n] := by
  rw [lengthOctets, if_pos h]

/-- **A long length is `0x80 + k` and the fewest bytes that hold it.** -/
theorem lengthOctets_of_lt {n : Nat} (h : 0x7f < n) :
    ∃ k, 0 < k ∧ lengthOctets n = (0x80 + UInt8.ofNat k) :: Bytes.be k n ∧ n < 256 ^ k ∧ 256 ^ (k - 1) ≤ n := by
  have hpos := byteLen_pos (show n ≠ 0 by omega)
  refine ⟨byteLen n, hpos, by rw [lengthOctets, if_neg (by omega)], lt_pow_byteLen n, ?_⟩
  exact pow_le_of_byteLen_eq (by omega)

theorem readLength_lengthOctets {n : Nat} (hk : byteLen n < 0x80) (rest : List UInt8) :
    readLength (lengthOctets n ++ rest) = some (n, rest) := by
  by_cases hshort : n ≤ 0x7f
  · have hbyte : (UInt8.ofNat n).toNat = n := UInt8.toNat_ofNat_of_lt' (by rw [uint8_size]; omega)
    have hlt : UInt8.ofNat n < 0x80 := by
      rw [UInt8.lt_iff_toNat_lt, hbyte]
      simp only [UInt8.reduceToNat]
      omega
    rw [lengthOctets_of_le hshort, List.singleton_append, readLength, if_pos hlt, hbyte]
  · -- the long form: the byte count, then bytes that start with a nonzero one
    have hpos := byteLen_pos (show n ≠ 0 by omega)
    obtain ⟨b, hb, hcons⟩ := be_byteLen_eq_cons (show byteLen n = byteLen n - 1 + 1 by omega)
    have hfirst : (0x80 + UInt8.ofNat (byteLen n)).toNat = 0x80 + byteLen n := by
      rw [UInt8.toNat_add, UInt8.toNat_ofNat_of_lt' (by rw [uint8_size]; omega)]
      simp only [UInt8.reduceToNat]
      omega
    have hvalue : Bytes.value (Bytes.be (byteLen n) n) = n := by
      rw [Bytes.value_be, Nat.mod_eq_of_lt (lt_pow_byteLen n)]
    have hlong : ¬(0x80 + UInt8.ofNat (byteLen n) < 0x80) := by
      rw [UInt8.lt_iff_toNat_lt, hfirst]
      simp
    have hminimal : ¬((Bytes.be (byteLen n) n).head? = some 0 ∨ Bytes.value (Bytes.be (byteLen n) n) ≤ 0x7f) := by
      rw [hvalue, hcons]
      simp [hb, hshort]
    rw [lengthOctets, if_neg hshort, List.cons_append, readLength, if_neg hlong, hfirst, Nat.add_sub_cancel_left,
      Bytes.takeExact_append (Bytes.length_be _ n), Option.bind_some]
    dsimp only
    rw [if_neg hminimal, hvalue]

/-- **What the writer makes, a DER reader takes back whole**: the tag and the
value, with what follows left. -/
theorem readTlv_tlv (tag : UInt8) {value : List UInt8} (hk : byteLen value.length < 0x80) (rest : List UInt8) :
    readTlv (tag :: (lengthOctets value.length ++ value ++ rest)) = some ((tag, value), rest) := by
  rw [readTlv, List.append_assoc, readLength_lengthOctets hk, Option.bind_some]
  dsimp only
  rw [Bytes.takeExact_append rfl, Option.map_some]

end Der
