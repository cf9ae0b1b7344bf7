import Rustls.Lib.Slice

/-!
`OutboundChunks` of `msgs/message/outbound.rs`: a payload borrowed from the
caller, either one slice or a list of slices with two cursors `start..end`
into their concatenation.  The fragmenter cuts payloads with `split_at`, and
the encrypter and `append_limited_copy` read them with `to_vec`.

The cursors are `usize`.  They are `UInt64` here, with the wrapping arithmetic
of a release build (a debug build panics where a sum wraps).  What a payload
stands for is `bytes`: the slice, or the window `start..end` of the slices laid
end to end.  `to_vec` returns exactly that, and `split_at(mid)` cuts it at
`mid`, for every payload that keeps the type's documented assumption
`start <= end` (with `end` within the slices and the bytes few enough for a
`Vec`: `WellFormed`), and every `mid` for which `start + mid` does not wrap.

When it does wrap, which takes a `mid` near `usize::MAX` and a `start` past
zero, the first half gets the cursors `start..start + mid - 2^64`, `end`
before `start`: its `len()` is `mid` itself, larger than the payload, and its
`to_vec` asks `Vec::with_capacity` for more than `isize::MAX` bytes and
panics.  `len_splitAt_fst_of_wraps` says this happens for every such `mid`.
-/

namespace Rustls

/-- `isize::MAX`: `Vec::with_capacity` panics when asked for more bytes. -/
def isizeMax : Nat := 2 ^ 63 - 1

/-- `OutboundChunks`. -/
inductive OutboundChunks where
  | single (chunk : List UInt8)
  | multiple (chunks : List (List UInt8)) (start end' : UInt64)
  deriving DecidableEq, Repr

namespace OutboundChunks

/-- `chunk.len()`, a `usize`. -/
def chunkLen (chunk : List UInt8) : UInt64 := UInt64.ofNat chunk.length

/-- `OutboundChunks::new`: the cursors cover every slice, their lengths
summed in `usize`. -/
def new (chunks : List (List UInt8)) : OutboundChunks :=
  match chunks with
  | [chunk] => single chunk
  | _ => multiple chunks 0 (chunks.map chunkLen).sum

/-- `OutboundChunks::new_empty`. -/
def newEmpty : OutboundChunks := single []

/-- `From<&[u8]>`. -/
def ofSlice (payload : List UInt8) : OutboundChunks := single payload

/-- `len`. -/
def len : OutboundChunks → UInt64
  | single chunk => chunkLen chunk
  | multiple _ start end' => end' - start

/-- `is_empty`. -/
def isEmpty (c : OutboundChunks) : Bool := c.len == 0

/-- The loop of `copy_to_vec` over `Multiple { chunks, start, end }`: `size`
counts the bytes of the slices already passed, and each slice that meets the
window gives the part of it inside. -/
def copyChunks (start end' : UInt64) : UInt64 → List (List UInt8) → List UInt8 → Option (List UInt8)
  | _, [], vec => some vec
  | size, chunk :: chunks, vec =>
    let psize := size
    let len := chunkLen chunk
    let size := size + len
    if size ≤ start ∨ end' ≤ psize then copyChunks start end' size chunks vec
    else
      let s := if psize < start then start - psize else 0
      let e := if end' - psize < len then end' - psize else len
      (chunk.getRange? s.toNat e.toNat).bind fun bytes => copyChunks start end' size chunks (vec ++ bytes)

/-- `copy_to_vec`: the payload appended to `vec`, or `none` where a slice
index panics. -/
def copyToVec (c : OutboundChunks) (vec : List UInt8) : Option (List UInt8) :=
  match c with
  | single chunk => some (vec ++ chunk)
  | multiple chunks start end' => copyChunks start end' 0 chunks vec

/-- `to_vec`: `Vec::with_capacity(self.len())`, which panics past
`isize::MAX` bytes, then `copy_to_vec`. -/
def toVec (c : OutboundChunks) : Option (List UInt8) :=
  if isizeMax < c.len.toNat then none else c.copyToVec []

/-- `split_at`. -/
def splitAt (c : OutboundChunks) (mid : UInt64) : OutboundChunks × OutboundChunks :=
  match c with
  | single chunk =>
    let mid := min mid (chunkLen chunk)
    (single (chunk.take mid.toNat), single (chunk.drop mid.toNat))
  | multiple chunks start end' =>
    let mid := min (start + mid) end'
    (multiple chunks start mid, multiple chunks mid end')

/-! ### What a payload stands for -/

/-- The bytes a payload stands for: its slice, or the window `start..end` of
its slices laid end to end. -/
def bytes : OutboundChunks → List UInt8
  | single chunk => chunk
  | multiple chunks start end' => chunks.flatten.extract start.toNat end'.toNat

/-- What `OutboundChunks` assumes of itself: `start <= end`, as its
documentation says, with `end` within the slices, and no more bytes than a
`Vec` holds. -/
def WellFormed : OutboundChunks → Prop
  | single chunk => chunk.length ≤ isizeMax
  | multiple chunks start end' =>
    start ≤ end' ∧ end'.toNat ≤ chunks.flatten.length ∧ chunks.flatten.length ≤ isizeMax

instance : DecidablePred WellFormed := fun c =>
  match c with
  | single chunk => inferInstanceAs (Decidable (chunk.length ≤ isizeMax))
  | multiple chunks start end' =>
    inferInstanceAs (Decidable (start ≤ end' ∧ end'.toNat ≤ chunks.flatten.length ∧
      chunks.flatten.length ≤ isizeMax))

/-- Whether `split_at(mid)` computes `start + mid` past `usize::MAX`. -/
def SplitWraps : OutboundChunks → UInt64 → Prop
  | single _, _ => False
  | multiple _ start _, mid => 2 ^ 64 ≤ start.toNat + mid.toNat

instance (c : OutboundChunks) (mid : UInt64) : Decidable (c.SplitWraps mid) :=
  match c with
  | single _ => inferInstanceAs (Decidable False)
  | multiple _ start _ => inferInstanceAs (Decidable (2 ^ 64 ≤ start.toNat + mid.toNat))

/-! ### Lengths in `usize` -/

theorem isizeMax_lt_size : isizeMax < 2 ^ 64 := by
  rw [isizeMax]
  omega

theorem toNat_chunkLen {chunk : List UInt8} (h : chunk.length < 2 ^ 64) :
    (chunkLen chunk).toNat = chunk.length :=
  UInt64.toNat_ofNat_of_lt' h

/-- The `usize` sum of the slices' lengths is their total length, modulo
`2^64`. -/
theorem toNat_sum_chunkLen (chunks : List (List UInt8)) :
    ((chunks.map chunkLen).sum).toNat = chunks.flatten.length % 2 ^ 64 := by
  induction chunks with
  | nil => rfl
  | cons chunk chunks ih =>
    rw [List.map_cons, List.sum_cons, UInt64.toNat_add, ih, chunkLen, UInt64.toNat_ofNat',
      List.flatten_cons, List.length_append, ← Nat.add_mod]

theorem len_single (chunk : List UInt8) (h : chunk.length < 2 ^ 64) :
    (single chunk).len.toNat = chunk.length := by
  rw [len, toNat_chunkLen h]

theorem len_multiple {chunks : List (List UInt8)} {start end' : UInt64} (h : start ≤ end') :
    (multiple chunks start end').len.toNat = end'.toNat - start.toNat := by
  rw [len, UInt64.toNat_sub_of_le _ _ h]

/-- A well-formed payload's `len()` counts its bytes. -/
theorem len_eq {c : OutboundChunks} (hc : c.WellFormed) : c.len.toNat = c.bytes.length := by
  cases c with
  | single chunk =>
    rw [len_single chunk (Nat.lt_of_le_of_lt hc isizeMax_lt_size), bytes]
  | multiple chunks start end' =>
    obtain ⟨hse, hend, -⟩ := hc
    rw [len_multiple hse, bytes, List.length_extract, Nat.min_eq_left hend]

theorem len_le {c : OutboundChunks} (hc : c.WellFormed) : c.len.toNat ≤ isizeMax := by
  cases c with
  | single chunk =>
    rw [len_single chunk (Nat.lt_of_le_of_lt hc isizeMax_lt_size)]
    exact hc
  | multiple chunks start end' =>
    obtain ⟨hse, hend, htotal⟩ := hc
    rw [len_multiple hse]
    omega

/-- A well-formed payload is empty when it stands for no bytes. -/
theorem isEmpty_iff {p : OutboundChunks} (hp : p.WellFormed) : p.isEmpty = true ↔ p.bytes = [] := by
  rw [isEmpty, beq_iff_eq, ← UInt64.toNat_inj, len_eq hp, UInt64.toNat_zero, List.length_eq_zero_iff]

/-- A well-formed payload's `start + mid` cannot wrap for a `mid` within
`isize::MAX`. -/
theorem not_splitWraps {p : OutboundChunks} (hp : p.WellFormed) {mid : UInt64}
    (hmid : mid.toNat ≤ isizeMax) : ¬ p.SplitWraps mid := by
  cases p with
  | single chunk => exact not_false
  | multiple chunks start end' =>
    obtain ⟨hse, hend, htotal⟩ := hp
    have hse' := UInt64.le_iff_toNat_le.mp hse
    rw [SplitWraps, isizeMax] at *
    omega

/-! ### `copy_to_vec` -/

/-- One slice of the loop of `copy_to_vec`: it appends the part of the slice
inside the window, which is empty when the loop skips the slice. -/
theorem copyChunks_cons {start end' size : UInt64} (chunk : List UInt8) (chunks : List (List UInt8))
    (vec : List UInt8) (hse : start ≤ end') (hsize : size.toNat + chunk.length < 2 ^ 64) :
    copyChunks start end' size (chunk :: chunks) vec =
      copyChunks start end' (size + chunkLen chunk) chunks
        (vec ++ chunk.extract (start.toNat - size.toNat) (end'.toNat - size.toNat)) := by
  have hlen : (chunkLen chunk).toNat = chunk.length := toNat_chunkLen (by omega)
  have hnext : (size + chunkLen chunk).toNat = size.toNat + chunk.length := by
    rw [UInt64.toNat_add, hlen, Nat.mod_eq_of_lt hsize]
  have hse' : start.toNat ≤ end'.toNat := UInt64.le_iff_toNat_le.mp hse
  rw [copyChunks]
  by_cases hskip : size + chunkLen chunk ≤ start ∨ end' ≤ size
  · -- the slice lies before or after the window
    rw [if_pos hskip]
    have hempty : chunk.extract (start.toNat - size.toNat) (end'.toNat - size.toNat) = [] := by
      rcases hskip with hbefore | hafter
      · rw [UInt64.le_iff_toNat_le, hnext] at hbefore
        apply List.eq_nil_of_length_eq_zero
        rw [List.length_extract]
        omega
      · rw [UInt64.le_iff_toNat_le] at hafter
        exact List.extract_eq_nil_of_le _ (by omega)
    rw [hempty, List.append_nil]
  · -- the slice meets the window: the cursors are made relative to it
    rw [if_neg hskip]
    dsimp only
    rw [not_or, UInt64.not_le, UInt64.not_le, UInt64.lt_iff_toNat_lt, UInt64.lt_iff_toNat_lt,
      hnext] at hskip
    obtain ⟨hstart, hend⟩ := hskip
    have hs : (if size < start then start - size else 0).toNat = start.toNat - size.toNat := by
      by_cases hlt : size < start
      · rw [if_pos hlt, UInt64.toNat_sub_of_le _ _ (UInt64.le_of_lt hlt)]
      · rw [if_neg hlt, UInt64.not_lt, UInt64.le_iff_toNat_le] at *
        rw [UInt64.toNat_zero]
        omega
    have he : (if end' - size < chunkLen chunk then end' - size else chunkLen chunk).toNat =
        min (end'.toNat - size.toNat) chunk.length := by
      have hsub : (end' - size).toNat = end'.toNat - size.toNat :=
        UInt64.toNat_sub_of_le _ _ (UInt64.le_iff_toNat_le.mpr (by omega))
      by_cases hlt : end' - size < chunkLen chunk
      · rw [if_pos hlt, hsub]
        rw [UInt64.lt_iff_toNat_lt, hsub, hlen] at hlt
        omega
      · rw [if_neg hlt, hlen]
        rw [UInt64.not_lt, UInt64.le_iff_toNat_le, hsub, hlen] at hlt
        omega
    rw [hs, he, List.getRange?_eq_some (by omega) (Nat.min_le_right _ _), Option.bind_some,
      List.extract_min_length]

/-- The loop of `copy_to_vec` appends the window's bytes, counted from the
slices it has not passed yet. -/
theorem copyChunks_eq {start end' : UInt64} (hse : start ≤ end') :
    ∀ (chunks : List (List UInt8)) (size : UInt64) (vec : List UInt8),
      size.toNat + chunks.flatten.length < 2 ^ 64 →
      copyChunks start end' size chunks vec =
        some (vec ++ chunks.flatten.extract (start.toNat - size.toNat) (end'.toNat - size.toNat)) := by
  intro chunks
  induction chunks with
  | nil =>
    intro size vec _
    rw [copyChunks, List.flatten_nil, List.extract_eq_take_drop, List.drop_nil, List.take_nil,
      List.append_nil]
  | cons chunk chunks ih =>
    intro size vec hsize
    rw [List.flatten_cons, List.length_append] at hsize
    have hnext : (size + chunkLen chunk).toNat = size.toNat + chunk.length := by
      rw [UInt64.toNat_add, toNat_chunkLen (by omega), Nat.mod_eq_of_lt (by omega)]
    rw [copyChunks_cons chunk chunks vec hse (by omega), ih _ _ (by rw [hnext]; omega), hnext,
      List.flatten_cons, List.extract_append, List.append_assoc, Nat.sub_add_eq, Nat.sub_add_eq]

/-- `to_vec` of a well-formed payload is its bytes. -/
theorem toVec_eq {c : OutboundChunks} (hc : c.WellFormed) : c.toVec = some c.bytes := by
  rw [toVec, if_neg (Nat.not_lt.mpr (len_le hc))]
  cases c with
  | single chunk => rw [copyToVec, List.nil_append, bytes]
  | multiple chunks start end' =>
    obtain ⟨hse, -, htotal⟩ := hc
    have hfits : (0 : UInt64).toNat + chunks.flatten.length < 2 ^ 64 := by
      rw [UInt64.toNat_zero, Nat.zero_add]
      exact Nat.lt_of_le_of_lt htotal isizeMax_lt_size
    rw [copyToVec, copyChunks_eq hse chunks 0 [] hfits, List.nil_append, UInt64.toNat_zero,
      Nat.sub_zero, Nat.sub_zero, bytes]

/-! ### Building payloads -/

theorem wellFormed_new {chunks : List (List UInt8)} (h : chunks.flatten.length ≤ isizeMax) :
    (new chunks).WellFormed := by
  have hsum : ((chunks.map chunkLen).sum).toNat = chunks.flatten.length := by
    rw [toNat_sum_chunkLen, Nat.mod_eq_of_lt (Nat.lt_of_le_of_lt h isizeMax_lt_size)]
  match chunks, h, hsum with
  | [chunk], h, _ => simpa [new, WellFormed] using h
  | [], _, _ => exact ⟨UInt64.le_iff_toNat_le.mpr (Nat.zero_le _), by simp, by simp⟩
  | a :: b :: t, h, hsum =>
    have hnew : new (a :: b :: t) = multiple (a :: b :: t) 0 ((a :: b :: t).map chunkLen).sum := rfl
    rw [hnew]
    exact ⟨UInt64.le_iff_toNat_le.mpr (Nat.zero_le _), hsum.le, h⟩

theorem bytes_new (chunks : List (List UInt8)) (h : chunks.flatten.length ≤ isizeMax) :
    (new chunks).bytes = chunks.flatten := by
  have hsum : ((chunks.map chunkLen).sum).toNat = chunks.flatten.length := by
    rw [toNat_sum_chunkLen, Nat.mod_eq_of_lt (Nat.lt_of_le_of_lt h isizeMax_lt_size)]
  match chunks, hsum with
  | [chunk], _ => simp [new, bytes]
  | [], _ => rfl
  | a :: b :: t, hsum =>
    have hnew : new (a :: b :: t) = multiple (a :: b :: t) 0 ((a :: b :: t).map chunkLen).sum := rfl
    rw [hnew, bytes, hsum, UInt64.toNat_zero, List.extract_eq_take_drop, List.drop_zero,
      Nat.sub_zero, List.take_length]

/-! ### `split_at` -/

section Split

variable {c : OutboundChunks} {mid : UInt64}

/-- Where `start + mid` does not wrap, the split point of a well-formed
payload is `min(mid, len)` bytes in. -/
theorem toNat_split {chunks : List (List UInt8)} {start end' : UInt64} (hse : start ≤ end')
    (hmid : ¬ (multiple chunks start end').SplitWraps mid) :
    (min (start + mid) end').toNat = start.toNat + min mid.toNat (end'.toNat - start.toNat) := by
  rw [SplitWraps, Nat.not_le] at hmid
  have hse' := UInt64.le_iff_toNat_le.mp hse
  rw [UInt64.toNat_min, UInt64.toNat_add, Nat.mod_eq_of_lt hmid]
  omega

theorem len_splitAt_fst (hc : c.WellFormed) (hmid : ¬ c.SplitWraps mid) :
    (c.splitAt mid).1.len = min mid c.len := by
  cases c with
  | single chunk =>
    have hfits : chunk.length < 2 ^ 64 := Nat.lt_of_le_of_lt hc isizeMax_lt_size
    have htake : (chunk.take (min mid (chunkLen chunk)).toNat).length < 2 ^ 64 :=
      Nat.lt_of_le_of_lt (List.length_take_le' _ _) hfits
    apply UInt64.toNat_inj.mp
    rw [splitAt, len, len, toNat_chunkLen htake, List.length_take, UInt64.toNat_min,
      toNat_chunkLen hfits, Nat.min_eq_left (Nat.min_le_right _ _)]
  | multiple chunks start end' =>
    obtain ⟨hse, -, -⟩ := hc
    have hsplit := toNat_split hse hmid
    have hse' := UInt64.le_iff_toNat_le.mp hse
    apply UInt64.toNat_inj.mp
    rw [splitAt, len, len, UInt64.toNat_sub_of_le _ _ (UInt64.le_iff_toNat_le.mpr (by omega)), hsplit,
      UInt64.toNat_min, UInt64.toNat_sub_of_le _ _ hse]
    omega

theorem wellFormed_splitAt_fst (hc : c.WellFormed) (hmid : ¬ c.SplitWraps mid) :
    (c.splitAt mid).1.WellFormed := by
  cases c with
  | single chunk => exact Nat.le_trans (List.length_take_le' _ _) hc
  | multiple chunks start end' =>
    obtain ⟨hse, hend, htotal⟩ := hc
    have hsplit := toNat_split hse hmid
    have hse' := UInt64.le_iff_toNat_le.mp hse
    refine ⟨UInt64.le_iff_toNat_le.mpr ?_, ?_, htotal⟩
    · rw [hsplit]
      omega
    · rw [hsplit]
      omega

theorem wellFormed_splitAt_snd (hc : c.WellFormed) (hmid : ¬ c.SplitWraps mid) :
    (c.splitAt mid).2.WellFormed := by
  cases c with
  | single chunk =>
    show (chunk.drop _).length ≤ isizeMax
    rw [List.length_drop]
    exact Nat.le_trans (Nat.sub_le _ _) hc
  | multiple chunks start end' =>
    obtain ⟨hse, hend, htotal⟩ := hc
    have hsplit := toNat_split hse hmid
    have hse' := UInt64.le_iff_toNat_le.mp hse
    refine ⟨UInt64.le_iff_toNat_le.mpr ?_, hend, htotal⟩
    rw [hsplit]
    omega

/-- The first half of a split stands for the first `mid` bytes. -/
theorem bytes_splitAt_fst (hc : c.WellFormed) (hmid : ¬ c.SplitWraps mid) :
    (c.splitAt mid).1.bytes = c.bytes.take mid.toNat := by
  cases c with
  | single chunk =>
    have hfits : chunk.length < 2 ^ 64 := Nat.lt_of_le_of_lt hc isizeMax_lt_size
    rw [splitAt, bytes, bytes, UInt64.toNat_min, toNat_chunkLen hfits, ← List.take_eq_take_min]
  | multiple chunks start end' =>
    obtain ⟨hse, -, -⟩ := hc
    have hsplit := toNat_split hse hmid
    have hse' := UInt64.le_iff_toNat_le.mp hse
    rw [splitAt, bytes, bytes, hsplit, List.take_extract]
    congr 1
    omega

/-- The second half of a split stands for the bytes past the first `mid`. -/
theorem bytes_splitAt_snd (hc : c.WellFormed) (hmid : ¬ c.SplitWraps mid) :
    (c.splitAt mid).2.bytes = c.bytes.drop mid.toNat := by
  cases c with
  | single chunk =>
    have hfits : chunk.length < 2 ^ 64 := Nat.lt_of_le_of_lt hc isizeMax_lt_size
    rw [splitAt, bytes, bytes, UInt64.toNat_min, toNat_chunkLen hfits]
    by_cases hle : mid.toNat ≤ chunk.length
    · rw [Nat.min_eq_left hle]
    · rw [Nat.min_eq_right (by omega), List.drop_length, List.drop_eq_nil_of_le (by omega)]
  | multiple chunks start end' =>
    obtain ⟨hse, -, -⟩ := hc
    have hsplit := toNat_split hse hmid
    have hse' := UInt64.le_iff_toNat_le.mp hse
    rw [splitAt, bytes, bytes, hsplit, List.drop_extract]
    congr 1
    omega

/-- `split_at` of a well-formed payload, where `start + mid` does not wrap:
the first half has `min(mid, len)` bytes, the halves' lengths add up, and
their `to_vec` cut the payload's at that point. -/
theorem splitAt_of_not_wraps (hc : c.WellFormed) (hmid : ¬ c.SplitWraps mid) :
    (c.splitAt mid).1.len = min mid c.len ∧
    (c.splitAt mid).1.len.toNat + (c.splitAt mid).2.len.toNat = c.len.toNat ∧
    ∃ v, c.toVec = some v ∧ (c.splitAt mid).1.toVec = some (v.take (c.splitAt mid).1.len.toNat) ∧
      (c.splitAt mid).2.toVec = some (v.drop (c.splitAt mid).1.len.toNat) := by
  have hfst := wellFormed_splitAt_fst hc hmid
  have hsnd := wellFormed_splitAt_snd hc hmid
  have hcut : (c.splitAt mid).1.len.toNat = min mid.toNat c.bytes.length := by
    rw [len_splitAt_fst hc hmid, UInt64.toNat_min, len_eq hc]
  refine ⟨len_splitAt_fst hc hmid, ?_, c.bytes, toVec_eq hc, ?_, ?_⟩
  · rw [len_eq hfst, len_eq hsnd, len_eq hc, bytes_splitAt_fst hc hmid, bytes_splitAt_snd hc hmid,
      ← List.length_append, List.take_append_drop]
  · rw [toVec_eq hfst, bytes_splitAt_fst hc hmid, hcut, ← List.take_eq_take_min]
  · rw [toVec_eq hsnd, bytes_splitAt_snd hc hmid, hcut]
    by_cases hle : mid.toNat ≤ c.bytes.length
    · rw [Nat.min_eq_left hle]
    · rw [Nat.min_eq_right (by omega), List.drop_length, List.drop_eq_nil_of_le (by omega)]

theorem splitAt_of_not_wraps_two_slices :
    (new [[1, 2], [3]]).WellFormed ∧ ¬ (new [[1, 2], [3]]).SplitWraps 2 ∧
    ((new [[1, 2], [3]]).splitAt 2).1.len = min 2 (new [[1, 2], [3]]).len ∧
    ((new [[1, 2], [3]]).splitAt 2).1.len.toNat + ((new [[1, 2], [3]]).splitAt 2).2.len.toNat =
      (new [[1, 2], [3]]).len.toNat ∧
    ∃ v, (new [[1, 2], [3]]).toVec = some v ∧
      ((new [[1, 2], [3]]).splitAt 2).1.toVec =
        some (v.take ((new [[1, 2], [3]]).splitAt 2).1.len.toNat) ∧
      ((new [[1, 2], [3]]).splitAt 2).2.toVec =
        some (v.drop ((new [[1, 2], [3]]).splitAt 2).1.len.toNat) :=
  ⟨by decide, by decide, splitAt_of_not_wraps (by decide) (by decide)⟩

/-- Where `start + mid` wraps, the first half's `len()` is `mid` itself, more
than the payload has. -/
theorem len_splitAt_fst_of_wraps (hc : c.WellFormed) (hmid : c.SplitWraps mid) :
    (c.splitAt mid).1.len = mid ∧ c.len < mid := by
  cases c with
  | single chunk => exact hmid.elim
  | multiple chunks start end' =>
    obtain ⟨hse, -, -⟩ := hc
    rw [SplitWraps] at hmid
    have hse' := UInt64.le_iff_toNat_le.mp hse
    have hlt := UInt64.toNat_lt start
    have hlt' := UInt64.toNat_lt mid
    have hwrap : (start + mid).toNat = start.toNat + mid.toNat - 2 ^ 64 := by
      rw [UInt64.toNat_add, Nat.mod_eq_sub_mod hmid, Nat.mod_eq_of_lt (by omega)]
    have hlen : end'.toNat - start.toNat < mid.toNat := by
      have := UInt64.toNat_lt end'
      omega
    refine ⟨?_, ?_⟩
    · -- the cursors are `start..start + mid - 2^64`, and `len()` wraps back to `mid`
      apply UInt64.toNat_inj.mp
      rw [splitAt]
      dsimp only
      rw [len, UInt64.toNat_sub, UInt64.toNat_min, hwrap]
      omega
    · rw [UInt64.lt_iff_toNat_lt, len_multiple hse]
      exact hlen

/-- Two one-byte slices, cut after the first byte, leave `Multiple` with
cursors `1..2`.  Cut again at `usize::MAX`, `start + mid` wraps to 0: the first
half has cursors `1..0`, its `len()` is `usize::MAX` where it should be 1, and
its `to_vec` panics; the second half has cursors `0..2`, two bytes where none
should be left. -/
theorem splitAt_wraps_at_usize_max :
    ((new [[1], [2]]).splitAt 1).2 = multiple [[1], [2]] 1 2 ∧
    (multiple [[1], [2]] 1 2).splitAt (-1) = (multiple [[1], [2]] 1 0, multiple [[1], [2]] 0 2) ∧
    (multiple [[1], [2]] 1 0).len ≠ min (-1) (multiple [[1], [2]] 1 2).len ∧
    (multiple [[1], [2]] 1 0).toVec = none ∧ (multiple [[1], [2]] 0 2).toVec = some [1, 2] := by
  decide

end Split

end OutboundChunks

end Rustls
