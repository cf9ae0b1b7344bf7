import Rustls.Msgs.Outbound
import Rustls.CommonState.WritePlaintext

/-!
`Chunker` of `msgs/fragmenter.rs`: the iterator `fragment_payload` returns,
over the `OutboundChunks` payload it is given.

The send path of `CommonState.Send` cuts a payload's bytes with
`MessageFragmenter.chunks`.  Here the iterator works on the borrowed payload:
each `next` answers `None` once `is_empty()`, and otherwise yields
`split_at(limit).0` and keeps the rest; `ExactSizeIterator::len` is
`(len() + limit - 1) / limit` in `usize`.

For a well-formed payload (`OutboundChunks.WellFormed`) every `next` takes the
first `limit` bytes of what is left, because `split_at(limit)` cannot wrap
there.  The pieces then stand for exactly what `chunks` cuts from the bytes
(`map_bytes_collect`): the `i`-th is the `limit` bytes from `i * limit` on
(`chunks_eq_map_range`), so all are full but the last, and none is empty.
`len()` is the number of pieces still to come at every state the iteration
passes through, because each state's payload is again well formed and holds
the bytes not yet yielded (`iterate_payload`).

A payload narrowed by a `split_at` that wrapped has `end` before `start`:
`len()` then counts from `usize::MAX`, and the iterator and its `len()` no
longer agree (`chunker_len_zero_for_wrapped_payload`).
-/

namespace Rustls

namespace MessageFragmenter

/-- A non-empty payload is one more piece than what is left after the first. -/
theorem pieces_eq_succ {limit n : Nat} (hpos : 0 < limit) (hn : 0 < n) :
    (n + limit - 1) / limit = (n - limit + limit - 1) / limit + 1 := by
  by_cases hle : n ≤ limit
  · have hzero : n - limit = 0 := by omega
    have hrest : (limit - 1) / limit = 0 := Nat.div_eq_of_lt (by omega)
    have hone : (n + limit - 1) / limit = 1 := Nat.div_eq_of_lt_le (by omega) (by omega)
    rw [hzero, Nat.zero_add, hrest, hone]
  · have hsplit : n + limit - 1 = (n - limit + limit - 1) + limit := by omega
    rw [hsplit, Nat.add_div_right _ hpos]

/-- Given the fuel to run to its end, `Chunker` cuts the `limit` bytes from
`i * limit` on as its `i`-th piece, for each of the `⌈n / limit⌉` pieces. -/
theorem chunks_eq_map_range {limit : Nat} (hpos : 0 < limit) :
    ∀ (fuel : Nat) (payload : List UInt8), payload.length ≤ fuel →
      chunks limit fuel payload =
        (List.range ((payload.length + limit - 1) / limit)).map
          fun i => (payload.drop (i * limit)).take limit := by
  intro fuel
  induction fuel with
  | zero =>
    intro payload h
    have hnil : payload.length = 0 := by omega
    rw [chunks, hnil, Nat.zero_add, Nat.div_eq_of_lt (by omega), List.range_zero, List.map_nil]
  | succ fuel ih =>
    intro payload h
    by_cases hempty : payload.isEmpty
    · have hnil : payload.length = 0 := by
        rw [List.isEmpty_iff] at hempty
        rw [hempty, List.length_nil]
      rw [chunks, if_pos hempty, hnil, Nat.zero_add, Nat.div_eq_of_lt (by omega), List.range_zero,
        List.map_nil]
    · have hlen : 0 < payload.length := by
        rw [List.isEmpty_iff] at hempty
        exact List.length_pos_of_ne_nil hempty
      -- the first piece is the one at 0; the others are those of the rest, moved by one
      rw [chunks, if_neg hempty, ih _ (by rw [List.length_drop]; omega), List.length_drop,
        pieces_eq_succ hpos hlen, List.range_succ_eq_map, List.map_cons, List.map_map, Nat.zero_mul,
        List.drop_zero]
      congr 1
      apply List.map_congr_left
      intro i _
      rw [Function.comp_apply, List.drop_drop, Nat.succ_mul, Nat.add_comm (i * limit)]

/-- The pieces, laid end to end, are the payload. -/
theorem flatten_chunks {limit : Nat} (hpos : 0 < limit) :
    ∀ (fuel : Nat) (payload : List UInt8), payload.length ≤ fuel →
      (chunks limit fuel payload).flatten = payload := by
  intro fuel
  induction fuel with
  | zero =>
    intro payload h
    have hnil : payload = [] := List.eq_nil_of_length_eq_zero (by omega)
    rw [chunks, List.flatten_nil, hnil]
  | succ fuel ih =>
    intro payload h
    by_cases hempty : payload.isEmpty
    · rw [chunks, if_pos hempty, List.flatten_nil, List.isEmpty_iff.mp hempty]
    · rw [chunks, if_neg hempty, List.flatten_cons, ih _ (by rw [List.length_drop]; omega),
        List.take_append_drop]

/-- Each piece holds from one to `limit` bytes, and all but the last exactly
`limit`. -/
theorem length_getElem_chunks {limit fuel : Nat} (hpos : 0 < limit) {payload : List UInt8}
    (hfuel : payload.length ≤ fuel) (i : Nat) (hi : i < (chunks limit fuel payload).length) :
    0 < (chunks limit fuel payload)[i].length ∧ (chunks limit fuel payload)[i].length ≤ limit ∧
      (i + 1 < (chunks limit fuel payload).length → (chunks limit fuel payload)[i].length = limit) := by
  have hcount := length_chunks hpos fuel payload hfuel
  have hpiece : (chunks limit fuel payload)[i] = (payload.drop (i * limit)).take limit := by
    simp only [chunks_eq_map_range hpos fuel payload hfuel, List.getElem_map, List.getElem_range]
  rw [hcount] at hi
  -- piece `i` starts before the end, and piece `i + 1` too when there is one
  have hstart : i * limit < payload.length := by
    have h2 := (Nat.le_div_iff_mul_le hpos).mp (Nat.succ_le_of_lt hi)
    rw [Nat.succ_mul] at h2
    omega
  rw [hpiece, List.length_take, List.length_drop, hcount]
  refine ⟨by omega, Nat.min_le_left _ _, fun hnext => ?_⟩
  have h2 := (Nat.le_div_iff_mul_le hpos).mp (Nat.succ_le_of_lt hnext)
  rw [Nat.succ_mul, Nat.succ_mul] at h2
  apply Nat.min_eq_left
  omega

end MessageFragmenter

/-- `Chunker`. -/
structure Chunker where
  payload : OutboundChunks
  limit : UInt64

namespace Chunker

/-- `Iterator::next`: the piece it yields, if any, and the iterator after. -/
def next (c : Chunker) : Option OutboundChunks × Chunker :=
  if c.payload.isEmpty then (none, c)
  else
    let (before, after) := c.payload.splitAt c.limit
    (some before, { c with payload := after })

/-- `ExactSizeIterator::len`. -/
def len (c : Chunker) : UInt64 := (c.payload.len + c.limit - 1) / c.limit

/-- The pieces a consumer takes, calling `next` until it answers `None`, at
most `fuel` times. -/
def collect : Nat → Chunker → List OutboundChunks
  | 0, _ => []
  | fuel + 1, c =>
    match c.next with
    | (some piece, c') => piece :: collect fuel c'
    | (none, _) => []

/-- The iterator after `k` calls of `next`. -/
def iterate : Nat → Chunker → Chunker
  | 0, c => c
  | k + 1, c => iterate k c.next.2

/-- What the iterator needs of its state: a well-formed payload, and a limit
that is not zero and within `isize::MAX`, so that `split_at(limit)` cannot
wrap. -/
structure Valid (c : Chunker) : Prop where
  wellFormed : c.payload.WellFormed
  limit_pos : 0 < c.limit.toNat
  limit_le : c.limit.toNat ≤ isizeMax

section

variable {c : Chunker}

theorem next_of_bytes_eq_nil (hc : c.Valid) (h : c.payload.bytes = []) : c.next = (none, c) := by
  rw [next, if_pos ((OutboundChunks.isEmpty_iff hc.wellFormed).mpr h)]

theorem next_of_bytes_ne_nil (hc : c.Valid) (h : c.payload.bytes ≠ []) :
    c.next = (some (c.payload.splitAt c.limit).1, { c with payload := (c.payload.splitAt c.limit).2 }) := by
  have hne : ¬ c.payload.isEmpty = true := fun he => h ((OutboundChunks.isEmpty_iff hc.wellFormed).mp he)
  rw [next, if_neg hne]

/-- `next` keeps the iterator valid, and leaves it the bytes past its piece. -/
theorem next_snd (hc : c.Valid) :
    c.next.2.Valid ∧ c.next.2.payload.bytes = c.payload.bytes.drop c.limit.toNat ∧
      c.next.2.limit = c.limit := by
  have hwraps := OutboundChunks.not_splitWraps hc.wellFormed hc.limit_le
  by_cases h : c.payload.bytes = []
  · rw [next_of_bytes_eq_nil hc h, h, List.drop_nil]
    exact ⟨hc, rfl, rfl⟩
  · rw [next_of_bytes_ne_nil hc h]
    exact ⟨⟨OutboundChunks.wellFormed_splitAt_snd hc.wellFormed hwraps, hc.limit_pos, hc.limit_le⟩,
      OutboundChunks.bytes_splitAt_snd hc.wellFormed hwraps, rfl⟩

/-- `len()` of a valid iterator, in `Nat`. -/
theorem toNat_len (hc : c.Valid) :
    c.len.toNat = (c.payload.bytes.length + c.limit.toNat - 1) / c.limit.toNat := by
  have hlen := OutboundChunks.len_le hc.wellFormed
  have hpos := hc.limit_pos
  have hle := hc.limit_le
  rw [isizeMax] at hlen hle
  have hsum : (c.payload.len + c.limit).toNat = c.payload.len.toNat + c.limit.toNat := by
    rw [UInt64.toNat_add, Nat.mod_eq_of_lt (by omega)]
  have hone : (1 : UInt64) ≤ c.payload.len + c.limit := by
    rw [UInt64.le_iff_toNat_le, hsum]
    exact Nat.le_trans hpos (Nat.le_add_left _ _)
  rw [len, UInt64.toNat_div, UInt64.toNat_sub_of_le _ _ hone, hsum, OutboundChunks.len_eq hc.wellFormed]
  rfl

end

/-- The pieces a valid iterator yields stand for what `chunks` cuts from its
bytes, with the same fuel. -/
theorem map_bytes_collect : ∀ (fuel : Nat) (c : Chunker), c.Valid →
    (c.collect fuel).map OutboundChunks.bytes = MessageFragmenter.chunks c.limit.toNat fuel c.payload.bytes := by
  intro fuel
  induction fuel with
  | zero => intro c _; rfl
  | succ fuel ih =>
    intro c hc
    have hwraps := OutboundChunks.not_splitWraps hc.wellFormed hc.limit_le
    by_cases h : c.payload.bytes = []
    · rw [collect, next_of_bytes_eq_nil hc h, MessageFragmenter.chunks, h]
      rfl
    · have hnext := next_snd hc
      rw [next_of_bytes_ne_nil hc h] at hnext
      rw [collect, next_of_bytes_ne_nil hc h, MessageFragmenter.chunks,
        if_neg (fun he => h (List.isEmpty_iff.mp he)), List.map_cons, ih _ hnext.1, hnext.2.1,
        OutboundChunks.bytes_splitAt_fst hc.wellFormed hwraps]

/-- Every piece a valid iterator yields is well formed. -/
theorem wellFormed_of_mem_collect : ∀ (fuel : Nat) (c : Chunker), c.Valid →
    ∀ piece ∈ c.collect fuel, piece.WellFormed := by
  intro fuel
  induction fuel with
  | zero => intro c _ piece hmem; cases hmem
  | succ fuel ih =>
    intro c hc piece hmem
    have hwraps := OutboundChunks.not_splitWraps hc.wellFormed hc.limit_le
    by_cases h : c.payload.bytes = []
    · rw [collect, next_of_bytes_eq_nil hc h] at hmem
      cases hmem
    · have hnext := next_snd hc
      rw [next_of_bytes_ne_nil hc h] at hnext
      rw [collect, next_of_bytes_ne_nil hc h] at hmem
      rcases List.mem_cons.mp hmem with rfl | hrest
      · exact OutboundChunks.wellFormed_splitAt_fst hc.wellFormed hwraps
      · exact ih _ hnext.1 piece hrest

/-- After `k` calls of `next`, a valid iterator is still valid and holds the
bytes past the first `k` pieces. -/
theorem iterate_payload : ∀ (k : Nat) (c : Chunker), c.Valid →
    (c.iterate k).Valid ∧ (c.iterate k).payload.bytes = c.payload.bytes.drop (k * c.limit.toNat) ∧
      (c.iterate k).limit = c.limit := by
  intro k
  induction k with
  | zero => intro c hc; exact ⟨hc, by rw [iterate, Nat.zero_mul, List.drop_zero], rfl⟩
  | succ k ih =>
    intro c hc
    obtain ⟨hvalid, hbytes, hlimit⟩ := next_snd hc
    obtain ⟨hvalid', hbytes', hlimit'⟩ := ih _ hvalid
    refine ⟨hvalid', ?_, hlimit'.trans hlimit⟩
    rw [iterate, hbytes', hbytes, hlimit, List.drop_drop, Nat.succ_mul, Nat.add_comm]

/-- At every state of the iteration, `len()` is the number of pieces still to
come. -/
theorem len_iterate {c : Chunker} (hc : c.Valid) {fuel : Nat} (hfuel : c.payload.bytes.length ≤ fuel)
    (k : Nat) : (c.iterate k).len.toNat = ((c.iterate k).collect fuel).length := by
  obtain ⟨hvalid, hbytes, -⟩ := iterate_payload k c hc
  have hrest : (c.iterate k).payload.bytes.length ≤ fuel := by
    rw [hbytes, List.length_drop]
    omega
  have hmap : (((c.iterate k).collect fuel).map OutboundChunks.bytes).length =
      ((c.iterate k).collect fuel).length := List.length_map ..
  rw [toNat_len hvalid, ← hmap, map_bytes_collect fuel _ hvalid,
    MessageFragmenter.length_chunks hvalid.limit_pos fuel _ hrest]

end Chunker

/-- `OutboundPlainMessage<'a>` as `fragment_payload` yields it, its payload
the borrowed `OutboundChunks`. -/
structure OutboundChunksMessage where
  typ : ContentType
  version : ProtocolVersion
  payload : OutboundChunks
  deriving DecidableEq, Repr

namespace MessageFragmenter

/-- The iterator `fragment_payload` builds. -/
def chunker (f : MessageFragmenter) (payload : OutboundChunks) : Chunker :=
  ⟨payload, UInt64.ofNat f.maxFrag⟩

/-- `fragment_payload` over the `OutboundChunks` it takes, run with at most
`fuel` calls of `next`. -/
def fragmentPayloadChunks (f : MessageFragmenter) (typ : ContentType) (version : ProtocolVersion)
    (payload : OutboundChunks) (fuel : Nat) : List OutboundChunksMessage :=
  ((f.chunker payload).collect fuel).map fun p => ⟨typ, version, p⟩

theorem toNat_limit_chunker (f : MessageFragmenter) (payload : OutboundChunks) :
    (f.chunker payload).limit.toNat = f.maxFrag := by
  have hle := f.maxFrag_le
  rw [maxFragmentLen] at hle
  exact UInt64.toNat_ofNat_of_lt' (by rw [UInt64.size]; omega)

theorem valid_chunker (f : MessageFragmenter) {payload : OutboundChunks} (hp : payload.WellFormed) :
    (f.chunker payload).Valid := by
  have hle := f.maxFrag_le
  rw [maxFragmentLen] at hle
  refine ⟨hp, ?_, ?_⟩
  · rw [toNat_limit_chunker]
    exact f.maxFrag_pos
  · rw [toNat_limit_chunker, isizeMax]
    omega

/-- Over a well-formed payload, the fragments are those of the send path's
`fragmentPayload` over the payload's bytes. -/
theorem fragmentPayloadChunks_refines (f : MessageFragmenter) (typ : ContentType)
    (version : ProtocolVersion) {payload : OutboundChunks} (hp : payload.WellFormed) :
    (f.fragmentPayloadChunks typ version payload payload.bytes.length).map
        (fun m => (⟨m.typ, m.version, m.payload.bytes⟩ : OutboundPlainMessage)) =
      f.fragmentPayload typ version payload.bytes := by
  have hbytes : ((f.chunker payload).collect payload.bytes.length).map OutboundChunks.bytes =
      chunks f.maxFrag payload.bytes.length payload.bytes := by
    rw [Chunker.map_bytes_collect _ _ (f.valid_chunker hp), toNat_limit_chunker]
    rfl
  rw [fragmentPayloadChunks, fragmentPayload, List.map_map, ← hbytes, List.map_map]
  rfl

/-- Two one-byte slices, cut after the first byte and then at `usize::MAX`,
leave the cursors `1..0`.  The iterator over them has `len()`
`(usize::MAX + 16384 - 1) / 16384 = 0`, yet it yields one fragment, whose own
`len()` is `usize::MAX` and whose `to_vec` panics, before it answers `None`. -/
theorem chunker_len_zero_for_wrapped_payload :
    (((OutboundChunks.new [[1], [2]]).splitAt 1).2.splitAt (-1)).1 = .multiple [[1], [2]] 1 0 ∧
    (MessageFragmenter.default.chunker (.multiple [[1], [2]] 1 0)).len = 0 ∧
    MessageFragmenter.default.fragmentPayloadChunks .handshake .tlsv1_2 (.multiple [[1], [2]] 1 0) 2 =
      [⟨.handshake, .tlsv1_2, .multiple [[1], [2]] 1 0⟩] ∧
    ((MessageFragmenter.default.chunker (.multiple [[1], [2]] 1 0)).iterate 1).next.1 = none ∧
    (OutboundChunks.multiple [[1], [2]] 1 0).len = -1 ∧
    (OutboundChunks.multiple [[1], [2]] 1 0).toVec = none := by
  decide

end MessageFragmenter

end Rustls
