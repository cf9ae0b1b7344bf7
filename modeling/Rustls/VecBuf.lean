import Mathlib
import Rustls.Msgs.Outbound

/-!
`ChunkVecBuffer` of `vecbuf.rs`: a queue of byte chunks, with an optional
limit on how many bytes an append may bring it to.

Appending never copies a chunk, and an empty chunk is never queued.  Reading
drains the front of the queue: `read` copies into a buffer of a given size
and then consumes what it copied, splitting the front chunk where the buffer
ends.  The limit is advisory: `apply_limit` says how much of a proposed append
fits, and it is up to the caller to respect it.
-/

namespace Rustls

/-- `ChunkVecBuffer`. -/
structure ChunkVecBuffer where
  chunks : List (List UInt8)
  limit : Option Nat
  deriving DecidableEq, Repr

namespace ChunkVecBuffer

/-- `ChunkVecBuffer::new`. -/
def new (limit : Option Nat) : ChunkVecBuffer :=
  ⟨[], limit⟩

/-- `is_empty`. -/
def isEmpty (b : ChunkVecBuffer) : Bool :=
  b.chunks.isEmpty

/-- `len`: the bytes held, over all chunks. -/
def len (b : ChunkVecBuffer) : Nat :=
  (b.chunks.map List.length).sum

/-- `is_full`: more held than the limit. -/
def isFull (b : ChunkVecBuffer) : Bool :=
  (b.limit.map fun limit => decide (b.len > limit)).getD false

/-- `apply_limit`: how much of an append of `len` bytes fits under the limit. -/
def applyLimit (b : ChunkVecBuffer) (len : Nat) : Nat :=
  match b.limit with
  | some limit => min len (limit - b.len)
  | none => len

/-- `append`: queue `bytes`, unless empty, and report their length. -/
def append (b : ChunkVecBuffer) (bytes : List UInt8) : Nat × ChunkVecBuffer :=
  (bytes.length, if bytes.isEmpty then b else { b with chunks := b.chunks ++ [bytes] })

/-- The loop of `consume`: whole chunks off the front while `used` covers
them, then the first `used` bytes of the next, which goes back to the front. -/
def consumeChunks : List (List UInt8) → Nat → List (List UInt8)
  | [], _ => []
  | buf :: chunks, used =>
    if used < buf.length then buf.drop used :: chunks else consumeChunks chunks (used - buf.length)

/-- `consume`: drop `used` bytes off the front. -/
def consume (b : ChunkVecBuffer) (used : Nat) : ChunkVecBuffer :=
  { b with chunks := consumeChunks b.chunks used }

/-- The copy `append_limited_copy` appends: as much of the payload as
`apply_limit` allows, by `split_at` and `to_vec`, which may panic. -/
def limitedCopy (b : ChunkVecBuffer) (payload : OutboundChunks) : Option (List UInt8) :=
  let take := b.applyLimit payload.len.toNat
  (payload.splitAt (UInt64.ofNat take)).1.toVec

/-- `append_limited_copy`: append the limited copy, and report how much of
the payload it holds. -/
def appendLimitedCopy (b : ChunkVecBuffer) (payload : OutboundChunks) : Option (Nat × ChunkVecBuffer) :=
  (b.limitedCopy payload).map fun bytes => (b.applyLimit payload.len.toNat, (b.append bytes).2)

/-- `pop`: take the front chunk. -/
def pop (b : ChunkVecBuffer) : Option (List UInt8) × ChunkVecBuffer :=
  match b.chunks with
  | [] => (none, b)
  | c :: cs => (some c, { b with chunks := cs })

/-- The loop of `read` with `room` bytes of the caller's buffer still free:
each round copies what fits of the front chunk, then `consume` drops it, or
keeps its tail at the front when the buffer is full first. -/
def readChunks : List (List UInt8) → Nat → List UInt8 × List (List UInt8)
  | [], _ => ([], [])
  | c :: cs, room =>
    if room = 0 then ([], c :: cs)
    else if room < c.length then (c.take room, c.drop room :: cs)
    else
      let (out, rest) := readChunks cs (room - c.length)
      (c ++ out, rest)

/-- `read` into a buffer of `size` bytes: what was copied, and the buffer after. -/
def read (b : ChunkVecBuffer) (size : Nat) : List UInt8 × ChunkVecBuffer :=
  let (out, rest) := readChunks b.chunks size
  (out, { b with chunks := rest })

/-- `read_buf` into a cursor with `capacity` bytes free: the loop of `read`,
the cursor's capacity standing for the room left in the buffer. -/
def readBuf (b : ChunkVecBuffer) (capacity : Nat) : List UInt8 × ChunkVecBuffer :=
  b.read capacity

/-- `write_to`: the first 64 chunks are offered to the writer's
`write_vectored`, and what it reports used is consumed; an error is passed on
and leaves the buffer as it was. -/
def writeTo {ε : Type} (b : ChunkVecBuffer) (writeVectored : List (List UInt8) → Except ε Nat) :
    Except ε Nat × ChunkVecBuffer :=
  if b.isEmpty then (.ok 0, b)
  else
    match writeVectored (b.chunks.take 64) with
    | .ok used => (.ok used, b.consume used)
    | .error e => (.error e, b)

/-! ### What reading takes out -/

/-- What is appended to an empty buffer is what the next `pop` hands out. -/
theorem pop_append_of_chunks_eq_nil {b : ChunkVecBuffer} (hb : b.chunks = [])
    {bytes : List UInt8} (hne : bytes ≠ []) : (b.append bytes).2.pop = (some bytes, b) := by
  obtain ⟨chunks, limit⟩ := b
  subst hb
  simp [append, pop, hne]

/-- What `read` copies out and what it leaves are the held bytes, split: the
caller gets a prefix of the queue, in order. -/
theorem readChunks_append (cs : List (List UInt8)) (room : Nat) :
    (readChunks cs room).1 ++ (readChunks cs room).2.flatten = cs.flatten := by
  induction cs generalizing room with
  | nil => rfl
  | cons c cs ih =>
    unfold readChunks
    by_cases h0 : room = 0
    · simp [h0]
    by_cases hlt : room < c.length
    · simp only [h0, hlt, if_false, if_true, List.flatten_cons]
      rw [← List.append_assoc, List.take_append_drop]
    · simp only [h0, hlt, if_false, List.append_assoc, List.flatten_cons]
      rw [ih]

/-! ### What appending keeps -/

@[simp] theorem limit_append (b : ChunkVecBuffer) (bytes : List UInt8) :
    (b.append bytes).2.limit = b.limit := by
  unfold append
  split <;> rfl

/-- Without a limit, every append fits whole. -/
theorem applyLimit_of_limit_eq_none {b : ChunkVecBuffer} (h : b.limit = none) (len : Nat) :
    b.applyLimit len = len := by
  simp [applyLimit, h]

/-- An append adds its bytes to what is held. -/
theorem len_append (b : ChunkVecBuffer) (bytes : List UInt8) :
    (b.append bytes).2.len = b.len + bytes.length := by
  unfold append
  by_cases hempty : bytes.isEmpty
  · rw [if_pos hempty, List.isEmpty_iff.mp hempty, List.length_nil, Nat.add_zero]
  · rw [if_neg hempty]
    simp [len]

/-- What is held, read out in order, is `len` bytes long. -/
theorem length_flatten_chunks (b : ChunkVecBuffer) : b.chunks.flatten.length = b.len := by
  rw [List.length_flatten]
  rfl

/-! ### Consuming -/

/-- `consume` drops exactly `used` bytes off the front of what is held. -/
theorem flatten_consumeChunks (chunks : List (List UInt8)) (used : Nat) :
    (consumeChunks chunks used).flatten = chunks.flatten.drop used := by
  induction chunks generalizing used with
  | nil => rw [consumeChunks, List.flatten_nil, List.drop_nil]
  | cons buf chunks ih =>
    rw [consumeChunks, List.flatten_cons]
    by_cases hlt : used < buf.length
    · rw [if_pos hlt, List.flatten_cons, List.drop_append_of_le_length (Nat.le_of_lt hlt)]
    · -- the whole chunk goes, and the rest of `used` falls on the chunks after it
      have hnil : buf.drop used = [] := List.drop_eq_nil_of_le (by omega)
      rw [if_neg hlt, ih, List.drop_append, hnil, List.nil_append]

/-- No chunk held is empty. -/
def NoEmpty (b : ChunkVecBuffer) : Prop :=
  ∀ c ∈ b.chunks, c ≠ []

theorem noEmpty_consumeChunks {chunks : List (List UInt8)} (h : ∀ c ∈ chunks, c ≠ []) (used : Nat) :
    ∀ c ∈ consumeChunks chunks used, c ≠ [] := by
  induction chunks generalizing used with
  | nil => intro c hc; cases hc
  | cons buf chunks ih =>
    have hrest : ∀ c ∈ chunks, c ≠ [] := fun c hc => h c (List.mem_cons_of_mem _ hc)
    rw [consumeChunks]
    by_cases hlt : used < buf.length
    · rw [if_pos hlt]
      intro c hc
      rcases List.mem_cons.mp hc with rfl | hc
      · rw [Ne, List.drop_eq_nil_iff]
        omega
      · exact hrest c hc
    · rw [if_neg hlt]
      exact ih hrest _

theorem noEmpty_readChunks {chunks : List (List UInt8)} (h : ∀ c ∈ chunks, c ≠ []) (room : Nat) :
    ∀ c ∈ (readChunks chunks room).2, c ≠ [] := by
  induction chunks generalizing room with
  | nil => intro c hc; cases hc
  | cons buf chunks ih =>
    have hrest : ∀ c ∈ chunks, c ≠ [] := fun c hc => h c (List.mem_cons_of_mem _ hc)
    unfold readChunks
    by_cases h0 : room = 0
    · rw [if_pos h0]
      exact h
    by_cases hlt : room < buf.length
    · rw [if_neg h0, if_pos hlt]
      intro c hc
      rcases List.mem_cons.mp hc with rfl | hc
      · rw [Ne, List.drop_eq_nil_iff]
        omega
      · exact hrest c hc
    · rw [if_neg h0, if_neg hlt]
      exact ih hrest _

/-- What `read` leaves is what `consume` of the bytes it copied leaves, as the
source does it, when no chunk is empty. -/
theorem readChunks_snd_eq_consumeChunks {chunks : List (List UInt8)} (h : ∀ c ∈ chunks, c ≠ [])
    (room : Nat) : (readChunks chunks room).2 = consumeChunks chunks (readChunks chunks room).1.length := by
  induction chunks generalizing room with
  | nil => rfl
  | cons buf chunks ih =>
    have hbuf : 0 < buf.length := List.length_pos_of_ne_nil (h buf (List.mem_cons_self ..))
    have hrest : ∀ c ∈ chunks, c ≠ [] := fun c hc => h c (List.mem_cons_of_mem _ hc)
    unfold readChunks
    by_cases h0 : room = 0
    · rw [if_pos h0, List.length_nil, consumeChunks, if_pos hbuf, List.drop_zero]
    by_cases hlt : room < buf.length
    · rw [if_neg h0, if_pos hlt, List.length_take, Nat.min_eq_left (Nat.le_of_lt hlt), consumeChunks,
        if_pos hlt]
    · -- the whole front chunk is copied, and `consume` moves on to the next
      rw [if_neg h0, if_neg hlt]
      dsimp only
      rw [List.length_append, consumeChunks, if_neg (by omega), Nat.add_sub_cancel_left, ih hrest]

/-! ### Appending a limited copy -/

/-- Of a well-formed payload, `append_limited_copy` copies the first
`apply_limit(len)` bytes. -/
theorem limitedCopy_eq (b : ChunkVecBuffer) {p : OutboundChunks} (hp : p.WellFormed) :
    b.limitedCopy p = some (p.bytes.take (b.applyLimit p.len.toNat)) := by
  have hle : b.applyLimit p.len.toNat ≤ p.len.toNat := by
    unfold applyLimit
    split
    · exact Nat.min_le_left _ _
    · exact Nat.le_refl _
  have hlen := OutboundChunks.len_le hp
  have htake : (UInt64.ofNat (b.applyLimit p.len.toNat)).toNat = b.applyLimit p.len.toNat := by
    apply UInt64.toNat_ofNat_of_lt'
    rw [isizeMax] at hlen
    rw [UInt64.size]
    omega
  have hwraps : ¬ p.SplitWraps (UInt64.ofNat (b.applyLimit p.len.toNat)) :=
    OutboundChunks.not_splitWraps hp (by rw [htake]; omega)
  rw [limitedCopy, OutboundChunks.toVec_eq (OutboundChunks.wellFormed_splitAt_fst hp hwraps),
    OutboundChunks.bytes_splitAt_fst hp hwraps, htake]

/-- Under a limit, `append_limited_copy` never takes the buffer past the
larger of the limit and what it held. -/
theorem len_append_take_applyLimit_le (b : ChunkVecBuffer) (bytes : List UInt8) {l : Nat}
    (hl : b.limit = some l) : (b.append (bytes.take (b.applyLimit bytes.length))).2.len ≤ max l b.len := by
  have htake : b.applyLimit bytes.length = min bytes.length (l - b.len) := by
    rw [applyLimit, hl]
  rw [len_append, List.length_take, htake]
  omega

/-! ### Runs -/

/-- The operations on a `ChunkVecBuffer`, with what the caller passes:
`write_to`'s writer is its `write_vectored`, which answers with the bytes it
took or an error. -/
inductive Op (ε : Type) where
  | append (bytes : List UInt8)
  | appendLimitedCopy (payload : OutboundChunks)
  | pop
  | read (size : Nat)
  | readBuf (capacity : Nat)
  | writeTo (writeVectored : List (List UInt8) → Except ε Nat)

/-- The bytes an operation takes in, and those it hands out. -/
structure Flow where
  taken : List UInt8
  given : List UInt8

variable {ε : Type}

/-- One operation: the bytes it moves and the buffer after, or `none` where it
panics.  `write_to` hands out the first `used` bytes it offered. -/
def step (b : ChunkVecBuffer) : Op ε → Option (Flow × ChunkVecBuffer)
  | .append bytes => some (⟨bytes, []⟩, (b.append bytes).2)
  | .appendLimitedCopy payload =>
    (b.limitedCopy payload).map fun bytes => (⟨bytes, []⟩, (b.append bytes).2)
  | .pop => some (⟨[], b.pop.1.getD []⟩, b.pop.2)
  | .read size => some (⟨[], (b.read size).1⟩, (b.read size).2)
  | .readBuf capacity => some (⟨[], (b.readBuf capacity).1⟩, (b.readBuf capacity).2)
  | .writeTo writeVectored =>
    match b.writeTo writeVectored with
    | (.ok used, b') => some (⟨[], (b.chunks.take 64).flatten.take used⟩, b')
    | (.error _, b') => some (⟨[], []⟩, b')

/-- A run of operations, and the bytes it moves in all. -/
def run (b : ChunkVecBuffer) : List (Op ε) → Option (Flow × ChunkVecBuffer)
  | [] => some (⟨[], []⟩, b)
  | op :: ops =>
    (step b op).bind fun (f, b') =>
      (run b' ops).map fun (f', b'') => (⟨f.taken ++ f'.taken, f.given ++ f'.given⟩, b'')

/-- What the caller keeps to: a payload within `OutboundChunks`' assumptions,
and a writer that reports at most the bytes it was offered. -/
def Op.Fair : Op ε → Prop
  | .appendLimitedCopy payload => payload.WellFormed
  | .writeTo writeVectored => ∀ bufs used, writeVectored bufs = .ok used → used ≤ bufs.flatten.length
  | _ => True

section Flows

variable {b : ChunkVecBuffer}

/-- An append puts its bytes behind what is held. -/
theorem flatten_chunks_append (b : ChunkVecBuffer) (bytes : List UInt8) :
    (b.append bytes).2.chunks.flatten = b.chunks.flatten ++ bytes := by
  unfold append
  by_cases hempty : bytes.isEmpty
  · rw [if_pos hempty, List.isEmpty_iff.mp hempty, List.append_nil]
  · rw [if_neg hempty, List.flatten_append, List.flatten_singleton]

theorem append_flow (hb : b.NoEmpty) (bytes : List UInt8) :
    (b.append bytes).2.chunks.flatten = b.chunks.flatten ++ bytes ∧ (b.append bytes).2.NoEmpty := by
  refine ⟨flatten_chunks_append b bytes, ?_⟩
  unfold append
  by_cases hempty : bytes.isEmpty
  · rw [if_pos hempty]
    exact hb
  · rw [if_neg hempty]
    intro c hc
    rcases List.mem_append.mp hc with hc | hc
    · exact hb c hc
    · rw [List.mem_singleton.mp hc]
      exact fun hnil => hempty (List.isEmpty_iff.mpr hnil)

theorem pop_flow (hb : b.NoEmpty) :
    b.pop.1.getD [] ++ b.pop.2.chunks.flatten = b.chunks.flatten ∧ b.pop.2.NoEmpty := by
  unfold pop
  split
  · exact ⟨rfl, hb⟩
  · rename_i c cs hcs
    refine ⟨by rw [hcs, Option.getD_some, List.flatten_cons], ?_⟩
    intro c' hc'
    exact hb c' (by rw [hcs]; exact List.mem_cons_of_mem _ hc')

theorem read_flow (hb : b.NoEmpty) (size : Nat) :
    (b.read size).1 ++ (b.read size).2.chunks.flatten = b.chunks.flatten ∧ (b.read size).2.NoEmpty :=
  ⟨readChunks_append b.chunks size, noEmpty_readChunks hb size⟩

/-- `write_to` hands out the first `used` bytes, where the writer reports no
more than it was offered. -/
theorem writeTo_flow (hb : b.NoEmpty) {used : Nat} (hused : used ≤ (b.chunks.take 64).flatten.length) :
    (b.chunks.take 64).flatten.take used ++ (b.consume used).chunks.flatten = b.chunks.flatten ∧
      (b.consume used).NoEmpty := by
  have hfront : b.chunks.flatten = (b.chunks.take 64).flatten ++ (b.chunks.drop 64).flatten := by
    rw [← List.flatten_append, List.take_append_drop]
  have htake : (b.chunks.take 64).flatten.take used = b.chunks.flatten.take used := by
    rw [hfront, List.take_append_of_le_length hused]
  refine ⟨?_, noEmpty_consumeChunks hb used⟩
  rw [consume, flatten_consumeChunks, htake, List.take_append_drop]

/-- One fair operation on a buffer with no empty chunk does not panic, hands
out bytes from the front and takes them in at the back, and queues no empty
chunk. -/
theorem step_flow (hb : b.NoEmpty) {op : Op ε} (hop : op.Fair) :
    ∃ f b', step b op = some (f, b') ∧ f.given ++ b'.chunks.flatten = b.chunks.flatten ++ f.taken ∧
      b'.NoEmpty := by
  cases op with
  | append bytes =>
    obtain ⟨hflat, hne⟩ := append_flow hb bytes
    exact ⟨_, _, rfl, by rw [hflat, List.nil_append], hne⟩
  | appendLimitedCopy payload =>
    obtain ⟨hflat, hne⟩ := append_flow hb (payload.bytes.take (b.applyLimit payload.len.toNat))
    refine ⟨_, _, by rw [step, limitedCopy_eq b hop, Option.map_some], ?_, hne⟩
    rw [hflat, List.nil_append]
  | pop =>
    obtain ⟨hflat, hne⟩ := pop_flow hb
    exact ⟨_, _, rfl, by rw [hflat, List.append_nil], hne⟩
  | read size =>
    obtain ⟨hflat, hne⟩ := read_flow hb size
    exact ⟨_, _, rfl, by rw [hflat, List.append_nil], hne⟩
  | readBuf capacity =>
    obtain ⟨hflat, hne⟩ := read_flow hb capacity
    exact ⟨_, _, rfl, by rw [readBuf, hflat, List.append_nil], hne⟩
  | writeTo writeVectored =>
    by_cases hempty : b.isEmpty
    · -- nothing held: nothing offered, nothing handed out
      have hnil : b.chunks = [] := List.isEmpty_iff.mp hempty
      refine ⟨_, _, by rw [step, writeTo, if_pos hempty], ?_, hb⟩
      rw [hnil]
      rfl
    · cases hw : writeVectored (b.chunks.take 64) with
      | error e =>
        refine ⟨_, _, by rw [step, writeTo, if_neg hempty, hw], ?_, hb⟩
        rw [List.nil_append, List.append_nil]
      | ok used =>
        obtain ⟨hflat, hne⟩ := writeTo_flow hb (hop _ _ hw)
        refine ⟨_, _, by rw [step, writeTo, if_neg hempty, hw], ?_, hne⟩
        rw [hflat, List.append_nil]

/-- A run of fair operations from a buffer with no empty chunk: what it hands
out, followed by what is left, is what was held followed by what it took in. -/
theorem run_flow (ops : List (Op ε)) (hops : ∀ op ∈ ops, op.Fair) :
    ∀ b : ChunkVecBuffer, b.NoEmpty → ∃ f b', run b ops = some (f, b') ∧
      f.given ++ b'.chunks.flatten = b.chunks.flatten ++ f.taken ∧ b'.NoEmpty := by
  induction ops with
  | nil => intro b hb; exact ⟨_, _, rfl, by rw [List.nil_append, List.append_nil], hb⟩
  | cons op ops ih =>
    intro b hb
    obtain ⟨f₁, b₁, hstep, hflow₁, hne₁⟩ := step_flow hb (hops op (List.mem_cons_self ..))
    obtain ⟨f₂, b₂, hrun, hflow₂, hne₂⟩ := ih (fun op hop => hops op (List.mem_cons_of_mem _ hop)) b₁ hne₁
    refine ⟨⟨f₁.taken ++ f₂.taken, f₁.given ++ f₂.given⟩, b₂,
      by simp only [run, hstep, hrun, Option.bind_some, Option.map_some], ?_, hne₂⟩
    calc f₁.given ++ f₂.given ++ b₂.chunks.flatten
        = f₁.given ++ (b₁.chunks.flatten ++ f₂.taken) := by rw [List.append_assoc, hflow₂]
      _ = b.chunks.flatten ++ (f₁.taken ++ f₂.taken) := by
        rw [← List.append_assoc, hflow₁, List.append_assoc]

end Flows

/-- `ChunkVecBuffer` is a lossless FIFO queue of bytes: over every run of
fair operations from `new(limit)`, what is handed out followed by what is
still held is everything taken in, in order, with no empty chunk held and
`len()` the bytes held; and `append_limited_copy` of a well-formed payload
holds its first `apply_limit(len)` bytes, which keeps a limited buffer within
the larger of its limit and what it held before. -/
theorem run_lossless (limit : Option Nat) (ops : List (Op ε)) (hops : ∀ op ∈ ops, op.Fair) :
    (∃ f b, run (new limit) ops = some (f, b) ∧ f.given ++ b.chunks.flatten = f.taken ∧ b.NoEmpty ∧
      b.len = b.chunks.flatten.length) ∧
    ∀ (b : ChunkVecBuffer) (p : OutboundChunks), p.WellFormed →
      b.appendLimitedCopy p = some (b.applyLimit p.len.toNat,
        (b.append (p.bytes.take (b.applyLimit p.len.toNat))).2) ∧
      ((b.append (p.bytes.take (b.applyLimit p.len.toNat))).2.chunks.flatten =
        b.chunks.flatten ++ p.bytes.take (b.applyLimit p.len.toNat)) ∧
      ∀ l, b.limit = some l → (b.append (p.bytes.take (b.applyLimit p.len.toNat))).2.len ≤ max l b.len := by
  have hnew : (new limit).NoEmpty := fun c hc => by cases hc
  refine ⟨?_, ?_⟩
  · obtain ⟨f, b, hrun, hflow, hne⟩ := run_flow ops hops (new limit) hnew
    exact ⟨f, b, hrun, hflow, hne, (length_flatten_chunks b).symm⟩
  · intro b p hp
    -- `len()` of a well-formed payload counts its bytes, so the limit is applied to them
    have hlen := OutboundChunks.len_eq hp
    refine ⟨by rw [appendLimitedCopy, limitedCopy_eq b hp, Option.map_some], ?_, ?_⟩
    · exact flatten_chunks_append b _
    · intro l hl
      rw [hlen]
      exact len_append_take_applyLimit_le b p.bytes hl

theorem run_lossless_copy_write_read :
    (∀ op ∈ [Op.append [1, 2, 3], .appendLimitedCopy (.ofSlice [4, 5, 6]),
        .writeTo fun bufs => (.ok (min 2 bufs.flatten.length) : Except Unit Nat), .read 12], op.Fair) ∧
    ((∃ f b, run (new (some 4))
        [Op.append [1, 2, 3], .appendLimitedCopy (.ofSlice [4, 5, 6]),
          .writeTo fun bufs => (.ok (min 2 bufs.flatten.length) : Except Unit Nat), .read 12] =
          some (f, b) ∧ f.given ++ b.chunks.flatten = f.taken ∧ b.NoEmpty ∧
        b.len = b.chunks.flatten.length) ∧
      ∀ (b : ChunkVecBuffer) (p : OutboundChunks), p.WellFormed →
        b.appendLimitedCopy p = some (b.applyLimit p.len.toNat,
          (b.append (p.bytes.take (b.applyLimit p.len.toNat))).2) ∧
        ((b.append (p.bytes.take (b.applyLimit p.len.toNat))).2.chunks.flatten =
          b.chunks.flatten ++ p.bytes.take (b.applyLimit p.len.toNat)) ∧
        ∀ l, b.limit = some l → (b.append (p.bytes.take (b.applyLimit p.len.toNat))).2.len ≤ max l b.len) := by
  have hops : ∀ op ∈ [Op.append [1, 2, 3], .appendLimitedCopy (.ofSlice [4, 5, 6]),
      .writeTo fun bufs => (.ok (min 2 bufs.flatten.length) : Except Unit Nat), .read 12], op.Fair := by
    intro op hop
    simp only [List.mem_cons, List.not_mem_nil, or_false] at hop
    rcases hop with rfl | rfl | rfl | rfl
    · trivial
    · show (OutboundChunks.ofSlice [4, 5, 6]).WellFormed
      decide
    · intro bufs used hw
      cases hw
      exact Nat.min_le_right _ _
    · trivial
  exact ⟨hops, run_lossless (some 4) _ hops⟩

end ChunkVecBuffer

end Rustls
