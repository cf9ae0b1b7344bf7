import Rustls.Msgs.Deframer
import Rustls.Lib.FirstMatch

/-!
What `HandshakeDeframer::coalesce` does to the spans it holds and to the
buffer under them.

The spans a deframer holds lie in the buffer in order, each a range within it
that ends at or before the next one begins (`Placed`).  `coalesce_one` takes
the first incomplete span that is not the last and the span after it, copies
the second down to the end of the first, and dissects the joined range again.
What that range then holds is the two parts, end to end; `dissect` covers it
with spans that follow one another without gaps (`Tiles`), all complete but
the last.  The spans before the pair lie below the copy and the spans after it
above, so their bytes do not move.

So every round keeps the spans placed, and keeps the bytes they cover, read in
order, as they were (`placed_coalesceOne`).  Every round also shortens what
is left after the first incomplete span (`pending_coalesceOne_lt`): what was
before it is complete, and so are all the new spans but the last.  That bounds
the rounds by the number of spans, the fuel the model's loop is given, and the
loop stops at a state where no span but the last is incomplete
(`requiresCoalesce_coalesceLoop`).
-/

namespace Rustls

/-! ### The buffer operations -/

section Buffer

variable {buf : List UInt8}

theorem length_sliceRange (buf : List UInt8) (start stop : Nat) :
    (sliceRange buf start stop).length = min (stop - start) (buf.length - start) := by
  rw [sliceRange, List.length_take, List.length_drop]

/-- Two adjacent ranges read as the one range they make up. -/
theorem sliceRange_append_sliceRange {a b c : Nat} (hab : a ≤ b) (hbc : b ≤ c) :
    sliceRange buf a b ++ sliceRange buf b c = sliceRange buf a c := by
  have hsplit : c - a = (b - a) + (c - b) := by omega
  have hdrop : buf.drop b = (buf.drop a).drop (b - a) := by
    rw [List.drop_drop, Nat.add_sub_cancel' hab]
  rw [sliceRange, sliceRange, sliceRange, hsplit, List.take_add, hdrop]

theorem sliceRange_take {n s t : Nat} (ht : t ≤ n) : sliceRange (buf.take n) s t = sliceRange buf s t := by
  rw [sliceRange, sliceRange, List.drop_take, List.take_take, Nat.min_eq_left (by omega)]

theorem sliceRange_append_of_le {l : List UInt8} {s t : Nat} (ht : t ≤ buf.length) :
    sliceRange (buf ++ l) s t = sliceRange buf s t := by
  rw [← sliceRange_take ht, List.take_left' rfl]

theorem sliceRange_append_of_ge {l : List UInt8} {s t : Nat} (hs : buf.length ≤ s) :
    sliceRange (buf ++ l) s t = sliceRange l (s - buf.length) (t - buf.length) := by
  have hcount : t - buf.length - (s - buf.length) = t - s := by omega
  rw [sliceRange, sliceRange, List.drop_append, List.drop_eq_nil_of_le hs, List.nil_append, hcount]

theorem sliceRange_drop {n s t : Nat} : sliceRange (buf.drop n) s t = sliceRange buf (n + s) (n + t) := by
  have hcount : n + t - (n + s) = t - s := by omega
  rw [sliceRange, sliceRange, List.drop_drop, hcount]

/-- `copy_within` of a range within the buffer to a place within it: the
bytes before the place, the range, and the bytes after what it overwrote. -/
theorem copyWithin_eq {a b dest : Nat} (hab : a ≤ b) (hb : b ≤ buf.length) :
    copyWithin buf a b dest = buf.take dest ++ sliceRange buf a b ++ buf.drop (dest + (b - a)) := by
  have hsrc : (sliceRange buf a b).length = b - a := by
    rw [length_sliceRange]
    omega
  rw [copyWithin, hsrc]

theorem length_copyWithin {a b dest : Nat} (hab : a ≤ b) (hb : b ≤ buf.length)
    (hdest : dest + (b - a) ≤ buf.length) : (copyWithin buf a b dest).length = buf.length := by
  rw [copyWithin_eq hab hb, List.length_append, List.length_append, List.length_take, length_sliceRange,
    List.length_drop]
  omega

/-- Below the place copied to, the buffer is as it was. -/
theorem sliceRange_copyWithin_of_le {a b dest s t : Nat} (hab : a ≤ b) (hb : b ≤ buf.length)
    (hdest : dest + (b - a) ≤ buf.length) (ht : t ≤ dest) :
    sliceRange (copyWithin buf a b dest) s t = sliceRange buf s t := by
  have htake : t ≤ (buf.take dest).length := by
    rw [List.length_take]
    omega
  rw [copyWithin_eq hab hb, List.append_assoc, sliceRange_append_of_le htake, sliceRange_take ht]

/-- Past the bytes copied over, the buffer is as it was. -/
theorem sliceRange_copyWithin_of_ge {a b dest s t : Nat} (hab : a ≤ b) (hb : b ≤ buf.length)
    (hdest : dest + (b - a) ≤ buf.length) (hs : dest + (b - a) ≤ s) :
    sliceRange (copyWithin buf a b dest) s t = sliceRange buf s t := by
  have hfront : (buf.take dest ++ sliceRange buf a b).length = dest + (b - a) := by
    rw [List.length_append, List.length_take, length_sliceRange]
    omega
  -- the range is read from `dest + (b - a)` on in what follows the copy, which is the old buffer
  have hstart : dest + (b - a) + (s - (dest + (b - a))) = s := by omega
  have hcount : dest + (b - a) + (t - (dest + (b - a))) - s = t - s := by omega
  rw [copyWithin_eq hab hb, sliceRange_append_of_ge (by rw [hfront]; exact hs), hfront, sliceRange_drop,
    sliceRange, sliceRange, hstart, hcount]

/-- From below the place copied to up to the end of the copy: what was there,
then the range copied. -/
theorem sliceRange_copyWithin_joined {a b dest s : Nat} (hab : a ≤ b) (hb : b ≤ buf.length)
    (hdest : dest + (b - a) ≤ buf.length) (hs : s ≤ dest) :
    sliceRange (copyWithin buf a b dest) s (dest + (b - a)) = sliceRange buf s dest ++ sliceRange buf a b := by
  have htake : (buf.take dest).length = dest := by
    rw [List.length_take]
    omega
  have hcopied : sliceRange (copyWithin buf a b dest) dest (dest + (b - a)) = sliceRange buf a b := by
    rw [copyWithin_eq hab hb, List.append_assoc, sliceRange_append_of_ge (by rw [htake]), htake, Nat.sub_self,
      Nat.add_sub_cancel_left, sliceRange_append_of_le (by rw [length_sliceRange]; omega)]
    rw [sliceRange, List.drop_zero, Nat.sub_zero, List.take_of_length_le (by rw [length_sliceRange]; omega)]
  rw [← sliceRange_append_sliceRange hs (Nat.le_add_right dest (b - a)),
    sliceRange_copyWithin_of_le hab hb hdest (le_refl dest), hcopied]

end Buffer

/-! ### Spans in the buffer -/

/-- The bytes the spans cover, read in order. -/
def covered (buf : List UInt8) (spans : List FragmentSpan) : List UInt8 :=
  spans.flatMap fun s => sliceRange buf s.start s.stop

/-- The spans lie in a buffer of `len` bytes in order: each is a range within
it, and each ends at or before any later one begins. -/
structure Placed (len : Nat) (spans : List FragmentSpan) : Prop where
  start_le_stop : ∀ s ∈ spans, s.start ≤ s.stop
  stop_le : ∀ s ∈ spans, s.stop ≤ len
  ordered : spans.Pairwise fun s t => s.stop ≤ t.start

/-- The spans cover the range from `a` to `c` end to end: the first begins at
`a`, and each of the others where the one before it ends. -/
def Tiles : Nat → Nat → List FragmentSpan → Prop
  | a, c, [] => a = c
  | a, c, s :: rest => s.start = a ∧ s.start ≤ s.stop ∧ Tiles s.stop c rest

section Covered

variable {buf buf' : List UInt8}

@[simp] theorem covered_nil : covered buf [] = [] := rfl

@[simp] theorem covered_cons (s : FragmentSpan) (spans : List FragmentSpan) :
    covered buf (s :: spans) = sliceRange buf s.start s.stop ++ covered buf spans := by
  rw [covered, List.flatMap_cons, covered]

@[simp] theorem covered_append (l₁ l₂ : List FragmentSpan) :
    covered buf (l₁ ++ l₂) = covered buf l₁ ++ covered buf l₂ := by
  rw [covered, List.flatMap_append, covered, covered]

/-- Spans over bytes that did not change cover what they covered. -/
theorem covered_congr {spans : List FragmentSpan}
    (h : ∀ s ∈ spans, sliceRange buf' s.start s.stop = sliceRange buf s.start s.stop) :
    covered buf' spans = covered buf spans :=
  List.flatMap_congr h

end Covered

theorem Placed.append {len : Nat} {l₁ l₂ : List FragmentSpan} (h₁ : Placed len l₁) (h₂ : Placed len l₂)
    (h : ∀ s ∈ l₁, ∀ t ∈ l₂, s.stop ≤ t.start) : Placed len (l₁ ++ l₂) := by
  refine ⟨?_, ?_, List.pairwise_append.mpr ⟨h₁.ordered, h₂.ordered, h⟩⟩
  · intro s hs
    rcases List.mem_append.mp hs with hs | hs
    · exact h₁.start_le_stop s hs
    · exact h₂.start_le_stop s hs
  · intro s hs
    rcases List.mem_append.mp hs with hs | hs
    · exact h₁.stop_le s hs
    · exact h₂.stop_le s hs

namespace Tiles

variable {a c : Nat} {spans : List FragmentSpan}

theorem le (h : Tiles a c spans) : a ≤ c := by
  induction spans generalizing a with
  | nil => exact Nat.le_of_eq h
  | cons s rest ih =>
    obtain ⟨hstart, hle, hrest⟩ := h
    have := ih hrest
    omega

/-- Every span lies within the range. -/
theorem mem_bounds (h : Tiles a c spans) : ∀ s ∈ spans, a ≤ s.start ∧ s.start ≤ s.stop ∧ s.stop ≤ c := by
  induction spans generalizing a with
  | nil => intro s hs; nomatch hs
  | cons s rest ih =>
    obtain ⟨hstart, hle, hrest⟩ := h
    intro t ht
    rcases List.mem_cons.mp ht with rfl | ht
    · exact ⟨Nat.le_of_eq hstart.symm, hle, hrest.le⟩
    · obtain ⟨h₁, h₂, h₃⟩ := ih hrest t ht
      exact ⟨by omega, h₂, h₃⟩

theorem pairwise (h : Tiles a c spans) : spans.Pairwise fun s t => s.stop ≤ t.start := by
  induction spans generalizing a with
  | nil => exact List.Pairwise.nil
  | cons s rest ih =>
    obtain ⟨-, -, hrest⟩ := h
    exact List.pairwise_cons.mpr ⟨fun t ht => (hrest.mem_bounds t ht).1, ih hrest⟩

theorem placed {len : Nat} (h : Tiles a c spans) (hc : c ≤ len) : Placed len spans :=
  ⟨fun s hs => (h.mem_bounds s hs).2.1, fun s hs => Nat.le_trans (h.mem_bounds s hs).2.2 hc, h.pairwise⟩

/-- Spans end to end cover the bytes of their range. -/
theorem covered_eq (h : Tiles a c spans) (buf : List UInt8) : covered buf spans = sliceRange buf a c := by
  induction spans generalizing a with
  | nil =>
    rw [show c = a from h.symm, covered_nil, sliceRange, Nat.sub_self, List.take_zero]
  | cons s rest ih =>
    obtain ⟨hstart, hle, hrest⟩ := h
    rw [covered_cons, ih hrest, hstart]
    exact sliceRange_append_sliceRange (hstart ▸ hle) hrest.le

end Tiles

/-- Whatever `dropLast` leaves of `x :: l` is `x` or what it leaves of `l`. -/
theorem mem_dropLast_cons {α : Type} {x y : α} {l : List α} (h : y ∈ (x :: l).dropLast) :
    y = x ∨ y ∈ l.dropLast := by
  cases l with
  | nil => nomatch h
  | cons z zs => exact List.mem_cons.mp (by rwa [List.dropLast_cons_of_ne_nil (List.cons_ne_nil z zs)] at h)

/-- **What `DissectHandshakeIter` yields**: spans that cover the payload's
range end to end, all complete but the last. -/
theorem dissect_spec (version : ProtocolVersion) (start : Nat) (payload : List UInt8) :
    Tiles start (start + payload.length) (dissect version start payload) ∧
      ∀ s ∈ (dissect version start payload).dropLast, s.isComplete = true := by
  induction start, payload using dissect.induct with
  | case1 start payload hempty =>
    rw [dissect, if_pos hempty, List.isEmpty_iff.mp hempty]
    exact ⟨rfl, fun s hs => nomatch hs⟩
  | case2 start payload hne hshort =>
    rw [dissect, if_neg hne, if_pos hshort]
    exact ⟨⟨rfl, Nat.le_add_right _ _, rfl⟩, fun s hs => nomatch hs⟩
  | case3 start payload hne hshort size rest hlt ih =>
    -- a complete message, then the spans of what follows it
    obtain ⟨htiles, hcomplete⟩ := ih
    have hrest : rest.length = payload.length - handshakeHeaderLen := List.length_drop
    have hend : start + handshakeHeaderLen + size + (rest.drop size).length = start + payload.length := by
      rw [List.length_drop]
      unfold handshakeHeaderLen at hshort hrest ⊢
      omega
    rw [dissect, if_neg hne, if_neg hshort]
    dsimp only
    rw [if_pos hlt]
    refine ⟨⟨rfl, Nat.le_add_right_of_le (Nat.le_add_right _ _), hend ▸ htiles⟩, ?_⟩
    intro s hs
    rcases mem_dropLast_cons hs with rfl | hs
    · simp only [FragmentSpan.isComplete, beq_iff_eq]
      omega
    · exact hcomplete s hs
  | case4 start payload hne hshort size rest hlt =>
    -- the last message, complete or not
    have hrest : rest.length = payload.length - handshakeHeaderLen := List.length_drop
    have hend : start + handshakeHeaderLen + rest.length = start + payload.length := by
      unfold handshakeHeaderLen at hshort hrest ⊢
      omega
    rw [dissect, if_neg hne, if_neg hshort]
    dsimp only
    rw [if_neg hlt]
    exact ⟨⟨rfl, Nat.le_add_right_of_le (Nat.le_add_right _ _), hend⟩, fun s hs => nomatch hs⟩

theorem Placed.sublist {len : Nat} {l l' : List FragmentSpan} (h : Placed len l) (hsub : List.Sublist l' l) :
    Placed len l' :=
  ⟨fun s hs => h.start_le_stop s (hsub.subset hs), fun s hs => h.stop_le s (hsub.subset hs),
    h.ordered.sublist hsub⟩

/-! ### One round -/

namespace HandshakeDeframer

/-- What rounds of `coalesce` keep, from the buffer `buf` and the deframer
`d` to the result `r`: the buffer's length, the spans placed in it, the bytes
they cover read in order, and the discard. -/
structure Keeps (buf : List UInt8) (d : HandshakeDeframer) (r : HandshakeDeframer × List UInt8) : Prop where
  length_eq : r.2.length = buf.length
  placed : Placed r.2.length r.1.spans
  covered_eq : covered r.2 r.1.spans = covered buf d.spans
  outerDiscard_eq : r.1.outerDiscard = d.outerDiscard

theorem Keeps.refl {buf : List UInt8} {d : HandshakeDeframer} (h : Placed buf.length d.spans) :
    Keeps buf d (d, buf) :=
  ⟨rfl, h, rfl, rfl⟩

theorem Keeps.trans {buf : List UInt8} {d : HandshakeDeframer} {r r' : HandshakeDeframer × List UInt8}
    (h₁ : Keeps buf d r) (h₂ : Keeps r.2 r.1 r') : Keeps buf d r' :=
  ⟨h₂.length_eq.trans h₁.length_eq, h₂.placed, h₂.covered_eq.trans h₁.covered_eq,
    h₂.outerDiscard_eq.trans h₁.outerDiscard_eq⟩

/-- `coalesce_one` at the position of `first`, with `second` after it. -/
theorem coalesceOne_eq (pre post : List FragmentSpan) (first second : FragmentSpan) (outerDiscard : Nat)
    (buf : List UInt8) :
    coalesceOne ⟨pre ++ first :: second :: post, outerDiscard⟩ pre.length buf =
      (⟨pre ++ dissect first.version first.start
          (sliceRange (copyWithin buf second.start second.stop first.stop) first.start
            (first.stop + (second.stop - second.start))) ++ post, outerDiscard⟩,
        copyWithin buf second.start second.stop first.stop) := by
  have herase : ((pre ++ first :: second :: post).eraseIdx (pre.length + 1)).eraseIdx pre.length = pre ++ post := by
    simp [List.eraseIdx_append_of_length_le]
  simp [coalesceOne, herase]

/-- `requires_coalesce` answers with the first incomplete span that is not
the last: complete spans before it, and a span after it. -/
theorem exists_of_requiresCoalesce_eq_some {d : HandshakeDeframer} {i : Nat} (h : d.requiresCoalesce = some i) :
    ∃ pre first second post, d.spans = pre ++ first :: second :: post ∧ pre.length = i ∧
      (∀ s ∈ pre, s.isComplete = true) ∧ first.isComplete = false := by
  obtain ⟨pre, first, rest, hsplit, hlen, hfirst, hpre⟩ := List.exists_append_of_findIdx?_eq_some h
  have hne : d.spans ≠ [] := by
    intro hnil
    rw [hnil, List.dropLast_nil] at hsplit
    simp at hsplit
  obtain ⟨second, post, hpost⟩ := List.exists_cons_of_ne_nil
    (List.append_ne_nil_of_right_ne_nil rest (List.cons_ne_nil (d.spans.getLast hne) []))
  refine ⟨pre, first, second, post, ?_, hlen, fun s hs => by simpa using hpre s hs, by simpa using hfirst⟩
  rw [← List.dropLast_append_getLast hne, hsplit, List.append_assoc, List.cons_append, hpost]

/-- **One round keeps the spans placed, and the bytes they cover.**  The
second span's bytes land right after the first's, the spans before the pair
lie below them and the spans after it above. -/
theorem keeps_coalesceOne (pre post : List FragmentSpan) (first second : FragmentSpan) (outerDiscard : Nat)
    {buf : List UInt8} (hplaced : Placed buf.length (pre ++ first :: second :: post)) :
    Keeps buf ⟨pre ++ first :: second :: post, outerDiscard⟩
      (coalesceOne ⟨pre ++ first :: second :: post, outerDiscard⟩ pre.length buf) := by
  obtain ⟨-, hrest, hpreBelow⟩ := List.pairwise_append.mp hplaced.ordered
  obtain ⟨hfirstBelow, hrest⟩ := List.pairwise_cons.mp hrest
  obtain ⟨hsecondBelow, -⟩ := List.pairwise_cons.mp hrest
  rw [List.forall_mem_cons] at hfirstBelow
  have hfirst : first.start ≤ first.stop := hplaced.start_le_stop first (by simp)
  have hsecond : second.start ≤ second.stop := hplaced.start_le_stop second (by simp)
  have hgap : first.stop ≤ second.start := hfirstBelow.1
  have hwithin : second.stop ≤ buf.length := hplaced.stop_le second (by simp)
  have hdest : first.stop + (second.stop - second.start) ≤ buf.length := by omega
  have hlen := length_copyWithin hsecond hwithin hdest
  -- the joined range holds the two parts, and `dissect` covers it end to end
  have hjoined := sliceRange_copyWithin_joined hsecond hwithin hdest hfirst
  have hpayload : first.start + (sliceRange (copyWithin buf second.start second.stop first.stop) first.start
      (first.stop + (second.stop - second.start))).length = first.stop + (second.stop - second.start) := by
    rw [length_sliceRange, hlen]
    omega
  have htiles := (dissect_spec first.version first.start (sliceRange (copyWithin buf second.start second.stop
    first.stop) first.start (first.stop + (second.stop - second.start)))).1
  rw [hpayload] at htiles
  -- the spans before the pair end below the copy, those after it begin above
  have hpre : ∀ s ∈ pre, s.stop ≤ first.start := fun s hs => hpreBelow s hs first (by simp)
  have hpost : ∀ t ∈ post, first.stop + (second.stop - second.start) ≤ t.start := fun t ht => by
    have := hsecondBelow t ht
    omega
  rw [coalesceOne_eq]
  refine ⟨hlen, ?_, ?_, rfl⟩
  · dsimp only
    rw [hlen, List.append_assoc]
    refine (hplaced.sublist (List.sublist_append_left _ _)).append
      ((htiles.placed hdest).append (hplaced.sublist (((List.sublist_cons_self second post).trans
        (List.sublist_cons_self first _)).trans (List.sublist_append_right pre _))) ?_) ?_
    · intro s hs t ht
      exact Nat.le_trans (htiles.mem_bounds s hs).2.2 (hpost t ht)
    · intro s hs t ht
      rcases List.mem_append.mp ht with ht | ht
      · exact Nat.le_trans (hpre s hs) (htiles.mem_bounds t ht).1
      · exact hpreBelow s hs t (by simp [ht])
  · have hpreBytes := covered_congr (fun s hs =>
      sliceRange_copyWithin_of_le hsecond hwithin hdest (Nat.le_trans (hpre s hs) hfirst))
    have hpostBytes := covered_congr (fun t ht => sliceRange_copyWithin_of_ge (t := t.stop) hsecond hwithin hdest
      (hpost t ht))
    rw [covered_append, covered_append, htiles.covered_eq, hjoined, hpreBytes, hpostBytes, covered_append,
      covered_cons, covered_cons, List.append_assoc, List.append_assoc]

/-- A round at the position `requires_coalesce` answers keeps the spans
placed, and the bytes they cover. -/
theorem keeps_coalesceOne_of_requiresCoalesce {d : HandshakeDeframer} {i : Nat} {buf : List UInt8}
    (h : d.requiresCoalesce = some i) (hplaced : Placed buf.length d.spans) : Keeps buf d (d.coalesceOne i buf) := by
  obtain ⟨pre, first, second, post, hspans, rfl, -, -⟩ := exists_of_requiresCoalesce_eq_some h
  obtain ⟨spans, outerDiscard⟩ := d
  dsimp only at hspans hplaced
  subst hspans
  exact keeps_coalesceOne pre post first second outerDiscard hplaced

/-- The span `requires_coalesce` answers with has a span after it. -/
theorem lt_length_of_requiresCoalesce {d : HandshakeDeframer} {i : Nat} (h : d.requiresCoalesce = some i) :
    i + 1 < d.spans.length := by
  obtain ⟨pre, first, second, post, hspans, rfl, -, -⟩ := exists_of_requiresCoalesce_eq_some h
  rw [hspans, List.length_append, List.length_cons, List.length_cons]
  omega

/-- Past complete spans, the first incomplete one that is not the last stands
no earlier than their end, and before the last span. -/
theorem bounds_of_requiresCoalesce {settled rest : List FragmentSpan} {outerDiscard j : Nat}
    (hsettled : ∀ s ∈ settled, s.isComplete = true)
    (h : requiresCoalesce ⟨settled ++ rest, outerDiscard⟩ = some j) :
    settled.length ≤ j ∧ j + 1 < (settled ++ rest).length := by
  dsimp only [requiresCoalesce] at h
  obtain ⟨hlt, hp, -⟩ := List.findIdx?_eq_some_iff_getElem.mp h
  rw [List.length_dropLast] at hlt
  refine ⟨?_, by omega⟩
  -- a position among the complete spans names a complete span
  by_contra hj
  rw [List.getElem_dropLast, List.getElem_append_left (by omega)] at hp
  simp [hsettled _ (List.getElem_mem _)] at hp

/-- **A round shortens what is left after the first incomplete span.**  The
spans before it were complete, the new ones are complete but the last, and
the round took two spans away. -/
theorem pending_coalesceOne_lt {d : HandshakeDeframer} {i j : Nat} (h : d.requiresCoalesce = some i)
    (buf : List UInt8) (hj : (d.coalesceOne i buf).1.requiresCoalesce = some j) :
    (d.coalesceOne i buf).1.spans.length - j - 1 < d.spans.length - i - 1 := by
  obtain ⟨pre, first, second, post, hspans, rfl, hpre, -⟩ := exists_of_requiresCoalesce_eq_some h
  obtain ⟨spans, outerDiscard⟩ := d
  dsimp only at hspans
  subst hspans
  rw [coalesceOne_eq] at hj ⊢
  dsimp only at hj ⊢
  have hjoined := (dissect_spec first.version first.start (sliceRange (copyWithin buf second.start second.stop
    first.stop) first.start (first.stop + (second.stop - second.start)))).2
  -- the new spans end in the last one `dissect` made, if any, then `post`
  rcases List.eq_nil_or_concat (dissect first.version first.start (sliceRange (copyWithin buf second.start
      second.stop first.stop) first.start (first.stop + (second.stop - second.start)))) with hnil | ⟨made, last, hmade⟩
  · rw [hnil, List.append_nil] at hj ⊢
    have := bounds_of_requiresCoalesce hpre hj
    simp only [List.length_append, List.length_cons] at this ⊢
    omega
  · rw [List.concat_eq_append] at hmade
    rw [hmade, List.dropLast_concat] at hjoined
    rw [hmade, ← List.append_assoc, List.append_assoc _ [last]] at hj ⊢
    have hsettled : ∀ s ∈ pre ++ made, s.isComplete = true := by
      intro s hs
      rcases List.mem_append.mp hs with hs | hs
      · exact hpre s hs
      · exact hjoined s hs
    have := bounds_of_requiresCoalesce hsettled hj
    simp only [List.length_append, List.length_cons, List.length_nil] at this ⊢
    omega

/-! ### The loop -/

theorem coalesceLoop_of_requiresCoalesce_eq_none {d : HandshakeDeframer} (h : d.requiresCoalesce = none)
    (fuel : Nat) (buf : List UInt8) : coalesceLoop fuel d buf = (d, buf) := by
  cases fuel with
  | zero => rfl
  | succ fuel => simp only [coalesceLoop, h]

theorem coalesceLoop_succ_of_requiresCoalesce_eq_some {d : HandshakeDeframer} {i : Nat}
    (h : d.requiresCoalesce = some i) (fuel : Nat) (buf : List UInt8) :
    coalesceLoop (fuel + 1) d buf = coalesceLoop fuel (d.coalesceOne i buf).1 (d.coalesceOne i buf).2 := by
  simp only [coalesceLoop, h]

/-- Rounds run on from where earlier rounds stopped. -/
theorem coalesceLoop_add (m k : Nat) (d : HandshakeDeframer) (buf : List UInt8) :
    coalesceLoop (m + k) d buf = coalesceLoop k (coalesceLoop m d buf).1 (coalesceLoop m d buf).2 := by
  induction m generalizing d buf with
  | zero => rw [Nat.zero_add]; rfl
  | succ m ih =>
    rw [Nat.add_right_comm]
    cases h : d.requiresCoalesce with
    | none =>
      rw [coalesceLoop_of_requiresCoalesce_eq_none h, coalesceLoop_of_requiresCoalesce_eq_none h,
        coalesceLoop_of_requiresCoalesce_eq_none h]
    | some i =>
      rw [coalesceLoop_succ_of_requiresCoalesce_eq_some h, coalesceLoop_succ_of_requiresCoalesce_eq_some h, ih]

/-- **Every run of rounds keeps the spans placed, and the bytes they cover.** -/
theorem keeps_coalesceLoop (fuel : Nat) :
    ∀ {d : HandshakeDeframer} {buf : List UInt8}, Placed buf.length d.spans → Keeps buf d (coalesceLoop fuel d buf) := by
  induction fuel with
  | zero => intro d buf hplaced; exact Keeps.refl hplaced
  | succ fuel ih =>
    intro d buf hplaced
    cases h : d.requiresCoalesce with
    | none =>
      rw [coalesceLoop_of_requiresCoalesce_eq_none h]
      exact Keeps.refl hplaced
    | some i =>
      rw [coalesceLoop_succ_of_requiresCoalesce_eq_some h]
      have hround := keeps_coalesceOne_of_requiresCoalesce h hplaced
      exact hround.trans (ih hround.placed)

/-- **Enough rounds end the loop**: with more rounds than spans are left after
the first incomplete one, the loop stops where no span but the last is
incomplete. -/
theorem requiresCoalesce_coalesceLoop (fuel : Nat) :
    ∀ {d : HandshakeDeframer} {buf : List UInt8},
      (∀ i, d.requiresCoalesce = some i → d.spans.length - i - 1 < fuel) →
        (coalesceLoop fuel d buf).1.requiresCoalesce = none := by
  induction fuel with
  | zero =>
    intro d buf hfuel
    cases h : d.requiresCoalesce with
    | none => exact h
    | some i => exact absurd (hfuel i h) (Nat.not_lt_zero _)
  | succ fuel ih =>
    intro d buf hfuel
    cases h : d.requiresCoalesce with
    | none =>
      rw [coalesceLoop_of_requiresCoalesce_eq_none h]
      exact h
    | some i =>
      rw [coalesceLoop_succ_of_requiresCoalesce_eq_some h]
      apply ih
      intro j hj
      have hlt := pending_coalesceOne_lt h buf hj
      have hbound := hfuel i h
      omega

/-- A span declares a body too large when its size is above
`MAX_HANDSHAKE_SIZE`; a span with no size yet declares none. -/
theorem size_getD_gt_iff (s : FragmentSpan) :
    s.size.getD 0 > maxHandshakeSize ↔ ∃ size, s.size = some size ∧ maxHandshakeSize < size := by
  cases s.size with
  | none => simp [maxHandshakeSize]
  | some size => simp

theorem coalesce_eq (d : HandshakeDeframer) (buf : List UInt8) :
    d.coalesce buf =
      if (coalesceLoop d.spans.length d buf).1.spans.any (fun span => span.size.getD 0 > maxHandshakeSize) then
        .error .handshakePayloadTooLarge
      else .ok (coalesceLoop d.spans.length d buf) :=
  rfl

/-- The deframer of the example in `coalesce`'s documentation: a message of
nine body bytes whose header and first three bytes are in one record, and
whose other six bytes are in the next. -/
def twoFragmentDeframer : HandshakeDeframer :=
  ⟨[⟨.tlsv1_3, some 9, 5, 12⟩, ⟨.tlsv1_3, none, 17, 23⟩], 26⟩

/-- The buffer of that example: two records' headers and payloads. -/
def twoFragmentBuffer : List UInt8 :=
  [22, 3, 3, 0, 7, 1, 0, 0, 9, 1, 2, 3, 22, 3, 3, 0, 6, 4, 5, 6, 7, 8, 9, 0, 0, 0]

/-- **`coalesce` ends, and restores what the deframer relies on.**  For spans
placed in the buffer, the loop stops within as many rounds as there are spans
(more rounds change nothing).  Then every span but the last is complete, the
spans are still placed in the buffer, which keeps its length, the bytes they
cover, read in order, are the bytes the spans covered before, and the result
is an error exactly when a span declares a body above `MAX_HANDSHAKE_SIZE`. -/
theorem coalesce_restores_spans (d : HandshakeDeframer) (buf : List UInt8) (hplaced : Placed buf.length d.spans) :
    (∀ fuel, d.spans.length ≤ fuel → coalesceLoop fuel d buf = coalesceLoop d.spans.length d buf) ∧
      (∀ s ∈ (coalesceLoop d.spans.length d buf).1.spans.dropLast, s.isComplete = true) ∧
      Placed (coalesceLoop d.spans.length d buf).2.length (coalesceLoop d.spans.length d buf).1.spans ∧
      (coalesceLoop d.spans.length d buf).2.length = buf.length ∧
      covered (coalesceLoop d.spans.length d buf).2 (coalesceLoop d.spans.length d buf).1.spans =
        covered buf d.spans ∧
      ((∃ s ∈ (coalesceLoop d.spans.length d buf).1.spans, ∃ size, s.size = some size ∧ maxHandshakeSize < size) →
        d.coalesce buf = .error .handshakePayloadTooLarge) ∧
      ((¬∃ s ∈ (coalesceLoop d.spans.length d buf).1.spans, ∃ size, s.size = some size ∧ maxHandshakeSize < size) →
        d.coalesce buf = .ok (coalesceLoop d.spans.length d buf)) := by
  have hdone : (coalesceLoop d.spans.length d buf).1.requiresCoalesce = none :=
    requiresCoalesce_coalesceLoop d.spans.length fun i hi => by
      have := lt_length_of_requiresCoalesce hi
      omega
  have hkeeps := keeps_coalesceLoop d.spans.length hplaced
  refine ⟨?_, ?_, hkeeps.placed, hkeeps.length_eq, hkeeps.covered_eq, ?_, ?_⟩
  · -- the rounds past the first `d.spans.length` find nothing to do
    intro fuel hfuel
    obtain ⟨k, rfl⟩ := Nat.exists_eq_add_of_le hfuel
    rw [coalesceLoop_add, coalesceLoop_of_requiresCoalesce_eq_none hdone]
  · intro s hs
    simpa using List.findIdx?_eq_none_iff.mp hdone s hs
  · rintro ⟨s, hs, hsize⟩
    rw [coalesce_eq, if_pos (List.any_eq_true.mpr ⟨s, hs, decide_eq_true ((size_getD_gt_iff s).mpr hsize)⟩)]
  · intro hfits
    rw [coalesce_eq, if_neg]
    intro hany
    obtain ⟨s, hs, hgt⟩ := List.any_eq_true.mp hany
    exact hfits ⟨s, hs, (size_getD_gt_iff s).mp (of_decide_eq_true hgt)⟩

theorem coalesce_restores_spans_of_two_fragments :
    Placed twoFragmentBuffer.length twoFragmentDeframer.spans ∧
      (∀ fuel, twoFragmentDeframer.spans.length ≤ fuel →
        coalesceLoop fuel twoFragmentDeframer twoFragmentBuffer =
          coalesceLoop twoFragmentDeframer.spans.length twoFragmentDeframer twoFragmentBuffer) ∧
      (∀ s ∈ (coalesceLoop twoFragmentDeframer.spans.length twoFragmentDeframer twoFragmentBuffer).1.spans.dropLast,
        s.isComplete = true) ∧
      Placed (coalesceLoop twoFragmentDeframer.spans.length twoFragmentDeframer twoFragmentBuffer).2.length
        (coalesceLoop twoFragmentDeframer.spans.length twoFragmentDeframer twoFragmentBuffer).1.spans ∧
      (coalesceLoop twoFragmentDeframer.spans.length twoFragmentDeframer twoFragmentBuffer).2.length =
        twoFragmentBuffer.length ∧
      covered (coalesceLoop twoFragmentDeframer.spans.length twoFragmentDeframer twoFragmentBuffer).2
          (coalesceLoop twoFragmentDeframer.spans.length twoFragmentDeframer twoFragmentBuffer).1.spans =
        covered twoFragmentBuffer twoFragmentDeframer.spans ∧
      ((∃ s ∈ (coalesceLoop twoFragmentDeframer.spans.length twoFragmentDeframer twoFragmentBuffer).1.spans,
          ∃ size, s.size = some size ∧ maxHandshakeSize < size) →
        twoFragmentDeframer.coalesce twoFragmentBuffer = .error .handshakePayloadTooLarge) ∧
      ((¬∃ s ∈ (coalesceLoop twoFragmentDeframer.spans.length twoFragmentDeframer twoFragmentBuffer).1.spans,
          ∃ size, s.size = some size ∧ maxHandshakeSize < size) →
        twoFragmentDeframer.coalesce twoFragmentBuffer =
          .ok (coalesceLoop twoFragmentDeframer.spans.length twoFragmentDeframer twoFragmentBuffer)) := by
  have hplaced : Placed twoFragmentBuffer.length twoFragmentDeframer.spans :=
    ⟨by decide, by decide, by decide⟩
  exact ⟨hplaced, coalesce_restores_spans twoFragmentDeframer twoFragmentBuffer hplaced⟩

example : (coalesceLoop 2 twoFragmentDeframer twoFragmentBuffer).1.spans = [⟨.tlsv1_3, some 9, 5, 18⟩] := by
  decide +kernel

/-- **`input_message` places what it adds**: the payload of a record that lies
in the buffer after every span held is added as spans placed in the buffer. -/
theorem placed_inputMessage {d : HandshakeDeframer} {len : Nat} (hplaced : Placed len d.spans)
    (version : ProtocolVersion) {payloadStart : Nat} (payload : List UInt8) (outerDiscard : Nat)
    (hafter : ∀ s ∈ d.spans, s.stop ≤ payloadStart) (hwithin : payloadStart + payload.length ≤ len) :
    Placed len (d.inputMessage version payloadStart payload outerDiscard).spans := by
  -- either way the new spans cover the payload's range end to end
  have hcontinued : Tiles payloadStart (payloadStart + payload.length)
      [⟨version, none, payloadStart, payloadStart + payload.length⟩] :=
    ⟨rfl, Nat.le_add_right _ _, rfl⟩
  have hdissected := (dissect_spec version payloadStart payload).1
  unfold inputMessage
  split
  · exact hplaced.append (hcontinued.placed hwithin)
      fun s hs t ht => Nat.le_trans (hafter s hs) (hcontinued.mem_bounds t ht).1
  · exact hplaced.append (hdissected.placed hwithin)
      fun s hs t ht => Nat.le_trans (hafter s hs) (hdissected.mem_bounds t ht).1

end HandshakeDeframer

end Rustls
