import Rustls.Msgs.Certificate
import Rustls.Lib.Recency

/-!
`CompressionCache` of `compress.rs`: compressed TLS 1.3 certificate messages
kept for reuse, in a deque of at most `size` entries with the most recently
used at the back.

`compression_for` compresses a message with a request context at the
`Interactive` level and leaves the cache alone: the context belongs to one
connection.  So it does every message when the size is zero.  Otherwise the
caller takes the lock and looks for an entry of the same algorithm and
encoding; a hit is moved to the back and returned.  On a miss the caller drops
the lock, compresses at the `Amortized` level, takes the lock again, pops the
front if the deque holds `size` entries, and pushes the new entry.  The
uncompressed length in the entry is the encoding's length cast `as u32`.

Another caller may run between the two sections, so the model has two levels.
`compressionFor` is one caller's call as the code reads, and `Lru` is what a
run of one caller's calls keeps (`lru_runTimed`).  `next` is a step of one of
many callers, each section under the lock taken at once, and a call is such
steps with no other caller in between (`compressionForImpl_steps`).  Every
interleaving keeps at most `size` entries (`length_le_of_reachable`); two
callers that miss on one message both insert it, so only a single caller
keeps one entry for each algorithm and encoding.

The lock's poisoning, which becomes `CompressionFailed`, is left out: no
section of the cache panics while it holds the lock.
-/

namespace Rustls

/-- `CertificateCompressionAlgorithm`, by its code point. -/
structure CertificateCompressionAlgorithm where
  value : UInt16
  deriving DecidableEq, Repr

/-- `CertificateCompressionAlgorithm::Zlib`. -/
def CertificateCompressionAlgorithm.zlib : CertificateCompressionAlgorithm := ⟨0x0001⟩

/-- `CompressionLevel`. -/
inductive CompressionLevel
  | interactive
  | amortized
  deriving DecidableEq, Repr

/-- `CompressionFailed`. -/
structure CompressionFailed where
  deriving DecidableEq, Repr

/-- `CertCompressor`: its algorithm, and `compress` as a function of the input
and the level. -/
structure CertCompressor where
  algorithm : CertificateCompressionAlgorithm
  compress : List UInt8 → CompressionLevel → Except CompressionFailed (List UInt8)

/-- `CompressedCertificatePayload`. -/
structure CompressedCertificatePayload where
  alg : CertificateCompressionAlgorithm
  uncompressedLen : UInt32
  compressed : List UInt8
  deriving DecidableEq, Repr

/-- `CompressionCacheEntry`. -/
structure CompressionCacheEntry where
  algorithm : CertificateCompressionAlgorithm
  original : List UInt8
  compressed : CompressedCertificatePayload
  deriving DecidableEq, Repr

/-- The algorithm and the encoding of an entry, by which the probe finds it. -/
def CompressionCacheEntry.key (entry : CompressionCacheEntry) : CertificateCompressionAlgorithm × List UInt8 :=
  (entry.algorithm, entry.original)

/-- What an entry holds for an encoding: the compressor's algorithm, the
encoding's length cast `as u32`, and the compressor's output at `level`. -/
def CompressionCacheEntry.Compresses (entry : CompressionCacheEntry) (compressor : CertCompressor)
    (encoding : List UInt8) (level : CompressionLevel) : Prop :=
  ∃ compressed, compressor.compress encoding level = .ok compressed ∧
    entry.compressed = ⟨compressor.algorithm, UInt32.ofNat encoding.length, compressed⟩

/-- `CompressionCacheInner`: the size, and the deque behind the lock. -/
structure CompressionCacheInner where
  size : Nat
  entries : List CompressionCacheEntry
  deriving DecidableEq, Repr

/-- `CompressionCache`. -/
inductive CompressionCache
  | disabled
  | enabled (inner : CompressionCacheInner)
  deriving DecidableEq, Repr

namespace CompressionCache

/-- `CompressionCache::new`. -/
def new (size : Nat) : CompressionCache :=
  if size = 0 then .disabled else .enabled ⟨size, []⟩

/-- `uncached_compression`. -/
def uncachedCompression (compressor : CertCompressor) (original : CertificatePayloadTls13) :
    Except CompressionFailed CompressionCacheEntry :=
  let algorithm := compressor.algorithm
  let encoding := original.encode
  let uncompressedLen := UInt32.ofNat encoding.length
  -- the entry never makes it into the cache, so `original` is left empty
  (compressor.compress encoding .interactive).map fun compressed =>
    ⟨algorithm, [], ⟨algorithm, uncompressedLen, compressed⟩⟩

/-- The cache probe, under the lock: the first entry of the algorithm and the
encoding is removed and pushed at the back. -/
def probe (entries : List CompressionCacheEntry) (algorithm : CertificateCompressionAlgorithm)
    (encoding : List UInt8) : Option (CompressionCacheEntry × List CompressionCacheEntry) :=
  match entries.findIdx? fun item => item.algorithm == algorithm && item.original == encoding with
  | some i => entries[i]?.map fun item => (item, entries.eraseIdx i ++ [item])
  | none => none

/-- The compression after a miss, outside the lock. -/
def compressNew (compressor : CertCompressor) (encoding : List UInt8) :
    Except CompressionFailed CompressionCacheEntry :=
  let algorithm := compressor.algorithm
  let uncompressedLen := UInt32.ofNat encoding.length
  (compressor.compress encoding .amortized).map fun compressed =>
    ⟨algorithm, encoding, ⟨algorithm, uncompressedLen, compressed⟩⟩

/-- The insertion, under the lock again: the front is popped when the deque
holds `max_size` entries. -/
def insertNew (maxSize : Nat) (entries : List CompressionCacheEntry) (newEntry : CompressionCacheEntry) :
    List CompressionCacheEntry :=
  (if entries.length = maxSize then entries.tail else entries) ++ [newEntry]

/-- `compression_for_impl`. -/
def compressionForImpl (inner : CompressionCacheInner) (compressor : CertCompressor)
    (original : CertificatePayloadTls13) :
    Except CompressionFailed CompressionCacheEntry × CompressionCacheInner :=
  if original.context ≠ [] then (uncachedCompression compressor original, inner)
  else
    let encoding := original.encode
    match probe inner.entries compressor.algorithm encoding with
    | some (item, entries) => (.ok item, { inner with entries })
    | none =>
      match compressNew compressor encoding with
      | .ok newEntry => (.ok newEntry, { inner with entries := insertNew inner.size inner.entries newEntry })
      | .error e => (.error e, inner)

/-- `compression_for`. -/
def compressionFor : CompressionCache → CertCompressor → CertificatePayloadTls13 →
    Except CompressionFailed CompressionCacheEntry × CompressionCache
  | .disabled, compressor, original => (uncachedCompression compressor original, .disabled)
  | .enabled inner, compressor, original =>
    let r := compressionForImpl inner compressor original
    (r.1, .enabled r.2)

/-! ### The sections of a call -/

theorem matches_iff (item : CompressionCacheEntry) (algorithm : CertificateCompressionAlgorithm)
    (encoding : List UInt8) :
    (item.algorithm == algorithm && item.original == encoding) = true ↔ item.key = (algorithm, encoding) := by
  simp [CompressionCacheEntry.key]

/-- A hit is the first entry of the algorithm and the encoding, moved from
its place to the back. -/
theorem probe_eq_some {entries entries' : List CompressionCacheEntry} {algorithm : CertificateCompressionAlgorithm}
    {encoding : List UInt8} {item : CompressionCacheEntry}
    (h : probe entries algorithm encoding = some (item, entries')) :
    ∃ pre post, entries = pre ++ item :: post ∧ item.key = (algorithm, encoding) ∧
      (∀ x ∈ pre, x.key ≠ (algorithm, encoding)) ∧ entries' = pre ++ post ++ [item] := by
  unfold probe at h
  split at h
  · rename_i i hi
    obtain ⟨hlt, hmatch, hfirst⟩ := List.findIdx?_eq_some_iff_getElem.mp hi
    rw [List.getElem?_eq_getElem hlt, Option.map_some, Option.some.injEq, Prod.mk.injEq] at h
    obtain ⟨rfl, rfl⟩ := h
    refine ⟨entries.take i, entries.drop (i + 1), ?_, (matches_iff _ _ _).mp hmatch, ?_, ?_⟩
    · rw [List.getElem_cons_drop hlt, List.take_append_drop]
    · intro x hx hkey
      obtain ⟨j, hj, rfl⟩ := List.mem_take_iff_getElem.mp hx
      exact hfirst j (by omega) ((matches_iff _ _ _).mpr hkey)
    · rw [List.eraseIdx_eq_take_drop_succ]
  · cases h

/-- A miss: no entry has the algorithm and the encoding. -/
theorem probe_eq_none {entries : List CompressionCacheEntry} {algorithm : CertificateCompressionAlgorithm}
    {encoding : List UInt8} (h : probe entries algorithm encoding = none) :
    ∀ x ∈ entries, x.key ≠ (algorithm, encoding) := by
  unfold probe at h
  split at h
  · rename_i i hi
    obtain ⟨hlt, -, -⟩ := List.findIdx?_eq_some_iff_getElem.mp hi
    rw [List.getElem?_eq_getElem hlt] at h
    cases h
  · rename_i hi
    intro x hx hkey
    have hno := List.findIdx?_eq_none_iff.mp hi x hx
    rw [(matches_iff _ _ _).mpr hkey] at hno
    cases hno

theorem probe_nil (algorithm : CertificateCompressionAlgorithm) (encoding : List UInt8) :
    probe [] algorithm encoding = none := rfl

theorem length_probe {entries entries' : List CompressionCacheEntry} {algorithm : CertificateCompressionAlgorithm}
    {encoding : List UInt8} {item : CompressionCacheEntry}
    (h : probe entries algorithm encoding = some (item, entries')) : entries'.length = entries.length := by
  obtain ⟨pre, post, rfl, -, -, rfl⟩ := probe_eq_some h
  simp only [List.length_append, List.length_cons, List.length_nil]
  omega

theorem compressNew_eq_ok {compressor : CertCompressor} {encoding : List UInt8} {newEntry : CompressionCacheEntry} :
    compressNew compressor encoding = .ok newEntry ↔
      ∃ compressed, compressor.compress encoding .amortized = .ok compressed ∧
        newEntry = ⟨compressor.algorithm, encoding, ⟨compressor.algorithm, UInt32.ofNat encoding.length, compressed⟩⟩ := by
  unfold compressNew
  dsimp only
  cases compressor.compress encoding .amortized <;> simp [Except.map, eq_comm]

/-- A new entry is the compression of its encoding, under its algorithm. -/
theorem compresses_of_compressNew {compressor : CertCompressor} {encoding : List UInt8}
    {newEntry : CompressionCacheEntry} (h : compressNew compressor encoding = .ok newEntry) :
    newEntry.key = (compressor.algorithm, encoding) ∧ newEntry.Compresses compressor encoding .amortized := by
  obtain ⟨compressed, hc, rfl⟩ := compressNew_eq_ok.mp h
  exact ⟨rfl, compressed, hc, rfl⟩

theorem compresses_of_uncachedCompression {compressor : CertCompressor} {original : CertificatePayloadTls13}
    {entry : CompressionCacheEntry} (h : uncachedCompression compressor original = .ok entry) :
    entry.Compresses compressor original.encode .interactive := by
  unfold uncachedCompression at h
  dsimp only at h
  cases hc : compressor.compress original.encode .interactive with
  | error e => rw [hc] at h; cases h
  | ok compressed =>
    rw [hc] at h
    cases h
    exact ⟨compressed, hc, rfl⟩

/-- The insertion keeps part of the deque, in order, and puts the new entry
behind it. -/
theorem insertNew_eq (maxSize : Nat) (entries : List CompressionCacheEntry) (newEntry : CompressionCacheEntry) :
    ∃ l, l.Sublist entries ∧ insertNew maxSize entries newEntry = l ++ [newEntry] := by
  unfold insertNew
  split
  · exact ⟨entries.tail, List.tail_sublist entries, rfl⟩
  · exact ⟨entries, List.Sublist.refl entries, rfl⟩

/-- On a full deque the front goes. -/
theorem insertNew_of_length_eq {maxSize : Nat} {entries : List CompressionCacheEntry} (h : entries.length = maxSize)
    (newEntry : CompressionCacheEntry) : insertNew maxSize entries newEntry = entries.tail ++ [newEntry] := by
  rw [insertNew, if_pos h]

theorem length_insertNew_le {maxSize : Nat} (hpos : 0 < maxSize) {entries : List CompressionCacheEntry}
    (h : entries.length ≤ maxSize) (newEntry : CompressionCacheEntry) :
    (insertNew maxSize entries newEntry).length ≤ maxSize := by
  unfold insertNew
  split
  · rw [List.length_append, List.length_tail, List.length_singleton]
    omega
  · rename_i hne
    rw [List.length_append, List.length_singleton]
    omega

/-- What one call of `compression_for_impl` does, by the path it takes. -/
inductive Outcome (compressor : CertCompressor) (original : CertificatePayloadTls13) (inner : CompressionCacheInner) :
    Except CompressionFailed CompressionCacheEntry × CompressionCacheInner → Prop
  /-- A message with a context is compressed apart from the cache. -/
  | uncached (hctx : original.context ≠ []) :
      Outcome compressor original inner (uncachedCompression compressor original, inner)
  /-- A hit: the first entry of the algorithm and the encoding moves to the
  back and is returned. -/
  | hit (pre post : List CompressionCacheEntry) (item : CompressionCacheEntry) (hctx : original.context = [])
      (hentries : inner.entries = pre ++ item :: post) (hkey : item.key = (compressor.algorithm, original.encode))
      (hfirst : ∀ x ∈ pre, x.key ≠ (compressor.algorithm, original.encode)) :
      Outcome compressor original inner (.ok item, { inner with entries := pre ++ post ++ [item] })
  /-- A miss that the compressor fails: the cache is left as it was. -/
  | failed (e : CompressionFailed) (hctx : original.context = [])
      (hmiss : ∀ x ∈ inner.entries, x.key ≠ (compressor.algorithm, original.encode))
      (hcompress : compressNew compressor original.encode = .error e) :
      Outcome compressor original inner (.error e, inner)
  /-- A miss: the new entry is inserted and returned. -/
  | inserted (newEntry : CompressionCacheEntry) (hctx : original.context = [])
      (hmiss : ∀ x ∈ inner.entries, x.key ≠ (compressor.algorithm, original.encode))
      (hcompress : compressNew compressor original.encode = .ok newEntry) :
      Outcome compressor original inner
        (.ok newEntry, { inner with entries := insertNew inner.size inner.entries newEntry })

/-- **Every call takes one of the four paths.** -/
theorem outcome_compressionForImpl (inner : CompressionCacheInner) (compressor : CertCompressor)
    (original : CertificatePayloadTls13) :
    Outcome compressor original inner (compressionForImpl inner compressor original) := by
  unfold compressionForImpl
  by_cases hctx : original.context = []
  · rw [if_neg (not_not_intro hctx)]
    dsimp only
    cases hp : probe inner.entries compressor.algorithm original.encode with
    | some r =>
      obtain ⟨item, entries⟩ := r
      obtain ⟨pre, post, hentries, hkey, hfirst, rfl⟩ := probe_eq_some hp
      exact .hit pre post item hctx hentries hkey hfirst
    | none =>
      have hmiss := probe_eq_none hp
      cases hc : compressNew compressor original.encode with
      | ok newEntry => exact .inserted newEntry hctx hmiss hc
      | error e => exact .failed e hctx hmiss hc
  · rw [if_pos hctx]
    exact .uncached hctx

/-! ### One caller's calls -/

/-- What a single caller's calls keep: the deque holds at most `size`
entries, one at most for each algorithm and encoding, each the compressor's
output for its encoding, in the order of their last use before step `t`. -/
structure Lru (compressor : CertCompressor) (inner : CompressionCacheInner)
    (used : CertificateCompressionAlgorithm × List UInt8 → Nat) (t : Nat) : Prop where
  /-- `new` makes a cache only for a positive size. -/
  size_pos : 0 < inner.size
  length_le : inner.entries.length ≤ inner.size
  nodup : (inner.entries.map CompressionCacheEntry.key).Nodup
  /-- Every entry was made by `compressNew` from its own encoding. -/
  made : ∀ e ∈ inner.entries, compressNew compressor e.original = .ok e
  recent : inner.entries.Recent CompressionCacheEntry.key used t

/-- When each algorithm and encoding was last used, after a call at step `t`:
a call without a context uses its own, by a hit or by a new entry. -/
def touch (compressor : CertCompressor) (original : CertificatePayloadTls13)
    (used : CertificateCompressionAlgorithm × List UInt8 → Nat) (t : Nat) :
    CertificateCompressionAlgorithm × List UInt8 → Nat :=
  if original.context = [] then Function.update used (compressor.algorithm, original.encode) t else used

/-- A run of one caller's calls with one compressor from step `t` on, with
the step at which each algorithm and encoding was last used. -/
def runTimed (compressor : CertCompressor) :
    CompressionCache → (CertificateCompressionAlgorithm × List UInt8 → Nat) → Nat →
      List CertificatePayloadTls13 → CompressionCache × (CertificateCompressionAlgorithm × List UInt8 → Nat)
  | c, used, _, [] => (c, used)
  | c, used, t, original :: calls =>
    runTimed compressor (compressionFor c compressor original).2 (touch compressor original used t) (t + 1) calls

/-- A message with a context leaves the cache as it was. -/
theorem compressionFor_of_context_ne_nil (c : CompressionCache) (compressor : CertCompressor)
    {original : CertificatePayloadTls13} (hctx : original.context ≠ []) :
    compressionFor c compressor original = (uncachedCompression compressor original, c) := by
  cases c with
  | disabled => rfl
  | enabled inner =>
    have himpl : compressionForImpl inner compressor original = (uncachedCompression compressor original, inner) := by
      rw [compressionForImpl, if_pos hctx]
    simp only [compressionFor, himpl]

theorem new_of_pos {n : Nat} (hn : 0 < n) : new n = .enabled ⟨n, []⟩ := by
  rw [new, if_neg (Nat.pos_iff_ne_zero.mp hn)]

/-- The first call on a new cache, for a message without a context,
returns the new entry. -/
theorem compressionFor_new {n : Nat} (hn : 0 < n) {compressor : CertCompressor}
    {original : CertificatePayloadTls13} (hctx : original.context = []) {newEntry : CompressionCacheEntry}
    (hcompress : compressNew compressor original.encode = .ok newEntry) :
    (compressionFor (new n) compressor original).1 = .ok newEntry := by
  rw [new_of_pos hn]
  show (compressionForImpl ⟨n, []⟩ compressor original).1 = _
  rw [compressionForImpl, if_neg (not_not_intro hctx)]
  dsimp only
  rw [probe_nil]
  dsimp only
  rw [hcompress]

theorem lru_new {n : Nat} (hn : 0 < n) (compressor : CertCompressor) :
    Lru compressor ⟨n, []⟩ (fun _ => 0) 0 :=
  ⟨hn, Nat.zero_le n, List.nodup_nil, fun _ h => absurd h List.not_mem_nil, List.recent_nil _ _ 0⟩

section Single

variable {compressor : CertCompressor} {inner : CompressionCacheInner}
  {used : CertificateCompressionAlgorithm × List UInt8 → Nat} {t : Nat}

/-- Entries apart from one have other keys than it. -/
theorem Lru.key_ne_of_eq_append (h : Lru compressor inner used t) {pre post : List CompressionCacheEntry}
    {item : CompressionCacheEntry} (hentries : inner.entries = pre ++ item :: post) :
    ∀ a ∈ pre ++ post, a.key ≠ item.key := by
  have hperm : (inner.entries.map CompressionCacheEntry.key).Perm ((item :: (pre ++ post)).map CompressionCacheEntry.key) := by
    rw [hentries]
    exact List.perm_middle.map _
  have hnodup := (hperm.nodup_iff.mp h.nodup)
  rw [List.map_cons, List.nodup_cons] at hnodup
  intro a ha hkey
  exact hnodup.1 (hkey ▸ List.mem_map_of_mem ha)

/-- A hit keeps the invariant: the entry moves to the back, stamped now. -/
theorem Lru.hit (h : Lru compressor inner used t) {pre post : List CompressionCacheEntry}
    {item : CompressionCacheEntry} (hentries : inner.entries = pre ++ item :: post) :
    Lru compressor { inner with entries := pre ++ post ++ [item] } (Function.update used item.key t) (t + 1) := by
  have hperm : (pre ++ post ++ [item]).Perm inner.entries := by
    rw [hentries]
    exact (List.perm_append_singleton item (pre ++ post)).trans List.perm_middle.symm
  have hsub : (pre ++ post).Sublist inner.entries := by
    rw [hentries]
    exact (List.sublist_cons_self item post).append_left pre
  refine ⟨h.size_pos, ?_, ?_, ?_, ?_⟩
  · rw [hperm.length_eq]
    exact h.length_le
  · exact (hperm.map _).nodup_iff.mpr h.nodup
  · exact fun e he => h.made e (hperm.subset he)
  · exact (h.recent.sublist hsub).append_touch (h.key_ne_of_eq_append hentries)

/-- An insertion keeps the invariant: part of the deque stays, and the new
entry, stamped now, goes behind it. -/
theorem Lru.inserted (h : Lru compressor inner used t) {encoding : List UInt8} {newEntry : CompressionCacheEntry}
    (hmiss : ∀ x ∈ inner.entries, x.key ≠ (compressor.algorithm, encoding))
    (hcompress : compressNew compressor encoding = .ok newEntry) :
    Lru compressor { inner with entries := insertNew inner.size inner.entries newEntry }
      (Function.update used (compressor.algorithm, encoding) t) (t + 1) := by
  obtain ⟨hkey, -⟩ := compresses_of_compressNew hcompress
  obtain ⟨l, hsub, hins⟩ := insertNew_eq inner.size inner.entries newEntry
  have hne : ∀ a ∈ l, a.key ≠ newEntry.key := fun a ha => hkey ▸ hmiss a (hsub.subset ha)
  refine ⟨h.size_pos, length_insertNew_le h.size_pos h.length_le newEntry, ?_, ?_, ?_⟩
  · dsimp only
    rw [hins, List.map_append, List.nodup_append]
    refine ⟨h.nodup.sublist (hsub.map _), List.nodup_singleton _, ?_⟩
    intro a ha b hb
    rw [List.map_singleton, List.mem_singleton] at hb
    obtain ⟨x, hx, rfl⟩ := List.mem_map.mp ha
    rw [hb]
    exact hne x hx
  · dsimp only
    intro e he
    rw [hins, List.mem_append, List.mem_singleton] at he
    rcases he with he | rfl
    · exact h.made e (hsub.subset he)
    · have horig : e.original = encoding := congrArg Prod.snd hkey
      rw [horig]
      exact hcompress
  · dsimp only
    rw [hins, ← hkey]
    exact (h.recent.sublist hsub).append_touch hne

theorem Outcome.size {original : CertificatePayloadTls13}
    {r : Except CompressionFailed CompressionCacheEntry × CompressionCacheInner}
    (ho : Outcome compressor original inner r) : r.2.size = inner.size := by
  cases ho <;> rfl

/-- **One call keeps the invariant**, whichever path it takes. -/
theorem Lru.outcome (h : Lru compressor inner used t) {original : CertificatePayloadTls13}
    {r : Except CompressionFailed CompressionCacheEntry × CompressionCacheInner}
    (ho : Outcome compressor original inner r) : Lru compressor r.2 (touch compressor original used t) (t + 1) := by
  cases ho with
  | uncached hctx =>
    rw [touch, if_neg hctx]
    exact ⟨h.size_pos, h.length_le, h.nodup, h.made, h.recent.mono (Nat.le_succ t)⟩
  | hit pre post item hctx hentries hkey _ =>
    rw [touch, if_pos hctx, ← hkey]
    exact h.hit hentries
  | failed e hctx hmiss _ =>
    rw [touch, if_pos hctx]
    exact ⟨h.size_pos, h.length_le, h.nodup, h.made, (h.recent.update_of_not_mem hmiss t).mono (Nat.le_succ t)⟩
  | inserted newEntry hctx hmiss hcompress =>
    rw [touch, if_pos hctx]
    exact h.inserted hmiss hcompress

/-- A returned entry is the compression of the message: at the `Amortized`
level from the cache, at the `Interactive` level for a message with a
context. -/
theorem Lru.compresses_of_outcome (h : Lru compressor inner used t) {original : CertificatePayloadTls13}
    {r : Except CompressionFailed CompressionCacheEntry × CompressionCacheInner}
    (ho : Outcome compressor original inner r) {entry : CompressionCacheEntry} (hr : r.1 = .ok entry) :
    entry.Compresses compressor original.encode (if original.context = [] then .amortized else .interactive) := by
  cases ho with
  | uncached hctx =>
    rw [if_neg hctx]
    exact compresses_of_uncachedCompression hr
  | hit pre post item hctx hentries hkey _ =>
    have hie : item = entry := by injection hr
    rw [← hie]
    have hmem : item ∈ inner.entries := by
      rw [hentries]
      exact List.mem_append_right pre List.mem_cons_self
    obtain ⟨-, hcomp⟩ := compresses_of_compressNew (h.made item hmem)
    have horig : item.original = original.encode := congrArg Prod.snd hkey
    rw [if_pos hctx, ← horig]
    exact hcomp
  | failed e _ _ _ => cases hr
  | inserted newEntry hctx _ hcompress =>
    have hie : newEntry = entry := by injection hr
    rw [← hie, if_pos hctx]
    exact (compresses_of_compressNew hcompress).2

/-- A miss on a full cache evicts the front, the entry used longest ago. -/
theorem Lru.evicts_least_recent (h : Lru compressor inner used t) (hfull : inner.entries.length = inner.size)
    (newEntry : CompressionCacheEntry) :
    ∃ e₀ rest, inner.entries = e₀ :: rest ∧ insertNew inner.size inner.entries newEntry = rest ++ [newEntry] ∧
      ∀ b ∈ rest, used e₀.key < used b.key := by
  obtain ⟨e₀, rest, hentries⟩ : ∃ e₀ rest, inner.entries = e₀ :: rest := by
    cases hq : inner.entries with
    | nil =>
      have hpos := h.size_pos
      rw [hq, List.length_nil] at hfull
      omega
    | cons e₀ rest => exact ⟨e₀, rest, rfl⟩
  have hrecent := h.recent
  rw [hentries] at hrecent
  refine ⟨e₀, rest, hentries, ?_, hrecent.head_lt⟩
  rw [insertNew_of_length_eq hfull, hentries, List.tail_cons]

end Single

/-- **A run of one caller's calls keeps the invariant.** -/
theorem lru_runTimed (compressor : CertCompressor) (calls : List CertificatePayloadTls13) :
    ∀ (inner : CompressionCacheInner) (used : CertificateCompressionAlgorithm × List UInt8 → Nat) (t : Nat),
      Lru compressor inner used t →
      ∃ inner', (runTimed compressor (.enabled inner) used t calls).1 = .enabled inner' ∧
        inner'.size = inner.size ∧
        Lru compressor inner' (runTimed compressor (.enabled inner) used t calls).2 (t + calls.length) := by
  induction calls with
  | nil =>
    intro inner used t h
    exact ⟨inner, rfl, rfl, h⟩
  | cons original calls ih =>
    intro inner used t h
    have hstep := h.outcome (outcome_compressionForImpl inner compressor original)
    obtain ⟨inner', hrun, hsize, hlru⟩ := ih _ _ _ hstep
    have hsize' := (outcome_compressionForImpl inner compressor original).size
    refine ⟨inner', hrun, hsize.trans hsize', ?_⟩
    have ht : t + (original :: calls).length = t + 1 + calls.length := by
      rw [List.length_cons]
      omega
    rw [ht]
    exact hlru

/-! ### Callers in parallel -/

/-- Where a caller of `compression_for_impl` stands: between calls, after a
missed probe with the lock dropped, or holding a new entry to insert. -/
inductive Caller
  | idle
  | compressing (compressor : CertCompressor) (encoding : List UInt8)
  | inserting (newEntry : CompressionCacheEntry)

/-- An enabled cache shared by callers `0, 1, …`: the deque behind the lock,
and where each caller stands. -/
structure Shared where
  entries : List CompressionCacheEntry
  callers : Nat → Caller

/-- What a caller does next: start a call, compress after a miss, or insert. -/
inductive Action
  | call (compressor : CertCompressor) (original : CertificatePayloadTls13)
  | compress
  | insert

/-- One step of caller `t`; the probe and the insertion are each one step,
as each holds the lock throughout. -/
def next (size : Nat) (s : Shared) (t : Nat) : Action → Option Shared
  | .call compressor original =>
    match s.callers t with
    | .idle =>
      if original.context ≠ [] then some s
      else
        match probe s.entries compressor.algorithm original.encode with
        | some (_, entries) => some { s with entries }
        | none => some { s with callers := Function.update s.callers t (.compressing compressor original.encode) }
    | _ => none
  | .compress =>
    match s.callers t with
    | .compressing compressor encoding =>
      match compressNew compressor encoding with
      | .ok newEntry => some { s with callers := Function.update s.callers t (.inserting newEntry) }
      | .error _ => some { s with callers := Function.update s.callers t .idle }
    | _ => none
  | .insert =>
    match s.callers t with
    | .inserting newEntry => some ⟨insertNew size s.entries newEntry, Function.update s.callers t .idle⟩
    | _ => none

/-- The states of a cache of `size` entries that its callers reach from
`new(size)`, in any interleaving of their steps. -/
inductive Reachable (size : Nat) : Shared → Prop
  | init : Reachable size ⟨[], fun _ => .idle⟩
  | step {s s' : Shared} (h : Reachable size s) (t : Nat) (a : Action) (hstep : next size s t a = some s') :
      Reachable size s'

/-- What a step does to the deque: nothing, a hit's move to the back, or an
insertion. -/
theorem entries_next {size : Nat} {s s' : Shared} {t : Nat} {a : Action} (hstep : next size s t a = some s') :
    s'.entries = s.entries ∨
      (∃ algorithm encoding item, probe s.entries algorithm encoding = some (item, s'.entries)) ∨
      ∃ newEntry, s'.entries = insertNew size s.entries newEntry := by
  cases a with
  | call compressor original =>
    simp only [next] at hstep
    split at hstep
    · split at hstep
      · cases hstep
        exact .inl rfl
      · split at hstep
        · rename_i item entries hp
          cases hstep
          exact .inr (.inl ⟨_, _, item, hp⟩)
        · cases hstep
          exact .inl rfl
    · cases hstep
  | compress =>
    simp only [next] at hstep
    split at hstep
    · split at hstep <;> (cases hstep; exact .inl rfl)
    · cases hstep
  | insert =>
    simp only [next] at hstep
    split at hstep
    · rename_i newEntry _
      cases hstep
      exact .inr (.inr ⟨newEntry, rfl⟩)
    · cases hstep

/-- A step keeps the deque within `size`. -/
theorem length_next_le {size : Nat} (hsize : 0 < size) {s s' : Shared} {t : Nat} {a : Action}
    (hstep : next size s t a = some s') (hlen : s.entries.length ≤ size) : s'.entries.length ≤ size := by
  rcases entries_next hstep with heq | ⟨_, _, _, hp⟩ | ⟨newEntry, heq⟩
  · rw [heq]
    exact hlen
  · rw [length_probe hp]
    exact hlen
  · rw [heq]
    exact length_insertNew_le hsize hlen newEntry

/-- **Under any interleaving of callers the cache holds at most `size`
entries.** -/
theorem length_le_of_reachable {size : Nat} (hsize : 0 < size) {s : Shared} (h : Reachable size s) :
    s.entries.length ≤ size := by
  induction h with
  | init => exact Nat.zero_le size
  | step _ t a hstep ih => exact length_next_le hsize hstep ih

/-- Steps of caller `t`, one after another. -/
def runSteps (size t : Nat) : Shared → List Action → Option Shared
  | s, [] => some s
  | s, a :: as => (next size s t a).bind fun s' => runSteps size t s' as

theorem reachable_runSteps {size t : Nat} (acts : List Action) :
    ∀ {s s' : Shared}, Reachable size s → runSteps size t s acts = some s' → Reachable size s' := by
  induction acts with
  | nil =>
    intro s s' hs h
    cases h
    exact hs
  | cons a acts ih =>
    intro s s' hs h
    simp only [runSteps] at h
    cases hn : next size s t a with
    | none => rw [hn, Option.bind_none] at h; cases h
    | some s₁ =>
      rw [hn, Option.bind_some] at h
      exact ih (.step hs t a hn) h

/-- **A call is a run of the parallel model**: an idle caller that calls
`compression_for_impl` and meets no other caller on the way takes at most
three steps, and leaves the deque as the call does and itself idle again. -/
theorem compressionForImpl_steps {size : Nat} {s : Shared} {t : Nat} (hidle : s.callers t = .idle)
    (compressor : CertCompressor) (original : CertificatePayloadTls13) :
    ∃ acts : List Action, acts.length ≤ 3 ∧
      runSteps size t s acts = some ⟨(compressionForImpl ⟨size, s.entries⟩ compressor original).2.entries, s.callers⟩ := by
  unfold compressionForImpl
  by_cases hctx : original.context = []
  · rw [if_neg (not_not_intro hctx)]
    dsimp only
    cases hp : probe s.entries compressor.algorithm original.encode with
    | some r =>
      refine ⟨[.call compressor original], by simp, ?_⟩
      simp only [runSteps, next, hidle, hctx, hp, ne_eq, not_true_eq_false, if_false, Option.bind_some]
    | none =>
      cases hc : compressNew compressor original.encode with
      | ok newEntry =>
        refine ⟨[.call compressor original, .compress, .insert], by simp, ?_⟩
        simp only [runSteps, next, hidle, hctx, hp, hc, ne_eq, not_true_eq_false, if_false, Option.bind_some,
          Function.update_self, Function.update_idem]
        rw [← hidle, Function.update_eq_self]
      | error e =>
        refine ⟨[.call compressor original, .compress], by simp, ?_⟩
        simp only [runSteps, next, hidle, hctx, hp, hc, ne_eq, not_true_eq_false, if_false, Option.bind_some,
          Function.update_self, Function.update_idem]
        rw [← hidle, Function.update_eq_self]
  · rw [if_pos hctx]
    refine ⟨[.call compressor original], by simp, ?_⟩
    simp only [runSteps, next, hidle, hctx, ne_eq, not_false_eq_true, if_true, Option.bind_some]

theorem length_encode_single (cert : List UInt8) :
    (CertificatePayloadTls13.encode ⟨[], [⟨cert, []⟩]⟩).length = cert.length + 9 := by
  rw [CertificatePayloadTls13.length_encode, List.flatMap_cons, List.flatMap_nil, List.append_nil,
    CertificateEntry.length_encode, List.flatMap_nil]
  simp only [List.length_nil]
  omega

end CompressionCache

end Rustls
