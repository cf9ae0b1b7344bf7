import Rustls.LimitedCache

/-!
`ServerSessionMemoryCache` of `server/handy.rs`: the server's store of
sessions to resume, a `LimitedCache` from session ids and tickets to encoded
session values, made with the size the caller gives.

`put` is `LimitedCache::insert`, `get` is `get` and `take` is `remove`.  The
`Mutex` around the cache is left out: every operation holds it throughout, so
the operations are the steps of the store.  It stands in the namespace
`Handy`, beside the store of sessions by ticket that the TLS 1.3 handshake
model reads and takes from.

The documentation of `new` says `size` is the maximum number of stored
sessions.  The cache's deque is made with exactly that capacity, and an
insertion evicts as soon as the deque is full after it, so a run of puts of
distinct keys keeps the last `size - 1` of them (`get_putAll_new`), and a
store of size one keeps nothing.
-/

namespace Rustls

namespace Handy

/-- `ServerSessionMemoryCache`. -/
structure ServerSessionMemoryCache where
  cache : LimitedCache (List UInt8) (List UInt8)

namespace ServerSessionMemoryCache

/-- `ServerSessionMemoryCache::new`. -/
def new (size : Nat) : ServerSessionMemoryCache :=
  ⟨LimitedCache.new size⟩

/-- `put`: the session is inserted, and the answer is always `true`. -/
def put (s : ServerSessionMemoryCache) (key value : List UInt8) : Bool × ServerSessionMemoryCache :=
  (true, ⟨s.cache.insert key value⟩)

/-- `get`. -/
def get (s : ServerSessionMemoryCache) (key : List UInt8) : Option (List UInt8) :=
  s.cache.get key

/-- `take`. -/
def take (s : ServerSessionMemoryCache) (key : List UInt8) : Option (List UInt8) × ServerSessionMemoryCache :=
  ((s.cache.remove key).1, ⟨(s.cache.remove key).2⟩)

/-- A run of `put` calls, with nothing taken in between. -/
def putAll (s : ServerSessionMemoryCache) (puts : List (List UInt8 × List UInt8)) :
    ServerSessionMemoryCache :=
  puts.foldl (fun s kv => (s.put kv.1 kv.2).2) s

/-- Puts of keys not used before keep the store holding the last
`size - 1` of all the puts. -/
theorem holds_putAll (puts : List (List UInt8 × List UInt8)) :
    ∀ (s : ServerSessionMemoryCache) (pre : List (List UInt8 × List UInt8)), s.cache.Holds pre →
      1 ≤ s.cache.capacity → ((pre ++ puts).map Prod.fst).Nodup →
      (s.putAll puts).cache.Holds (pre ++ puts) ∧ (s.putAll puts).cache.capacity = s.cache.capacity := by
  induction puts with
  | nil => intro s pre h _ _; rw [List.append_nil]; exact ⟨h, rfl⟩
  | cons kv puts ih =>
    intro s pre h hcap hnodup
    have hnodup' : ((pre ++ [kv] ++ puts).map Prod.fst).Nodup := by
      rw [List.append_assoc, List.singleton_append]
      exact hnodup
    -- the keys put before are distinct, and the key put now is not one of them
    have hnd := hnodup
    rw [List.map_append, List.nodup_append] at hnd
    have hnew : kv.1 ∉ pre.map Prod.fst := fun hm => hnd.2.2 kv.1 hm kv.1 (by simp) rfl
    have hput : (s.put kv.1 kv.2).2.cache.Holds (pre ++ [kv]) := h.insert hcap hnd.1 hnew kv.2
    have hcap' : (s.put kv.1 kv.2).2.cache.capacity = s.cache.capacity :=
      LimitedCache.capacity_getOrInsertDefaultAndEdit _ _ _
    obtain ⟨hholds, hcapacity⟩ := ih _ _ hput (by rw [hcap']; exact hcap) hnodup'
    rw [List.append_assoc, List.singleton_append] at hholds
    exact ⟨hholds, hcapacity.trans hcap'⟩

/-- After a run of puts of distinct keys into `new(size)`, for a positive
size, `get` finds exactly the last `size - 1` sessions put. -/
theorem get_putAll_new {size : Nat} (hsize : 1 ≤ size) {puts : List (List UInt8 × List UInt8)}
    (hputs : (puts.map Prod.fst).Nodup) (key : List UInt8) :
    ((new size).putAll puts).get key = (puts.drop (puts.length - (size - 1))).lookup key := by
  obtain ⟨hholds, hcap⟩ := holds_putAll puts (new size) [] (LimitedCache.holds_new size) hsize hputs
  rw [List.nil_append] at hholds
  rw [get, LimitedCache.get, hholds.2 key, hcap]
  -- the cache looks keys up by their `DecidableEq`, the statement by `BEq` of byte lists
  congr 1
  exact lawful_beq_subsingleton _ _

/-- A store of size three given three sessions has lost the first: `get`
finds two of the three the documentation promises. -/
theorem third_put_evicts_first :
    ((new 3).putAll [([1], [1]), ([2], [2]), ([3], [3])]).get [1] = none ∧
    ((new 3).putAll [([1], [1]), ([2], [2]), ([3], [3])]).get [2] = some [2] ∧
    ((new 3).putAll [([1], [1]), ([2], [2]), ([3], [3])]).get [3] = some [3] := by
  decide

end ServerSessionMemoryCache

end Handy

end Rustls
