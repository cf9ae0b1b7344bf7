import Mathlib
import Rustls.Lib.FirstMatch

/-!
`LimitedCache` of `limited_cache.rs`: a map that never holds more keys than a
capacity, by evicting the oldest insertion.

The `HashMap` is a function from keys to optional values, updated with
`Function.update`.  The `VecDeque` of keys, oldest first, is a list, with the
capacity `VecDeque::with_capacity` gave it as a field of its own: an insertion
evicts when the deque's length has reached its capacity, so that the next
insertion needs no reallocation.  The capacity is taken to be exactly what was
asked for, and it stays so: `Valid` below gives the deque room for one more
key before every insertion, so the deque never grows.

With a capacity of one, a key just inserted is also the oldest one, and the
insertion evicts it at once: a valid cache of capacity one is always empty.
From a capacity of two on, a key just inserted is still there.
-/

namespace Rustls

/-- `LimitedCache`: the map, the keys in insertion order, oldest first, and
the capacity of that deque. -/
structure LimitedCache (K V : Type) where
  map : K → Option V
  oldest : List K
  capacity : Nat

namespace LimitedCache

variable {K V : Type} [DecidableEq K]

/-- `LimitedCache::new`. -/
def new (capacityOrderOfMagnitude : Nat) : LimitedCache K V :=
  ⟨fun _ => none, [], capacityOrderOfMagnitude⟩

/-- The end of both insertions: when the deque has reached its capacity, the
oldest key leaves it and the map. -/
def evictIfFull (c : LimitedCache K V) : LimitedCache K V :=
  if c.oldest.length = c.capacity then
    match c.oldest with
    | oldestKey :: rest => { c with map := Function.update c.map oldestKey none, oldest := rest }
    | [] => c
  else c

/-- `get_or_insert_default_and_edit`: an existing value is edited in place
without freshening its key; a new key is queued and given the edited
default, and then the deque is checked for room. -/
def getOrInsertDefaultAndEdit [Inhabited V] (c : LimitedCache K V) (k : K) (edit : V → V) :
    LimitedCache K V :=
  match c.map k with
  | some value => { c with map := Function.update c.map k (some (edit value)) }
  | none =>
    evictIfFull { c with oldest := c.oldest ++ [k], map := Function.update c.map k (some (edit default)) }

/-- `insert`: the same steps as `get_or_insert_default_and_edit`, with an edit
that puts `v`: an existing key's value is replaced without freshening the key,
a new key is queued with `v`, and then the deque is checked for room. -/
def insert [Inhabited V] (c : LimitedCache K V) (k : K) (v : V) : LimitedCache K V :=
  c.getOrInsertDefaultAndEdit k fun _ => v

/-- `get`. -/
def get (c : LimitedCache K V) (k : K) : Option V :=
  c.map k

/-- `remove`: the key leaves the map, and the deque at the first place it
holds the key. -/
def remove (c : LimitedCache K V) (k : K) : Option V × LimitedCache K V :=
  match c.map k with
  | some value => (some value, { c with map := Function.update c.map k none, oldest := c.oldest.erase k })
  | none => (none, c)

/-- `get_mut`, with what the caller does through the reference: `f` gives the
caller's result and the value it leaves behind. -/
def getMut {α : Type} (c : LimitedCache K V) (k : K) (f : V → α × V) :
    Option α × LimitedCache K V :=
  match c.map k with
  | some value => (some (f value).1, { c with map := Function.update c.map k (some (f value).2) })
  | none => (none, c)

/-! ### What each operation changes -/

@[simp] theorem capacity_evictIfFull (c : LimitedCache K V) :
    c.evictIfFull.capacity = c.capacity := by
  unfold evictIfFull
  split
  · split <;> rfl
  · rfl

@[simp] theorem capacity_getOrInsertDefaultAndEdit [Inhabited V] (c : LimitedCache K V) (k : K)
    (edit : V → V) : (c.getOrInsertDefaultAndEdit k edit).capacity = c.capacity := by
  unfold getOrInsertDefaultAndEdit
  split
  · rfl
  · rw [capacity_evictIfFull]

@[simp] theorem capacity_getMut {α : Type} (c : LimitedCache K V) (k : K) (f : V → α × V) :
    (c.getMut k f).2.capacity = c.capacity := by
  unfold getMut
  split <;> rfl

theorem getMut_of_get_eq_none {α : Type} {c : LimitedCache K V} {k : K} (f : V → α × V)
    (h : c.get k = none) : c.getMut k f = (none, c) := by
  unfold getMut
  rw [show c.map k = none from h]

theorem getMut_of_get_eq_some {α : Type} {c : LimitedCache K V} {k : K} {value : V}
    (f : V → α × V) (h : c.get k = some value) :
    c.getMut k f = (some (f value).1, { c with map := Function.update c.map k (some (f value).2) }) := by
  unfold getMut
  rw [show c.map k = some value from h]

/-! ### The invariant -/

/-- What every cache reached from `new` with a positive capacity satisfies:
the deque holds each key of the map exactly once, and has room for one more. -/
structure Valid (c : LimitedCache K V) : Prop where
  /-- No key is queued twice. -/
  nodup : c.oldest.Nodup
  /-- The queued keys are the keys of the map. -/
  isSome_iff : ∀ k, (c.map k).isSome ↔ k ∈ c.oldest
  /-- The next insertion finds room in the deque. -/
  length_lt : c.oldest.length < c.capacity

omit [DecidableEq K] in
theorem valid_new {capacity : Nat} (hcap : 0 < capacity) : (new capacity : LimitedCache K V).Valid :=
  ⟨List.nodup_nil, fun _ => by simp [new], hcap⟩

omit [DecidableEq K] in
/-- A key not in the map is not queued. -/
theorem Valid.not_mem_of_get_eq_none {c : LimitedCache K V} (h : c.Valid) {k : K}
    (hk : c.get k = none) : k ∉ c.oldest := by
  rw [← h.isSome_iff k, show c.map k = none from hk]
  exact Bool.false_ne_true

/-- Queueing a key the map does not have, with a value for it, keeps the
first two parts of the invariant and uses up at most the room there was. -/
private theorem valid_push {c : LimitedCache K V} (h : c.Valid) {k : K} (hk : c.get k = none)
    (value : V) :
    let c' : LimitedCache K V :=
      { c with oldest := c.oldest ++ [k], map := Function.update c.map k (some value) }
    c'.oldest.Nodup ∧ (∀ k', (c'.map k').isSome ↔ k' ∈ c'.oldest) ∧
      c'.oldest.length ≤ c'.capacity := by
  intro c'
  have hnotin := h.not_mem_of_get_eq_none hk
  refine ⟨?_, ?_, ?_⟩
  · show (c.oldest ++ [k]).Nodup
    rw [← List.concat_eq_append]
    exact List.Nodup.concat hnotin h.nodup
  · intro k'
    by_cases hk' : k' = k
    · subst hk'
      simp [c']
    · simp only [c', Function.update_of_ne hk', List.mem_append, List.mem_singleton, hk',
        or_false]
      exact h.isSome_iff k'
  · have := h.length_lt
    simp only [c', List.length_append, List.length_singleton]
    omega

/-- Evicting when full restores room in the deque, given the first two parts
of the invariant and a positive capacity. -/
private theorem valid_evictIfFull {c : LimitedCache K V} (hnodup : c.oldest.Nodup)
    (hsome : ∀ k, (c.map k).isSome ↔ k ∈ c.oldest) (hle : c.oldest.length ≤ c.capacity)
    (hcap : 0 < c.capacity) : c.evictIfFull.Valid := by
  unfold evictIfFull
  split
  · rename_i hfull
    split
    · rename_i oldestKey rest hq
      rw [hq] at hnodup hsome hfull
      have hnotin : oldestKey ∉ rest := (List.nodup_cons.mp hnodup).1
      refine ⟨(List.nodup_cons.mp hnodup).2, ?_, ?_⟩
      · intro k
        by_cases hk : k = oldestKey
        · subst hk
          simp [hnotin]
        · simp only [Function.update_of_ne hk]
          rw [hsome k, List.mem_cons]
          exact or_iff_right hk
      · simp only [List.length_cons] at hfull
        simp only
        omega
    · -- a full deque is not empty
      rename_i hq
      rw [hq, List.length_nil] at hfull
      omega
  · rename_i hnotfull
    exact ⟨hnodup, hsome, lt_of_le_of_ne hle hnotfull⟩

theorem Valid.getOrInsertDefaultAndEdit [Inhabited V] {c : LimitedCache K V} (h : c.Valid)
    (k : K) (edit : V → V) : (c.getOrInsertDefaultAndEdit k edit).Valid := by
  unfold LimitedCache.getOrInsertDefaultAndEdit
  split
  · -- the key is there: the map changes its value only
    rename_i value hvalue
    refine ⟨h.nodup, ?_, h.length_lt⟩
    intro k'
    by_cases hk' : k' = k
    · subst hk'
      rw [← h.isSome_iff, hvalue]
      simp
    · simp only [Function.update_of_ne hk']
      exact h.isSome_iff k'
  · rename_i hnone
    obtain ⟨hnodup, hsome, hle⟩ := valid_push h hnone (edit default)
    exact valid_evictIfFull hnodup hsome hle (lt_of_le_of_lt (Nat.zero_le _) h.length_lt)

theorem Valid.getMut {α : Type} {c : LimitedCache K V} (h : c.Valid) (k : K) (f : V → α × V) :
    (c.getMut k f).2.Valid := by
  cases hget : c.get k with
  | none =>
    rw [getMut_of_get_eq_none f hget]
    exact h
  | some value =>
    rw [getMut_of_get_eq_some f hget]
    refine ⟨h.nodup, ?_, h.length_lt⟩
    intro k'
    by_cases hk' : k' = k
    · subst hk'
      rw [← h.isSome_iff, show c.map k' = some value from hget]
      simp
    · simp only [Function.update_of_ne hk']
      exact h.isSome_iff k'

/-! ### What the cache keeps -/

theorem evictIfFull_of_length_ne {c : LimitedCache K V} (h : c.oldest.length ≠ c.capacity) :
    c.evictIfFull = c := by
  unfold evictIfFull
  rw [if_neg h]

/-- Eviction takes out the oldest key only. -/
theorem map_evictIfFull_of_head_ne {c : LimitedCache K V} {k : K} (hk : c.oldest.head? ≠ some k) :
    c.evictIfFull.map k = c.map k := by
  unfold evictIfFull
  split
  · split
    · rename_i oldestKey rest hq
      rw [hq] at hk
      have hne : k ≠ oldestKey := fun heq => hk (by rw [heq]; rfl)
      exact Function.update_of_ne hne _ _
    · rfl
  · rfl

/-- From a capacity of two on, a key just edited or inserted is there, with
its edited value. -/
theorem get_getOrInsertDefaultAndEdit [Inhabited V] {c : LimitedCache K V} (h : c.Valid)
    (hcap : 2 ≤ c.capacity) (k : K) (edit : V → V) :
    (c.getOrInsertDefaultAndEdit k edit).get k = some (edit ((c.get k).getD default)) := by
  unfold LimitedCache.getOrInsertDefaultAndEdit get
  cases hvalue : c.map k with
  | some value => simp
  | none =>
    have hnotin := h.not_mem_of_get_eq_none hvalue
    rw [Option.getD_none]
    -- the key queued last is not the oldest one, unless it is alone in a deque with room
    cases hold : c.oldest with
    | nil =>
      rw [evictIfFull_of_length_ne (by simp only [List.nil_append, List.length_singleton]; omega)]
      simp
    | cons x xs =>
      have hne : x ≠ k := fun hx => hnotin (by rw [hold, hx]; exact List.mem_cons_self)
      rw [map_evictIfFull_of_head_ne (by simp [hne])]
      simp

omit [DecidableEq K] in
/-- A valid cache of capacity one holds nothing. -/
theorem Valid.eq_new_of_capacity_eq_one {c : LimitedCache K V} (h : c.Valid)
    (hcap : c.capacity = 1) : c = new 1 := by
  have hnil : c.oldest = [] := List.eq_nil_of_length_eq_zero (by have := h.length_lt; omega)
  have hmap : c.map = fun _ => none := by
    funext k
    have hiff := h.isSome_iff k
    rw [hnil] at hiff
    simpa using hiff
  cases c
  simp only at hnil hmap hcap
  subst hnil hmap hcap
  rfl

/-- With a capacity of one, an insertion evicts the key it has just queued,
and the cache is left empty. -/
theorem getOrInsertDefaultAndEdit_new_one [Inhabited V] (k : K) (edit : V → V) :
    (new 1 : LimitedCache K V).getOrInsertDefaultAndEdit k edit = new 1 := by
  simp [LimitedCache.getOrInsertDefaultAndEdit, new, evictIfFull]

/-! ### Removing -/

theorem remove_of_get_eq_none {c : LimitedCache K V} {k : K} (h : c.get k = none) :
    c.remove k = (none, c) := by
  unfold remove
  rw [show c.map k = none from h]

theorem Valid.remove {c : LimitedCache K V} (h : c.Valid) (k : K) : (c.remove k).2.Valid := by
  cases hget : c.get k with
  | none =>
    rw [remove_of_get_eq_none hget]
    exact h
  | some value =>
    unfold LimitedCache.remove
    rw [show c.map k = some value from hget]
    refine ⟨h.nodup.erase k, ?_, Nat.lt_of_le_of_lt List.length_erase_le h.length_lt⟩
    intro k'
    rw [h.nodup.mem_erase_iff]
    by_cases hk' : k' = k
    · subst hk'
      simp
    · simp only [Function.update_of_ne hk', ne_eq, hk', not_false_eq_true, true_and]
      exact h.isSome_iff k'

/-- `remove` leaves every other key's value alone. -/
theorem map_remove_of_ne (c : LimitedCache K V) {k₀ k : K} (hk : k ≠ k₀) :
    (c.remove k₀).2.map k = c.map k := by
  unfold remove
  split
  · exact Function.update_of_ne hk _ _
  · rfl

/-- `get_mut` changes values in place: it neither adds nor takes out a key. -/
theorem isSome_map_getMut {α : Type} (c : LimitedCache K V) (k₀ k : K) (f : V → α × V) :
    ((c.getMut k₀ f).2.map k).isSome = (c.map k).isSome := by
  unfold getMut
  split
  · rename_i value hvalue
    by_cases hk : k = k₀
    · subst hk
      simp [hvalue]
    · simp only [Function.update_of_ne hk]
  · rfl

/-- With the invariant, `remove` takes the key out of the deque, wherever it is. -/
theorem Valid.oldest_remove {c : LimitedCache K V} (h : c.Valid) (k : K) :
    (c.remove k).2.oldest = c.oldest.erase k := by
  cases hget : c.get k with
  | none =>
    rw [remove_of_get_eq_none hget, List.erase_of_not_mem (h.not_mem_of_get_eq_none hget)]
  | some value =>
    unfold LimitedCache.remove
    rw [show c.map k = some value from hget]

/-! ### Runs of operations -/

/-- The operations a `LimitedCache` is given; `get_mut` with what the caller
does to the value through the reference. -/
inductive CacheOp (K V : Type)
  | insert (k : K) (v : V)
  | getOrInsertDefaultAndEdit (k : K) (edit : V → V)
  | get (k : K)
  | getMut (k : K) (edit : V → V)
  | remove (k : K)

/-- One operation. -/
def CacheOp.apply [Inhabited V] : CacheOp K V → LimitedCache K V → LimitedCache K V
  | .insert k v, c => c.insert k v
  | .getOrInsertDefaultAndEdit k edit, c => c.getOrInsertDefaultAndEdit k edit
  | .get _, c => c
  | .getMut k edit, c => (c.getMut k fun v => ((), edit v)).2
  | .remove k, c => (c.remove k).2

/-- The key an operation puts into the map, if it puts one. -/
def CacheOp.inserted? : CacheOp K V → Option K
  | .insert k _ => some k
  | .getOrInsertDefaultAndEdit k _ => some k
  | _ => none

/-- When each key's current entry was created, after `op` at step `t`: an
operation creates an entry when it puts a key the map lacks, and only then. -/
def CacheOp.stamp (op : CacheOp K V) (c : LimitedCache K V) (born : K → Nat) (t : Nat) : K → Nat :=
  match op.inserted? with
  | some k => if (c.map k).isNone then Function.update born k t else born
  | none => born

/-- A run of operations from step `t` on, with the step at which each key's
current entry was created. -/
def runTimed [Inhabited V] : LimitedCache K V → (K → Nat) → Nat → List (CacheOp K V) →
    LimitedCache K V × (K → Nat)
  | c, born, _, [] => (c, born)
  | c, born, t, op :: ops => runTimed (op.apply c) (op.stamp c born t) (t + 1) ops

/-- The deque lists its keys in the order their current entries were
created, all before step `t`. -/
structure Ordered (c : LimitedCache K V) (born : K → Nat) (t : Nat) : Prop where
  pairwise : c.oldest.Pairwise fun a b => born a < born b
  lt_now : ∀ k ∈ c.oldest, born k < t

/-- Eviction keeps the deque or drops its front. -/
theorem oldest_evictIfFull (c : LimitedCache K V) :
    c.evictIfFull.oldest = c.oldest ∨ c.evictIfFull.oldest = c.oldest.tail := by
  unfold evictIfFull
  split
  · split
    · rename_i oldestKey rest hq
      right
      rw [hq]
      rfl
    · left
      rfl
  · left
    rfl

omit [DecidableEq K] in
/-- The oldest key's entry was created before every other's. -/
theorem Ordered.born_le_of_head {c : LimitedCache K V} {born : K → Nat} {t : Nat} (ho : Ordered c born t)
    {k : K} (hk : c.oldest.head? = some k) : ∀ k' ∈ c.oldest, born k ≤ born k' := by
  obtain ⟨rest, hq⟩ : ∃ rest, c.oldest = k :: rest := by
    cases hq : c.oldest with
    | nil => rw [hq] at hk; cases hk
    | cons x xs => rw [hq] at hk; cases hk; exact ⟨xs, rfl⟩
  have hpair := ho.pairwise
  rw [hq, List.pairwise_cons] at hpair
  intro k' hk'
  rw [hq, List.mem_cons] at hk'
  rcases hk' with rfl | hk'
  · exact Nat.le_refl _
  · exact Nat.le_of_lt (hpair.1 k' hk')

/-- A key that leaves the map in `get_or_insert_default_and_edit` was the
oldest, and the key inserted was new. -/
theorem Valid.head_of_getOrInsertDefaultAndEdit [Inhabited V] {c : LimitedCache K V} (h : c.Valid)
    {k₀ k : K} (edit : V → V) (hk : (c.map k).isSome)
    (hgone : (c.getOrInsertDefaultAndEdit k₀ edit).map k = none) :
    c.map k₀ = none ∧ c.oldest.head? = some k := by
  unfold LimitedCache.getOrInsertDefaultAndEdit at hgone
  have hne : k ≠ k₀ → c.map k = none → False := fun _ hnone => by rw [hnone] at hk; cases hk
  cases hvalue : c.map k₀ with
  | some value =>
    rw [hvalue] at hgone
    by_cases hkk : k = k₀
    · subst hkk
      simp at hgone
    · dsimp only at hgone
      rw [Function.update_of_ne hkk] at hgone
      exact (hne hkk hgone).elim
  | none =>
    rw [hvalue] at hgone
    refine ⟨rfl, ?_⟩
    -- a key kept by eviction keeps its value, so the key that went was at the front
    have hmem : k ∈ c.oldest := (h.isSome_iff k).mp hk
    have hhead : (c.oldest ++ [k₀]).head? = c.oldest.head? := by
      cases hq : c.oldest with
      | nil => rw [hq] at hmem; cases hmem
      | cons x xs => rfl
    by_contra hhk
    rw [map_evictIfFull_of_head_ne (by rw [hhead]; exact hhk)] at hgone
    by_cases hkk : k = k₀
    · subst hkk
      simp at hgone
    · dsimp only at hgone
      rw [Function.update_of_ne hkk] at hgone
      exact hne hkk hgone

/-- A key leaves the map only by being removed, or by being the oldest when a
new key is inserted. -/
theorem Valid.gone_of_apply [Inhabited V] {c : LimitedCache K V} (h : c.Valid) (op : CacheOp K V)
    {k : K} (hk : (c.map k).isSome) (hgone : (op.apply c).map k = none) :
    op = .remove k ∨ ∃ k₀, op.inserted? = some k₀ ∧ c.map k₀ = none ∧ c.oldest.head? = some k := by
  have hsome : c.map k ≠ none := fun hnone => by rw [hnone] at hk; cases hk
  cases op with
  | insert k₀ v =>
    obtain ⟨hnew, hhead⟩ := h.head_of_getOrInsertDefaultAndEdit _ hk hgone
    exact .inr ⟨k₀, rfl, hnew, hhead⟩
  | getOrInsertDefaultAndEdit k₀ edit =>
    obtain ⟨hnew, hhead⟩ := h.head_of_getOrInsertDefaultAndEdit edit hk hgone
    exact .inr ⟨k₀, rfl, hnew, hhead⟩
  | get k₀ => exact (hsome hgone).elim
  | getMut k₀ edit =>
    have hkept := isSome_map_getMut c k₀ k fun v => ((), edit v)
    change (c.getMut k₀ fun v => ((), edit v)).2.map k = none at hgone
    rw [hgone, hk] at hkept
    cases hkept
  | remove k₀ =>
    by_cases hkk : k = k₀
    · rw [hkk]
      exact .inl rfl
    · change (c.remove k₀).2.map k = none at hgone
      rw [map_remove_of_ne c hkk] at hgone
      exact (hsome hgone).elim

theorem CacheOp.valid_apply [Inhabited V] {c : LimitedCache K V} (h : c.Valid) (op : CacheOp K V) :
    (op.apply c).Valid := by
  cases op with
  | insert k v => exact h.getOrInsertDefaultAndEdit k _
  | getOrInsertDefaultAndEdit k edit => exact h.getOrInsertDefaultAndEdit k edit
  | get k => exact h
  | getMut k edit => exact h.getMut k _
  | remove k => exact h.remove k

/-- Queueing a new key at step `t`, and perhaps evicting the oldest, keeps
the deque in creation order. -/
theorem Ordered.getOrInsertDefaultAndEdit_of_none [Inhabited V] {c : LimitedCache K V} {born : K → Nat}
    {t : Nat} (h : c.Valid) (ho : Ordered c born t) {k : K} (hk : c.map k = none) (edit : V → V) :
    Ordered (c.getOrInsertDefaultAndEdit k edit) (Function.update born k t) (t + 1) := by
  have hnotin : k ∉ c.oldest := h.not_mem_of_get_eq_none hk
  have hborn : ∀ a ∈ c.oldest, Function.update born k t a = born a := fun a ha =>
    Function.update_of_ne (by rintro rfl; exact hnotin ha) _ _
  -- the deque with the new key at the back is in creation order
  have hpush : (c.oldest ++ [k]).Pairwise fun a b => Function.update born k t a < Function.update born k t b := by
    rw [List.pairwise_append]
    refine ⟨?_, List.pairwise_singleton _ _, ?_⟩
    · exact List.Pairwise.imp_of_mem (fun ha hb hab => by rw [hborn _ ha, hborn _ hb]; exact hab)
        ho.pairwise
    · intro a ha b hb
      rw [List.mem_singleton.mp hb, Function.update_self, hborn _ ha]
      exact ho.lt_now a ha
  have hnow : ∀ a ∈ c.oldest ++ [k], Function.update born k t a < t + 1 := by
    intro a ha
    rcases List.mem_append.mp ha with ha | ha
    · rw [hborn _ ha]
      exact Nat.lt_succ_of_lt (ho.lt_now a ha)
    · rw [List.mem_singleton.mp ha, Function.update_self]
      exact Nat.lt_succ_self t
  unfold LimitedCache.getOrInsertDefaultAndEdit
  rw [hk]
  dsimp only
  rcases oldest_evictIfFull { c with oldest := c.oldest ++ [k], map := Function.update c.map k (some (edit default)) }
    with hq | hq
  · exact ⟨by rw [hq]; exact hpush, by rw [hq]; exact hnow⟩
  · -- the oldest key was evicted: what is left is a part of the deque in order
    exact ⟨by rw [hq]; exact hpush.sublist (List.tail_sublist _),
      by rw [hq]; exact fun a ha => hnow a ((List.tail_sublist _).subset ha)⟩

/-- Every operation at step `t` keeps the deque in creation order. -/
theorem Ordered.apply [Inhabited V] {c : LimitedCache K V} {born : K → Nat} {t : Nat} (h : c.Valid)
    (ho : Ordered c born t) (op : CacheOp K V) : Ordered (op.apply c) (op.stamp c born t) (t + 1) := by
  -- an operation that creates no entry keeps or shrinks the deque, and the creation steps
  have hkeep : ∀ c' : LimitedCache K V, c'.oldest.Sublist c.oldest → Ordered c' born (t + 1) :=
    fun c' hsub => ⟨ho.pairwise.sublist hsub, fun a ha => Nat.lt_succ_of_lt (ho.lt_now a (hsub.subset ha))⟩
  have hinsert : ∀ (k : K) (edit : V → V),
      Ordered (c.getOrInsertDefaultAndEdit k edit)
        (if (c.map k).isNone then Function.update born k t else born) (t + 1) := by
    intro k edit
    cases hvalue : c.map k with
    | none => exact ho.getOrInsertDefaultAndEdit_of_none h hvalue edit
    | some value =>
      apply hkeep
      unfold LimitedCache.getOrInsertDefaultAndEdit
      rw [hvalue]
  cases op with
  | insert k v => exact hinsert k _
  | getOrInsertDefaultAndEdit k edit => exact hinsert k edit
  | get k => exact hkeep c (List.Sublist.refl _)
  | getMut k edit =>
    apply hkeep
    change (c.getMut k fun v => ((), edit v)).2.oldest.Sublist c.oldest
    unfold getMut
    split <;> exact List.Sublist.refl _
  | remove k =>
    apply hkeep
    rw [CacheOp.apply, h.oldest_remove k]
    exact List.erase_sublist

/-- Every run keeps the invariant and the creation order. -/
theorem valid_runTimed [Inhabited V] (ops : List (CacheOp K V)) :
    ∀ (c : LimitedCache K V) (born : K → Nat) (t : Nat), c.Valid → Ordered c born t →
      (runTimed c born t ops).1.Valid ∧
        Ordered (runTimed c born t ops).1 (runTimed c born t ops).2 (t + ops.length) := by
  induction ops with
  | nil => intro c born t h ho; exact ⟨h, ho⟩
  | cons op ops ih =>
    intro c born t h ho
    have hrun := ih (op.apply c) (op.stamp c born t) (t + 1) (op.valid_apply h) (ho.apply h op)
    rw [Nat.add_assoc, Nat.add_comm 1 ops.length] at hrun
    exact hrun

/-- `LimitedCache` is a FIFO-evicting map.  Over every run from `new(capacity)`,
with `born k` the step at which the current entry of `k` was created: the deque
holds the keys of the map, each once; and the next operation takes a key out of
the map only by removing it, or by inserting a key the map lacks, and then the
key taken out is the one whose entry was created first. -/
theorem fifo_of_runTimed [Inhabited V] {capacity : Nat} (hcap : 1 ≤ capacity) (ops : List (CacheOp K V))
    {c : LimitedCache K V} {born : K → Nat} (hrun : runTimed (new capacity) (fun _ => 0) 0 ops = (c, born))
    (op : CacheOp K V) :
    c.oldest.Nodup ∧ (∀ k, (c.map k).isSome ↔ k ∈ c.oldest) ∧
      ∀ k, (c.map k).isSome → (op.apply c).map k = none →
        op = .remove k ∨ ∃ k₀, op.inserted? = some k₀ ∧ c.map k₀ = none ∧
          ∀ k', (c.map k').isSome → born k ≤ born k' := by
  have hnew : Ordered (new capacity : LimitedCache K V) (fun _ => 0) 0 := ⟨List.Pairwise.nil, fun _ h => by cases h⟩
  obtain ⟨hvalid, hord⟩ := valid_runTimed ops _ _ _ (valid_new hcap) hnew
  rw [hrun] at hvalid hord
  refine ⟨hvalid.nodup, hvalid.isSome_iff, fun k hk hgone => ?_⟩
  rcases hvalid.gone_of_apply op hk hgone with hremove | ⟨k₀, hins, hnone, hhead⟩
  · exact .inl hremove
  · exact .inr ⟨k₀, hins, hnone, fun k' hk' => hord.born_le_of_head hhead k' ((hvalid.isSome_iff k').mp hk')⟩

/-! ### Insertions of new keys -/

/-- The cache holds the last `capacity - 1` of the insertions `puts`, oldest
first. -/
def Holds (c : LimitedCache K V) (puts : List (K × V)) : Prop :=
  c.oldest = (puts.drop (puts.length - (c.capacity - 1))).map Prod.fst ∧
    ∀ k, c.map k = (puts.drop (puts.length - (c.capacity - 1))).lookup k

theorem holds_new (capacity : Nat) : (new capacity : LimitedCache K V).Holds [] :=
  ⟨by rw [List.drop_nil, List.map_nil]; rfl, fun _ => by rw [List.drop_nil, List.lookup_nil]; rfl⟩

/-- Inserting a key no insertion used before keeps the last `capacity - 1`
insertions: the new key goes to the back, and once the deque is full the
oldest key leaves. -/
theorem Holds.insert [Inhabited V] {c : LimitedCache K V} {puts : List (K × V)} (h : c.Holds puts)
    (hcap : 1 ≤ c.capacity) (hnodup : (puts.map Prod.fst).Nodup) {k : K} (hk : k ∉ puts.map Prod.fst)
    (v : V) : (c.insert k v).Holds (puts ++ [(k, v)]) := by
  obtain ⟨holdest, hmap⟩ := h
  -- what the cache holds, and the same with the new insertion at the back
  have hsub : ((puts.drop (puts.length - (c.capacity - 1))).map Prod.fst).Sublist (puts.map Prod.fst) :=
    (List.drop_sublist _ _).map _
  have hkS : k ∉ (puts.drop (puts.length - (c.capacity - 1))).map Prod.fst := fun hm => hk (hsub.subset hm)
  have hnone : c.map k = none := by rw [hmap]; exact List.lookup_eq_none_of_not_mem hkS
  have hpushed : ∀ a, Function.update c.map k (some v) a =
      ((puts.drop (puts.length - (c.capacity - 1))) ++ [(k, v)]).lookup a := by
    intro a
    rw [List.lookup_append_singleton hkS v a]
    congr 1
    funext b
    exact hmap b
  have hcap' : (c.insert k v).capacity = c.capacity := capacity_getOrInsertDefaultAndEdit c k _
  unfold Holds
  rw [hcap']
  unfold LimitedCache.insert LimitedCache.getOrInsertDefaultAndEdit
  rw [hnone]
  dsimp only
  by_cases hroom : puts.length < c.capacity - 1
  · -- the deque has room: nothing is evicted, and every insertion is held
    have hdrop : puts.length - (c.capacity - 1) = 0 := by omega
    have hdrop' : (puts ++ [(k, v)]).length - (c.capacity - 1) = 0 := by
      rw [List.length_append, List.length_singleton]
      omega
    rw [hdrop] at holdest hpushed
    rw [evictIfFull_of_length_ne (by rw [holdest, List.length_append, List.length_map, List.drop_zero]; simp; omega),
      hdrop', List.drop_zero]
    refine ⟨by rw [holdest, List.drop_zero, List.map_append]; rfl, fun a => ?_⟩
    rw [← List.drop_zero (l := puts)]
    exact hpushed a
  · -- the deque fills up: the oldest key leaves, and the last `capacity - 1` are held
    have hdrop : (puts ++ [(k, v)]).length - (c.capacity - 1) = (puts.length - (c.capacity - 1)) + 1 := by
      rw [List.length_append, List.length_singleton]
      omega
    have hheld : (puts ++ [(k, v)]).drop (puts.length - (c.capacity - 1)) =
        (puts.drop (puts.length - (c.capacity - 1))) ++ [(k, v)] :=
      List.drop_append_of_le_length (Nat.sub_le _ _)
    obtain ⟨p, rest, hT⟩ : ∃ p rest, (puts.drop (puts.length - (c.capacity - 1))) ++ [(k, v)] = p :: rest := by
      cases hq : puts.drop (puts.length - (c.capacity - 1)) with
      | nil => exact ⟨(k, v), [], rfl⟩
      | cons x xs => exact ⟨x, xs ++ [(k, v)], rfl⟩
    have hkeys : (p :: rest).map Prod.fst = c.oldest ++ [k] := by
      rw [← hT, List.map_append, holdest]
      rfl
    have hfull : (c.oldest ++ [k]).length = c.capacity := by
      rw [List.length_append, holdest, List.length_map, List.length_drop, List.length_singleton]
      omega
    have hpnot : p.1 ∉ rest.map Prod.fst := by
      have hnd : ((p :: rest).map Prod.fst).Nodup := by
        rw [← hT, List.map_append]
        exact List.Nodup.append (hnodup.sublist hsub) (List.nodup_singleton k)
          (List.disjoint_singleton.mpr hkS)
      exact (List.nodup_cons.mp hnd).1
    unfold evictIfFull
    rw [if_pos hfull]
    dsimp only
    rw [← hkeys, List.map_cons]
    dsimp only
    rw [hdrop, ← List.drop_drop, hheld, hT, List.drop_one, List.tail_cons]
    refine ⟨rfl, fun a => ?_⟩
    rw [List.lookup_of_cons hpnot a]
    congr 1
    funext b
    rw [hpushed b, hT]

end LimitedCache

end Rustls
