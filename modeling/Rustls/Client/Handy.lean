import Rustls.Enums
import Rustls.LimitedCache

/-!
`ClientSessionMemoryCache` of `client/handy.rs`: the client's store of what it
needs to resume, per server name.

Each server name has a `ServerData`: a key-exchange hint, a TLS 1.2 session,
and up to `MAX_TLS13_TICKETS_PER_SERVER` TLS 1.3 tickets, oldest first, of
which `take_tls13_ticket` hands out the newest.  The server names are the
keys of a `LimitedCache` whose capacity is the number of servers `new(size)`
makes room for: `size` tickets at eight a server, rounded up.

Server names and the stored session values are type parameters: the store
only keeps them.  The `Mutex` around the cache is left out: every operation
holds it for its whole length, so the operations are the steps of the store.

For sizes one to eight that rounds to one server, and a `LimitedCache` of
capacity one evicts every key as it inserts it (`getOrInsertDefaultAndEdit_new_one`):
such a store keeps nothing at all.  From size nine on, what was just stored
is there to be read back.
-/

namespace Rustls

/-- `MAX_TLS13_TICKETS_PER_SERVER`. -/
def maxTls13TicketsPerServer : Nat := 8

/-- `ServerData`: the TLS 1.3 tickets oldest first, in a deque of capacity
`MAX_TLS13_TICKETS_PER_SERVER`. -/
structure ServerData (T12 T13 : Type) where
  kxHint : Option NamedGroup
  tls12 : Option T12
  tls13 : List T13

/-- `ServerData::default`. -/
instance {T12 T13 : Type} : Inhabited (ServerData T12 T13) := ⟨⟨none, none, []⟩⟩

/-- `ClientSessionMemoryCache`. -/
structure ClientSessionMemoryCache (K T12 T13 : Type) where
  servers : LimitedCache K (ServerData T12 T13)

namespace ClientSessionMemoryCache

variable {K T12 T13 : Type} [DecidableEq K]

/-- `ClientSessionMemoryCache::new`: `size.saturating_add(7) / 8` servers, on
a 64-bit `usize`. -/
def new (size : Nat) : ClientSessionMemoryCache K T12 T13 :=
  let maxServers :=
    min (size + (maxTls13TicketsPerServer - 1)) (2 ^ 64 - 1) / maxTls13TicketsPerServer
  ⟨LimitedCache.new maxServers⟩

/-- `set_kx_hint`. -/
def setKxHint (c : ClientSessionMemoryCache K T12 T13) (serverName : K) (group : NamedGroup) :
    ClientSessionMemoryCache K T12 T13 :=
  ⟨c.servers.getOrInsertDefaultAndEdit serverName fun data => { data with kxHint := some group }⟩

/-- `kx_hint`. -/
def kxHint (c : ClientSessionMemoryCache K T12 T13) (serverName : K) : Option NamedGroup :=
  (c.servers.get serverName).bind ServerData.kxHint

/-- `set_tls12_session`. -/
def setTls12Session (c : ClientSessionMemoryCache K T12 T13) (serverName : K) (value : T12) :
    ClientSessionMemoryCache K T12 T13 :=
  ⟨c.servers.getOrInsertDefaultAndEdit serverName fun data => { data with tls12 := some value }⟩

/-- `tls12_session`. -/
def tls12Session (c : ClientSessionMemoryCache K T12 T13) (serverName : K) : Option T12 :=
  (c.servers.get serverName).bind ServerData.tls12

/-- `remove_tls12_session`: `take` of the session, through `get_mut`. -/
def removeTls12Session (c : ClientSessionMemoryCache K T12 T13) (serverName : K) :
    ClientSessionMemoryCache K T12 T13 :=
  ⟨(c.servers.getMut serverName fun data => (data.tls12, { data with tls12 := none })).2⟩

/-- `insert_tls13_ticket`: a full deque first drops its oldest ticket. -/
def insertTls13Ticket (c : ClientSessionMemoryCache K T12 T13) (serverName : K) (value : T13) :
    ClientSessionMemoryCache K T12 T13 :=
  ⟨c.servers.getOrInsertDefaultAndEdit serverName fun data =>
    { data with
      tls13 := (if data.tls13.length = maxTls13TicketsPerServer then data.tls13.tail
        else data.tls13) ++ [value] }⟩

/-- `take_tls13_ticket`: `pop_back` of the server's deque, through `get_mut`. -/
def takeTls13Ticket (c : ClientSessionMemoryCache K T12 T13) (serverName : K) :
    Option T13 × ClientSessionMemoryCache K T12 T13 :=
  let (taken, servers) :=
    c.servers.getMut serverName fun data => (data.tls13.getLast?, { data with tls13 := data.tls13.dropLast })
  (taken.join, ⟨servers⟩)

/-- A call of `ClientSessionStore` that changes the store. -/
inductive StoreOp (K T12 T13 : Type)
  | setKxHint (serverName : K) (group : NamedGroup)
  | setTls12Session (serverName : K) (value : T12)
  | removeTls12Session (serverName : K)
  | insertTls13Ticket (serverName : K) (value : T13)
  | takeTls13Ticket (serverName : K)

/-- The store after one call. -/
def StoreOp.apply : StoreOp K T12 T13 → ClientSessionMemoryCache K T12 T13 →
    ClientSessionMemoryCache K T12 T13
  | .setKxHint serverName group, c => c.setKxHint serverName group
  | .setTls12Session serverName value, c => c.setTls12Session serverName value
  | .removeTls12Session serverName, c => c.removeTls12Session serverName
  | .insertTls13Ticket serverName value, c => c.insertTls13Ticket serverName value
  | .takeTls13Ticket serverName, c => (c.takeTls13Ticket serverName).2

/-- The store after the calls `ops`, in order. -/
def run (c : ClientSessionMemoryCache K T12 T13) : List (StoreOp K T12 T13) →
    ClientSessionMemoryCache K T12 T13
  | [] => c
  | op :: ops => run (op.apply c) ops

/-! ### Every reachable store is a valid cache of the capacity `new` gave -/

/-- One call keeps the cache valid and its capacity. -/
theorem StoreOp.valid_apply {c : ClientSessionMemoryCache K T12 T13} (h : c.servers.Valid)
    (op : StoreOp K T12 T13) :
    (op.apply c).servers.Valid ∧ (op.apply c).servers.capacity = c.servers.capacity := by
  cases op with
  | setKxHint serverName group =>
    exact ⟨h.getOrInsertDefaultAndEdit _ _, LimitedCache.capacity_getOrInsertDefaultAndEdit _ _ _⟩
  | setTls12Session serverName value =>
    exact ⟨h.getOrInsertDefaultAndEdit _ _, LimitedCache.capacity_getOrInsertDefaultAndEdit _ _ _⟩
  | removeTls12Session serverName =>
    exact ⟨h.getMut _ _, LimitedCache.capacity_getMut _ _ _⟩
  | insertTls13Ticket serverName value =>
    exact ⟨h.getOrInsertDefaultAndEdit _ _, LimitedCache.capacity_getOrInsertDefaultAndEdit _ _ _⟩
  | takeTls13Ticket serverName =>
    exact ⟨h.getMut _ _, LimitedCache.capacity_getMut _ _ _⟩

/-- A run keeps the cache valid and its capacity. -/
theorem valid_run {c : ClientSessionMemoryCache K T12 T13} (h : c.servers.Valid)
    (ops : List (StoreOp K T12 T13)) :
    (c.run ops).servers.Valid ∧ (c.run ops).servers.capacity = c.servers.capacity := by
  induction ops generalizing c with
  | nil => exact ⟨h, rfl⟩
  | cons op ops ih =>
    obtain ⟨hvalid, hcap⟩ := StoreOp.valid_apply h op
    obtain ⟨hvalid', hcap'⟩ := ih hvalid
    exact ⟨hvalid', hcap'.trans hcap⟩

omit [DecidableEq K] in
theorem capacity_new (size : Nat) :
    (new size : ClientSessionMemoryCache K T12 T13).servers.capacity =
      min (size + 7) (2 ^ 64 - 1) / 8 := rfl

/-- Every store reached from `new size`, for a positive size, is a valid cache
of the capacity `new` gave it. -/
theorem valid_run_new {size : Nat} (hpos : 0 < size) (ops : List (StoreOp K T12 T13)) :
    ((new size).run ops).servers.Valid ∧
      ((new size).run ops).servers.capacity = min (size + 7) (2 ^ 64 - 1) / 8 := by
  have hcap : 0 < min (size + 7) (2 ^ 64 - 1) / 8 := by omega
  rw [← capacity_new size]
  exact valid_run (LimitedCache.valid_new hcap) ops

/-! ### Sizes up to eight keep nothing -/

/-- **A store made for one to eight tickets forgets everything at once.**
From any state it reaches, a ticket, a TLS 1.2 session or a key-exchange hint
just stored for a server is not there to be read back. -/
theorem forgets_of_size_le_eight {size : Nat} (hpos : 1 ≤ size)
    (hsize : size ≤ maxTls13TicketsPerServer) (ops : List (StoreOp K T12 T13)) (serverName : K)
    (session : T12) (ticket : T13) (group : NamedGroup) :
    ((((new size).run ops).insertTls13Ticket serverName ticket).takeTls13Ticket serverName).1 =
        none ∧
      (((new size).run ops).setTls12Session serverName session).tls12Session serverName = none ∧
      (((new size).run ops).setKxHint serverName group).kxHint serverName = none := by
  obtain ⟨hvalid, hcap⟩ := valid_run_new (Nat.lt_of_lt_of_le Nat.zero_lt_one hpos) ops
  have hone : min (size + 7) (2 ^ 64 - 1) / 8 = 1 := by
    simp only [maxTls13TicketsPerServer] at hsize
    omega
  -- a valid cache of capacity one is empty, and an insertion leaves it empty
  have hempty := hvalid.eq_new_of_capacity_eq_one (hcap.trans hone)
  have hnone : ∀ edit, ((((new size).run ops).servers.getOrInsertDefaultAndEdit serverName edit).get
      serverName) = none := by
    intro edit
    rw [hempty, LimitedCache.getOrInsertDefaultAndEdit_new_one]
    rfl
  refine ⟨?_, ?_, ?_⟩
  · simp only [insertTls13Ticket, takeTls13Ticket]
    rw [LimitedCache.getMut_of_get_eq_none _ (hnone _)]
    rfl
  · simp only [setTls12Session, tls12Session]
    rw [hnone]
    rfl
  · simp only [setKxHint, kxHint]
    rw [hnone]
    rfl

theorem forgets_of_size_one :
    1 ≤ 1 ∧ 1 ≤ maxTls13TicketsPerServer ∧
      ((((new 1 : ClientSessionMemoryCache Nat Unit Nat).run []).insertTls13Ticket 0 7).takeTls13Ticket
          0).1 = none ∧
        (((new 1 : ClientSessionMemoryCache Nat Unit Nat).run []).setTls12Session 0 ()).tls12Session 0
          = none ∧
        (((new 1 : ClientSessionMemoryCache Nat Unit Nat).run []).setKxHint 0 .x25519).kxHint 0
          = none :=
  ⟨le_refl 1, by decide, forgets_of_size_le_eight (le_refl 1) (by decide) [] 0 () 7 .x25519⟩

/-- The default store of `Resumption::in_memory_sessions(1)` loses a ticket
stored into it. -/
theorem ticket_lost_in_store_of_size_one :
    (((new 1 : ClientSessionMemoryCache Nat Unit Nat).insertTls13Ticket 0 7).takeTls13Ticket 0).1 =
      none := by
  decide

/-! ### From size nine on, what was just stored is there -/

section Retains

variable {size : Nat} (hsize : maxTls13TicketsPerServer < size) (ops : List (StoreOp K T12 T13))
  (serverName : K)

include hsize in
/-- From size nine on, every store reached holds at least two servers. -/
theorem two_le_capacity_run_new : 2 ≤ ((new size).run ops).servers.capacity := by
  simp only [maxTls13TicketsPerServer] at hsize
  rw [(valid_run_new (show 0 < size by omega) ops).2]
  omega

include hsize in
/-- From size nine on, a ticket just stored is the one taken. -/
theorem take_insertTls13Ticket_of_eight_lt_size (ticket : T13) :
    ((((new size).run ops).insertTls13Ticket serverName ticket).takeTls13Ticket serverName).1 =
      some ticket := by
  have hpos : 0 < size := Nat.lt_trans (by decide) hsize
  have hvalid := (valid_run_new hpos ops).1
  have hget := LimitedCache.get_getOrInsertDefaultAndEdit hvalid
    (two_le_capacity_run_new hsize ops) serverName
  simp only [insertTls13Ticket, takeTls13Ticket]
  rw [LimitedCache.getMut_of_get_eq_some _ (hget _)]
  simp

include hsize in
/-- From size nine on, a TLS 1.2 session just stored is read back. -/
theorem tls12Session_setTls12Session_of_eight_lt_size (session : T12) :
    (((new size).run ops).setTls12Session serverName session).tls12Session serverName =
      some session := by
  have hpos : 0 < size := Nat.lt_trans (by decide) hsize
  have hvalid := (valid_run_new hpos ops).1
  simp only [setTls12Session, tls12Session]
  rw [LimitedCache.get_getOrInsertDefaultAndEdit hvalid (two_le_capacity_run_new hsize ops)]
  rfl

include hsize in
/-- From size nine on, a key-exchange hint just stored is read back. -/
theorem kxHint_setKxHint_of_eight_lt_size (group : NamedGroup) :
    (((new size).run ops).setKxHint serverName group).kxHint serverName = some group := by
  have hpos : 0 < size := Nat.lt_trans (by decide) hsize
  have hvalid := (valid_run_new hpos ops).1
  simp only [setKxHint, kxHint]
  rw [LimitedCache.get_getOrInsertDefaultAndEdit hvalid (two_le_capacity_run_new hsize ops)]
  rfl

end Retains

end ClientSessionMemoryCache

end Rustls
