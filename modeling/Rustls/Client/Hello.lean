import Rustls.Client.Hs
import Rustls.Server.Tls13
import Mathlib.Data.List.Sort
import Mathlib.Data.List.Find

/-!
The ClientHello of a resuming client: the extensions `emit_client_hello_for_retry`
of `client/hs.rs` puts in it and their order, the PSK binder
`fill_in_psk_binder` of `client/tls13.rs` writes into it, and what a rustls
server makes of it.

The PSK extension must be the last one (RFC 8446 section 4.2.11), and its
binder is a MAC over the ClientHello up to the binders, so it is computed
once the extensions are in their final order and written into the last
extension.  `emit_client_hello_for_retry` sorts the extensions by a key that
puts the PSK extension last, or the ECH extension last and the PSK extension
just before it once ECH or GREASE is in play.  But the GREASE ECH extension of
a first ClientHello is appended after the sort, while the status is still
`NotOffered`; and in a retry the GREASE extension carried forward is sorted
last.  Either way the PSK extension is not last: `set_psk_binder` looks only at
the last extension and leaves the binder as the zeros `prepare_resumption`
put there, and the server's `check_psk_ext_is_last` refuses the hello.

A client that neither offers ECH nor sends GREASE puts the PSK extension last
and fills in the binder.

The binder itself is a parameter: the key schedule's
`resumption_psk_binder_key_and_sign_verify_data` over the transcript and the
encoding of the hello it is given.  Sorting is `sort_by_cached_key`, a stable
sort, here as insertion sort: a stable sort by a key has one result.
-/

namespace Rustls

/-- `low_quality_integer_hash`. -/
def lowQualityIntegerHash (x : UInt32) : UInt32 :=
  let x := x + (0x7ed55d16 : UInt32) + (x <<< (12 : UInt32))
  let x := (x ^^^ (0xc761c23c : UInt32)) ^^^ (x >>> (19 : UInt32))
  let x := x + (0x165667b1 : UInt32) + (x <<< (5 : UInt32))
  let x := (x + (0xd3a2646c : UInt32)) ^^^ (x <<< (9 : UInt32))
  let x := x + (0xfd7046c5 : UInt32) + (x <<< (3 : UInt32))
  (x ^^^ (0xb55a4f09 : UInt32)) ^^^ (x >>> (16 : UInt32))

/-- The key `emit_client_hello_for_retry` sorts the extensions by: the PSK
extension last when neither ECH nor GREASE is in play, else the ECH extension
last and the PSK extension before it; any other extension by a hash of the
seed and its type, never the largest key. -/
def extensionSortKey (echStatus : EchStatus) (seed : UInt16) (ext : ClientExtension) : UInt32 :=
  match echStatus, ext with
  | .notOffered, .presharedKey _ => 0xffffffff
  | _, .encryptedClientHello _ => 0xffffffff
  | _, .presharedKey _ => 0xffffffff - 1
  | _, _ =>
    let key := lowQualityIntegerHash ((seed.toUInt32 <<< (16 : UInt32)) ||| ext.extType.value.toUInt32)
    if key = 0xffffffff then 0 else key

/-- `sort_by_cached_key`: a stable sort by `key`. -/
def sortByCachedKey {α : Type} (key : α → UInt32) (l : List α) : List α :=
  l.insertionSort fun a b => key a ≤ key b

/-- `prepare_resumption` of `client/tls13.rs`: EarlyData when the client
sends early data on a first ClientHello, then the PSK extension with one
identity, the ticket with its obfuscated age, and a binder of zeros as long as
the suite's hash, to be filled in. -/
def prepareResumption (enableEarlyData doingRetry : Bool)
    (resuming : Retrieved Tls13ClientSessionValue) : List ClientExtension :=
  (if enableEarlyData && decide (resuming.value.maxEarlyDataSize > 0) && !doingRetry then
    [.earlyData] else []) ++
  [.presharedKey ⟨[⟨resuming.value.common.ticket, resuming.obfuscatedTicketAge⟩],
    [List.replicate resuming.value.hashLen 0]⟩]

namespace ClientHelloPayload

/-- `set_psk_binder`: only a PSK extension in last place gets the binder. -/
def setPskBinder (ch : ClientHelloPayload) (binder : List UInt8) : ClientHelloPayload :=
  match ch.extensions.getLast? with
  | some (.presharedKey offer) =>
    { ch with extensions :=
        ch.extensions.dropLast ++ [.presharedKey { offer with binders := offer.binders.set 0 binder }] }
  | _ => ch

end ClientHelloPayload

/-- The extensions of the ClientHello and the ECH status after it, for a
client without ECH state: `exts` (what was built before, with the extensions
`prepare_resumption` adds and, in a retry, the ECH extension carried forward)
sorted, then the GREASE ECH extension of a first ClientHello, when GREASE is
configured. -/
def helloExtensions (echStatus : EchStatus) (seed : UInt16) (exts : List ClientExtension)
    (greaseExt : Option ClientExtension) : List ClientExtension × EchStatus :=
  let sorted := sortByCachedKey (extensionSortKey echStatus seed) exts
  match echStatus, greaseExt with
  | .notOffered, some grease => (sorted ++ [grease], .grease)
  | _, _ => (sorted, echStatus)

/-- The ClientHello `emit_client_hello_for_retry` sends, for a client without
ECH state: compression methods `[Null]`, its extensions and, when a TLS 1.3
ticket is resumed, the binder `fill_in_psk_binder` computes, `binderFor` of
the hello with the placeholder binder. -/
def emitClientHello (echStatus : EchStatus) (seed : UInt16) (exts : List ClientExtension)
    (enableEarlyData doingRetry : Bool) (resuming : Option (Retrieved Tls13ClientSessionValue))
    (greaseExt : Option ClientExtension) (binderFor : ClientHelloPayload → List UInt8) :
    ClientHelloPayload × EchStatus :=
  let resumption := (resuming.map (prepareResumption enableEarlyData doingRetry)).getD []
  let (extensions, echStatus) := helloExtensions echStatus seed (exts ++ resumption) greaseExt
  let ch : ClientHelloPayload := ⟨[0], extensions⟩
  match resuming with
  | some _ => (ch.setPskBinder (binderFor ch), echStatus)
  | none => (ch, echStatus)

/-- How a rustls server reads back an extension the client encoded: its
`ClientExtension::read` has no ECH variant, so the ECH extension is unknown to
it; the other modelled variants read back as themselves. -/
def ClientExtension.asReceived : ClientExtension → ClientExtension
  | .encryptedClientHello payload => .unknown .encryptedClientHello payload
  | ext => ext

/-- The ClientHello as a rustls server reads it. -/
def ClientHelloPayload.asReceived (ch : ClientHelloPayload) : ClientHelloPayload :=
  { ch with extensions := ch.extensions.map ClientExtension.asReceived }

/-! ### The sort -/

section Sorting

variable {α : Type} (key : α → UInt32)

theorem perm_sortByCachedKey (l : List α) : List.Perm (sortByCachedKey key l) l :=
  List.perm_insertionSort _ l

theorem pairwise_sortByCachedKey (l : List α) :
    (sortByCachedKey key l).Pairwise fun a b => key a ≤ key b := by
  have : Std.Total fun a b : α => key a ≤ key b := ⟨fun a b => UInt32.le_total (key a) (key b)⟩
  have : IsTrans α fun a b => key a ≤ key b := ⟨fun _ _ _ => UInt32.le_trans⟩
  exact List.pairwise_insertionSort _ l

variable {key}

/-- The last of a list sorted by key has the largest key. -/
theorem le_key_getLast {l : List α} (hl : l.Pairwise fun a b => key a ≤ key b) {x : α}
    (hx : x ∈ l) : key x ≤ key (l.getLast (List.ne_nil_of_mem hx)) := by
  induction l with
  | nil => cases hx
  | cons a l ih =>
    rw [List.pairwise_cons] at hl
    by_cases hnil : l = []
    · subst hnil
      obtain rfl := List.mem_singleton.mp hx
      exact UInt32.le_refl _
    · rw [List.getLast_cons hnil]
      rcases List.mem_cons.mp hx with rfl | hx
      · exact hl.1 _ (List.getLast_mem hnil)
      · exact ih hl.2 hx

end Sorting

/-- Once ECH or GREASE is in play, only an ECH extension has the largest key. -/
theorem extensionSortKey_lt_of_ne_ech {echStatus : EchStatus} (hstatus : echStatus ≠ .notOffered)
    (seed : UInt16) {ext : ClientExtension} (hext : ∀ p, ext ≠ .encryptedClientHello p) :
    extensionSortKey echStatus seed ext < 0xffffffff := by
  have hhash : ∀ key : UInt32, (if key = 0xffffffff then 0 else key) < 0xffffffff := by
    intro key
    split
    · decide
    · rename_i hne
      have hbound : key.toNat ≤ (0xffffffff : UInt32).toNat := by
        have := key.toNat_lt
        simp only [UInt32.reduceToNat]
        omega
      exact UInt32.lt_of_le_of_ne (UInt32.le_iff_toNat_le.mpr hbound) hne
  cases ext with
  | encryptedClientHello p => exact absurd rfl (hext p)
  | presharedKey offer =>
    cases echStatus with
    | notOffered => exact absurd rfl hstatus
    | _ => exact (show (0xffffffff - 1 : UInt32) < 0xffffffff by decide)
  | _ =>
    cases echStatus with
    | notOffered => exact absurd rfl hstatus
    | _ => exact hhash _

end Rustls
