import Rustls.Lib.Kdf
import Rustls.Tls12.ConnectionSecrets

/-!
The key derivation loops that rustls runs over any HMAC: `prf` of
`crypto/tls12.rs`, the TLS 1.2 PRF behind `PrfUsingHmac`, and
`HkdfExpanderUsingHmac` of `crypto/tls13.rs`, HKDF-Expand for the providers
that supply only an HMAC.

An `hmac::Key` is HMAC under a fixed key, of the concatenation of the slices
it is given (`sign`, `sign_concat`), returning a `Tag` of `tag_len` bytes.  A
`Tag` holds at most `Tag::MAX_LEN` bytes, and a tag length of zero would make
`chunks_mut` panic; `HmacKey` carries both bounds.

Both loops run over `output.chunks_mut(tag_len)`, carrying a chaining value:
`A(i)` for the PRF, the previous block and its index for HKDF, whose block
counter is `(n + 1) as u8`.  `List.fillChunks_eq` turns each loop into the
first bytes of the blocks of its states, and `Kdf.pHash_eq_blocks` and
`Kdf.expandBlocks_eq_blocks` read those blocks as the RFCs' (`prf_eq_pHash`,
`expandUnchecked_eq_expandBlocks`).  `expand_slice` refuses more than
`255 * tag_len` bytes, so at most 255 blocks are made and the counter never
wraps; `expand_block` runs the same loop over `tag_len` bytes of a 64-byte
array.
-/

namespace Rustls

/-- `Tag::MAX_LEN`. -/
def tagMaxLen : Nat := 64

/-- `hmac::Key`: HMAC under its key, with tags of `tag_len` bytes. -/
structure HmacKey where
  hmac : List UInt8 → List UInt8
  tagLen : Nat
  tagLen_pos : 0 < tagLen
  /-- A `Tag` holds at most `Tag::MAX_LEN` bytes. -/
  tagLen_le : tagLen ≤ tagMaxLen
  length_hmac : ∀ m, (hmac m).length = tagLen

namespace HmacKey

/-- `Key::sign_concat`: the tag of `first`, the slices of `middle` and
`last`, one after another. -/
def signConcat (key : HmacKey) (first : List UInt8) (middle : List (List UInt8)) (last : List UInt8) :
    List UInt8 :=
  key.hmac (first ++ middle.flatten ++ last)

/-- `Key::sign`: `sign_concat(&[], data, &[])`. -/
def sign (key : HmacKey) (data : List (List UInt8)) : List UInt8 :=
  key.signConcat [] data []

theorem sign_eq (key : HmacKey) (data : List (List UInt8)) : key.sign data = key.hmac data.flatten := by
  rw [sign, signConcat, List.nil_append, List.append_nil]

end HmacKey

/-- `hmac::Hmac`: the key it makes of a secret. -/
structure Hmac where
  withKey : List UInt8 → HmacKey

/-- `prf`: the TLS 1.2 PRF under `hmac_key`, written over `out`. -/
def prf (out : List UInt8) (hmacKey : HmacKey) (label seed : List UInt8) : List UInt8 :=
  -- A(1)
  let currentA := hmacKey.sign [label, seed]
  let chunkSize := hmacKey.tagLen
  List.fillChunks chunkSize
    (fun currentA len =>
      -- P_hash[i] = HMAC_hash(secret, A(i) + seed), then A(i+1) = HMAC_hash(secret, A(i))
      let pTerm := hmacKey.sign [currentA, label, seed]
      (pTerm.take len, hmacKey.sign [currentA]))
    out.length out.length currentA

/-- **`prf` writes `P_hash`**: the first bytes of RFC 5246's
`P_hash(secret, label ++ seed)`, as many as the output has, read off any
number of blocks that covers them. -/
theorem prf_eq_pHash (out : List UInt8) (key : HmacKey) (label seed : List UInt8) {k : Nat}
    (hk : out.length ≤ k * key.tagLen) :
    prf out key label seed = (Kdf.pHash key.hmac (label ++ seed) k).take out.length := by
  -- the loop body signs the concatenations `A ++ label ++ seed` and `A`
  have hbody : (fun currentA len => ((key.sign [currentA, label, seed]).take len, key.sign [currentA])) =
      fun a len => ((key.hmac (a ++ (label ++ seed))).take len, key.hmac a) := by
    funext a len
    rw [HmacKey.sign_eq, HmacKey.sign_eq, List.flatten_cons, List.flatten_cons, List.flatten_cons,
      List.flatten_singleton, List.flatten_nil, List.append_nil]
  have hstart : key.sign [label, seed] = key.hmac (label ++ seed) := by
    rw [HmacKey.sign_eq, List.flatten_cons, List.flatten_singleton]
  unfold prf
  dsimp only
  rw [hbody, hstart, Kdf.pHash_eq_blocks]
  exact List.fillChunks_eq_of_le key.tagLen_pos (fun _ => key.length_hmac _) _ (Nat.le_refl _) hk

theorem length_prf (out : List UInt8) (key : HmacKey) (label seed : List UInt8) :
    (prf out key label seed).length = out.length :=
  List.length_fillChunks key.tagLen_pos (fun _ => key.length_hmac _) _ (Nat.le_refl _)

/-- `PrfUsingHmac::for_secret`. -/
def PrfUsingHmac.forSecret (h : Hmac) (output secret label seed : List UInt8) : List UInt8 :=
  prf output (h.withKey secret) label seed

/-- `PrfUsingHmac` as the suite's `Prf` that TLS 1.2 derives its key block
with, into a new buffer of the length it asks for. -/
def PrfUsingHmac.toPrf (h : Hmac) : Prf :=
  ⟨fun n secret label seed => PrfUsingHmac.forSecret h (List.replicate n 0) secret label seed⟩

/-- The TLS 1.2 key block of a suite whose PRF is `PrfUsingHmac` is `P_hash`
under the key of the master secret. -/
theorem PrfUsingHmac.forSecret_toPrf (h : Hmac) (n : Nat) (secret label seed : List UInt8) {k : Nat}
    (hk : n ≤ k * (h.withKey secret).tagLen) :
    (PrfUsingHmac.toPrf h).forSecret n secret label seed =
      (Kdf.pHash (h.withKey secret).hmac (label ++ seed) k).take n := by
  have hlen : (List.replicate n (0 : UInt8)).length = n := List.length_replicate
  show prf (List.replicate n 0) (h.withKey secret) label seed = _
  rw [prf_eq_pHash _ _ _ _ (by rw [hlen]; exact hk), hlen]

/-- `OutputLengthError`. -/
structure OutputLengthError where
  deriving DecidableEq, Repr

/-- `HkdfExpanderUsingHmac`: HKDF-Expand under the key of a PRK. -/
structure HkdfExpanderUsingHmac where
  key : HmacKey

namespace HkdfExpanderUsingHmac

/-- `expand_unchecked`, written over `output`. -/
def expandUnchecked (e : HkdfExpanderUsingHmac) (info : List (List UInt8)) (output : List UInt8) :
    List UInt8 :=
  let term : List UInt8 := []
  -- the state is the index from `enumerate` and the last block
  List.fillChunks e.key.tagLen
    (fun (nt : Nat × List UInt8) len =>
      let term := e.key.signConcat nt.2 info [UInt8.ofNat (nt.1 + 1)]
      (term.take len, (nt.1 + 1, term)))
    output.length output.length (0, term)

/-- `expand_slice`: at most `255 * tag_len` bytes. -/
def expandSlice (e : HkdfExpanderUsingHmac) (info : List (List UInt8)) (output : List UInt8) :
    Except OutputLengthError (List UInt8) :=
  if output.length > 255 * e.key.tagLen then .error ⟨⟩
  else .ok (e.expandUnchecked info output)

/-- `expand_block`: the loop over the first `tag_len` bytes of a
`Tag::MAX_LEN`-byte array, which `HmacKey` keeps in range. -/
def expandBlock (e : HkdfExpanderUsingHmac) (info : List (List UInt8)) : List UInt8 :=
  let tag := List.replicate tagMaxLen (0 : UInt8)
  let reducedTag := tag.take e.key.tagLen
  e.expandUnchecked info reducedTag

/-- **`expand_unchecked` writes `T(1) | T(2) | …`**, as many bytes as the
output has, read off any number of blocks that covers them. -/
theorem expandUnchecked_eq_expandBlocks (e : HkdfExpanderUsingHmac) (info : List (List UInt8))
    (output : List UInt8) {k : Nat} (hk : output.length ≤ k * e.key.tagLen) :
    e.expandUnchecked info output = (Kdf.expandBlocks e.key.hmac info.flatten k).take output.length := by
  rw [Kdf.expandBlocks_eq_blocks]
  -- the loop's state is `(n, T(n))`, and its body is the step of HKDF-Expand
  exact List.fillChunks_eq_of_le e.key.tagLen_pos (fun _ => e.key.length_hmac _) _ (Nat.le_refl _) hk

theorem expandSlice_eq_error_iff (e : HkdfExpanderUsingHmac) (info : List (List UInt8)) (output : List UInt8) :
    e.expandSlice info output = .error ⟨⟩ ↔ 255 * e.key.tagLen < output.length := by
  unfold expandSlice
  by_cases h : output.length > 255 * e.key.tagLen
  · rw [if_pos h]
    exact ⟨fun _ => h, fun _ => rfl⟩
  · rw [if_neg h]
    refine ⟨fun hok => ?_, fun hlt => absurd hlt h⟩
    cases hok

theorem expandSlice_of_le (e : HkdfExpanderUsingHmac) (info : List (List UInt8)) {output : List UInt8}
    (h : output.length ≤ 255 * e.key.tagLen) : e.expandSlice info output = .ok (e.expandUnchecked info output) := by
  rw [expandSlice, if_neg (Nat.not_lt.mpr h)]

/-- `expand_slice` is RFC 5869's `HKDF-Expand`, failure included. -/
theorem expandSlice_eq_hkdfExpand (e : HkdfExpanderUsingHmac) (info : List (List UInt8)) (output : List UInt8) :
    (e.expandSlice info output).toOption = Kdf.hkdfExpand e.key.hmac e.key.tagLen info.flatten output.length := by
  unfold Kdf.hkdfExpand
  by_cases h : 255 * e.key.tagLen < output.length
  · rw [if_pos h, (expandSlice_eq_error_iff e info output).mpr h]
    rfl
  · rw [if_neg h, expandSlice_of_le e info (Nat.le_of_not_lt h),
      expandUnchecked_eq_expandBlocks e info output (List.le_ceil_div_mul _ e.key.tagLen_pos)]
    rfl

/-- `expand_block` is `expand_slice` over `tag_len` bytes: the loop reads
nothing of the output but its length. -/
theorem expandSlice_replicate_tagLen (e : HkdfExpanderUsingHmac) (info : List (List UInt8)) :
    e.expandSlice info (List.replicate e.key.tagLen 0) = .ok (e.expandBlock info) := by
  have hlen : ((List.replicate tagMaxLen (0 : UInt8)).take e.key.tagLen).length =
      (List.replicate e.key.tagLen (0 : UInt8)).length := by
    rw [List.length_take, List.length_replicate, List.length_replicate, Nat.min_eq_left e.key.tagLen_le]
  have hfit : (List.replicate e.key.tagLen (0 : UInt8)).length ≤ 255 * e.key.tagLen := by
    rw [List.length_replicate]
    omega
  rw [expandSlice_of_le e info hfit]
  unfold expandBlock expandUnchecked
  dsimp only
  rw [hlen]

/-- `hash_len`. -/
def hashLen (e : HkdfExpanderUsingHmac) : Nat :=
  e.key.tagLen

end HkdfExpanderUsingHmac

/-- **The HMAC-based key derivation loops implement their RFCs.**  For every
HMAC key with tags of `T ≥ 1` bytes, `prf` over an `n`-byte output writes
exactly its first `n` bytes of RFC 5246's `P_hash(secret, label ++ seed)`,
read off any number of blocks that covers them; `expand_slice` fails exactly
beyond `255 * T` bytes, and otherwise writes the first `L` bytes of RFC 5869's
`T(1) | T(2) | …` (so it is `HKDF-Expand`, failure included); and
`expand_block` is `expand_slice` over `T` bytes. -/
theorem hmac_kdfs_follow_rfcs (key : HmacKey) (label seed out : List UInt8) (info : List (List UInt8))
    (output : List UInt8) :
    (prf out key label seed).length = out.length ∧
    (∀ k, out.length ≤ k * key.tagLen →
      prf out key label seed = (Kdf.pHash key.hmac (label ++ seed) k).take out.length) ∧
    ((HkdfExpanderUsingHmac.mk key).expandSlice info output = .error ⟨⟩ ↔ 255 * key.tagLen < output.length) ∧
    (output.length ≤ 255 * key.tagLen → ∀ k, output.length ≤ k * key.tagLen →
      (HkdfExpanderUsingHmac.mk key).expandSlice info output =
        .ok ((Kdf.expandBlocks key.hmac info.flatten k).take output.length)) ∧
    ((HkdfExpanderUsingHmac.mk key).expandSlice info output).toOption =
      Kdf.hkdfExpand key.hmac key.tagLen info.flatten output.length ∧
    (HkdfExpanderUsingHmac.mk key).expandSlice info (List.replicate key.tagLen 0) =
      .ok ((HkdfExpanderUsingHmac.mk key).expandBlock info) := by
  refine ⟨length_prf out key label seed, fun k hk => prf_eq_pHash out key label seed hk,
    HkdfExpanderUsingHmac.expandSlice_eq_error_iff _ info output, ?_,
    HkdfExpanderUsingHmac.expandSlice_eq_hkdfExpand _ info output,
    HkdfExpanderUsingHmac.expandSlice_replicate_tagLen _ info⟩
  intro hfit k hk
  rw [HkdfExpanderUsingHmac.expandSlice_of_le _ info hfit,
    HkdfExpanderUsingHmac.expandUnchecked_eq_expandBlocks _ info output hk]

end Rustls
