import Rustls.Lib.Chunks

/-!
The HMAC-based key derivation functions as their RFCs define them, over any
keyed function `hmac` from byte strings to byte strings.

RFC 5246 section 5 defines the TLS 1.2 PRF through `P_hash(secret, seed)`,
the blocks `HMAC(secret, A(i) + seed)` for `i = 1, 2, …` with `A(0) = seed`
and `A(i) = HMAC(secret, A(i-1))`, as many as the output needs.  RFC 5869
section 2.3 defines `HKDF-Expand(PRK, info, L)` as the first `L` octets of
`T(1) | T(2) | … | T(N)`, `N = ceil(L / HashLen)`, with `T(0)` empty and
`T(i) = HMAC(PRK, T(i-1) | info | i)`, `i` one octet; `L` is at most
`255 * HashLen`.

Both are blocks of a sequence of states (`List.blocks`): the `A(i)` for the
PRF, the pairs `(i, T(i))` for HKDF.  That is the form in which a loop over
the chunks of an output buffer computes them.
-/

namespace Kdf

variable (hmac : List UInt8 → List UInt8)

/-- RFC 5246's `A(i)`. -/
def a (seed : List UInt8) : Nat → List UInt8
  | 0 => seed
  | i + 1 => hmac (a seed i)

/-- The first `k` blocks of RFC 5246's `P_hash(secret, seed)`, with `hmac`
the HMAC under the secret. -/
def pHash (seed : List UInt8) (k : Nat) : List UInt8 :=
  ((List.range k).map fun i => hmac (a hmac seed (i + 1) ++ seed)).flatten

/-- RFC 5869's `T(i)`, with `hmac` the HMAC under the PRK. -/
def t (info : List UInt8) : Nat → List UInt8
  | 0 => []
  | i + 1 => hmac (t info i ++ info ++ [UInt8.ofNat (i + 1)])

/-- `T(1) | T(2) | … | T(k)`. -/
def expandBlocks (info : List UInt8) (k : Nat) : List UInt8 :=
  ((List.range k).map fun i => t hmac info (i + 1)).flatten

/-- RFC 5869's `HKDF-Expand(PRK, info, L)` for a hash of `hashLen` bytes:
none beyond `255 * HashLen`. -/
def hkdfExpand (hashLen : Nat) (info : List UInt8) (l : Nat) : Option (List UInt8) :=
  if 255 * hashLen < l then none
  else some ((expandBlocks hmac info ((l + hashLen - 1) / hashLen)).take l)

variable {hmac}

/-- The chain of `A(i)` is the HMAC iterated from `A(1)`. -/
theorem iterate_a (seed : List UInt8) (i : Nat) : hmac^[i] (hmac seed) = a hmac seed (i + 1) := by
  induction i with
  | zero => rfl
  | succ i ih => rw [Function.iterate_succ_apply', ih]; rfl

/-- `P_hash` is the blocks `HMAC(A + seed)` of the states `A(1), A(2), …`. -/
theorem pHash_eq_blocks (seed : List UInt8) (k : Nat) :
    pHash hmac seed k = List.blocks (fun a => hmac (a ++ seed)) hmac (hmac seed) k := by
  rw [pHash, List.blocks]
  congr 1
  apply List.map_congr_left
  intro i _
  rw [iterate_a]

/-- The step of HKDF-Expand: from `(i, T(i))` to `(i + 1, T(i + 1))`. -/
def expandStep (hmac : List UInt8 → List UInt8) (info : List UInt8) (s : Nat × List UInt8) : Nat × List UInt8 :=
  (s.1 + 1, hmac (s.2 ++ info ++ [UInt8.ofNat (s.1 + 1)]))

theorem iterate_expandStep (info : List UInt8) (i : Nat) : (expandStep hmac info)^[i] (0, []) = (i, t hmac info i) := by
  induction i with
  | zero => rfl
  | succ i ih => rw [Function.iterate_succ_apply', ih]; rfl

/-- `T(1) | … | T(k)` is the blocks of the states `(0, T(0)), (1, T(1)), …`,
each block the second half of the next state. -/
theorem expandBlocks_eq_blocks (info : List UInt8) (k : Nat) :
    expandBlocks hmac info k = List.blocks (fun s => (expandStep hmac info s).2) (expandStep hmac info) (0, []) k := by
  rw [expandBlocks, List.blocks]
  congr 1
  apply List.map_congr_left
  intro i _
  rw [iterate_expandStep]
  rfl

end Kdf
