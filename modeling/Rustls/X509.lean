import Rustls.Lib.Der

/-!
`x509.rs`: the DER wrappers rustls puts around the keys it converts to PKCS#8
and SubjectPublicKeyInfo, and around distinguished names.

Every wrapper is `asn1_wrap` at a fixed tag.  It writes the tag, then the
length of the two parts it is given, then the parts.  A length up to 127 is
one byte.  A longer one is written from the eight big-endian bytes of the
`usize`: the scan for the first nonzero byte drops the leading zeros, and the
byte before them says how many are left, with the `assert!` that some are.

So the output is the DER tag-length-value of the two parts, with the length
in the fewest bytes (`asn1Wrap_minimal_der`), and a DER reader takes the tag
and the parts back from it, leaving nothing.  The scan is the step to prove:
below `256 ^ k` the eight bytes are `8 - k` zeros and the `k` bytes of the
length, of which the first is not zero.
-/

namespace Rustls

/-- `DER_SEQUENCE_TAG`. -/
def derSequenceTag : UInt8 := 0x30

/-- `DER_BIT_STRING_TAG`. -/
def derBitStringTag : UInt8 := 0x03

/-- `DER_OCTET_STRING_TAG`. -/
def derOctetStringTag : UInt8 := 0x04

/-- `asn1_wrap`; `none` is the `assert!` failing. -/
def asn1Wrap (tag : UInt8) (bytesA bytesB : List UInt8) : Option (List UInt8) :=
  -- the `usize` sum, which wraps in a release build (slices of bytes hold at
  -- most `isize::MAX` of them, so two of them never reach `2^64`)
  let len := (bytesA.length + bytesB.length) % 2 ^ 64
  if len ≤ 0x7f then
    -- short form
    some ([tag, UInt8.ofNat len] ++ bytesA ++ bytesB)
  else
    -- long form: `len.to_be_bytes()` without its leading zero bytes
    let size := Bytes.be 8 len
    let leadingZeroBytes := (size.findIdx? (· != 0)).getD size.length
    if leadingZeroBytes < size.length then
      let encodedBytes := size.length - leadingZeroBytes
      some ([tag, 0x80 + UInt8.ofNat encodedBytes] ++ size.drop leadingZeroBytes ++ bytesA ++ bytesB)
    else none

/-- `wrap_in_sequence`. -/
def wrapInSequence (bytes : List UInt8) : Option (List UInt8) :=
  asn1Wrap derSequenceTag bytes []

/-- `wrap_concat_in_sequence`. -/
def wrapConcatInSequence (bytesA bytesB : List UInt8) : Option (List UInt8) :=
  asn1Wrap derSequenceTag bytesA bytesB

/-- `wrap_in_bit_string`: no unused bits, then the bytes. -/
def wrapInBitString (bytes : List UInt8) : Option (List UInt8) :=
  asn1Wrap derBitStringTag [0] bytes

/-- `wrap_in_octet_string`. -/
def wrapInOctetString (bytes : List UInt8) : Option (List UInt8) :=
  asn1Wrap derOctetStringTag bytes []

/-- The scan for the first nonzero byte stops after the zeros in front. -/
theorem findIdx?_replicate_append {m : Nat} {b : UInt8} (hb : b ≠ 0) (rest : List UInt8) :
    (List.replicate m 0 ++ b :: rest).findIdx? (· != 0) = some m := by
  induction m with
  | zero => rw [List.replicate_zero, List.nil_append, List.findIdx?_cons, if_pos (bne_iff_ne.mpr hb)]
  | succ m ih =>
    rw [List.replicate_succ, List.cons_append, List.findIdx?_cons, if_neg (by simp), ih, Option.map_some]

/-- **`asn1_wrap` writes the tag, the DER length octets, and the parts.** -/
theorem asn1Wrap_eq (tag : UInt8) (a b : List UInt8) (hfit : a.length + b.length < 2 ^ 64) :
    asn1Wrap tag a b = some ([tag] ++ Der.lengthOctets (a.length + b.length) ++ a ++ b) := by
  have hlen : (a.length + b.length) % 2 ^ 64 = a.length + b.length := Nat.mod_eq_of_lt hfit
  unfold asn1Wrap
  rw [hlen]
  by_cases hshort : a.length + b.length ≤ 0x7f
  · rw [if_pos hshort, Der.lengthOctets_of_le hshort]
    rfl
  -- the length takes `k` of the eight bytes, the first of them nonzero
  obtain ⟨k, hk⟩ : ∃ k, Der.byteLen (a.length + b.length) = k + 1 :=
    ⟨Der.byteLen (a.length + b.length) - 1, by have := Der.byteLen_pos (show a.length + b.length ≠ 0 by omega); omega⟩
  have hk8 : k + 1 ≤ 8 := hk ▸ Der.byteLen_le (by norm_num; exact hfit)
  obtain ⟨first, hfirst, hcons⟩ := Der.be_byteLen_eq_cons hk
  have hsize : Bytes.be 8 (a.length + b.length) =
      List.replicate (8 - (k + 1)) 0 ++ Bytes.be (k + 1) (a.length + b.length) := by
    rw [← Bytes.be_add_of_lt (8 - (k + 1)) (hk ▸ Der.lt_pow_byteLen _), Nat.sub_add_cancel hk8]
  have hscan : (Bytes.be 8 (a.length + b.length)).findIdx? (· != 0) = some (8 - (k + 1)) := by
    rw [hsize, ← hk, hcons, findIdx?_replicate_append hfirst]
  rw [if_neg hshort]
  dsimp only
  rw [hscan, Option.getD_some, Bytes.length_be, if_pos (by omega), hsize, List.drop_left' List.length_replicate,
    Der.lengthOctets, if_neg hshort, hk, show 8 - (8 - (k + 1)) = k + 1 by omega]
  rfl

/-- Each wrapper is the tag-length-value of what it wraps: a `BIT STRING`
with its byte of unused bits in front. -/
theorem wrappers_eq_der (bytesA bytesB : List UInt8) (hfit : bytesA.length + bytesB.length + 1 < 2 ^ 64) :
    wrapInSequence bytesA = some ([derSequenceTag] ++ Der.lengthOctets bytesA.length ++ bytesA) ∧
      wrapConcatInSequence bytesA bytesB =
        some ([derSequenceTag] ++ Der.lengthOctets (bytesA.length + bytesB.length) ++ bytesA ++ bytesB) ∧
      wrapInBitString bytesB = some ([derBitStringTag] ++ Der.lengthOctets (1 + bytesB.length) ++ [0] ++ bytesB) ∧
      wrapInOctetString bytesA = some ([derOctetStringTag] ++ Der.lengthOctets bytesA.length ++ bytesA) := by
  have hsequence := asn1Wrap_eq derSequenceTag bytesA [] (by rw [List.length_nil]; omega)
  have hoctets := asn1Wrap_eq derOctetStringTag bytesA [] (by rw [List.length_nil]; omega)
  rw [List.length_nil, Nat.add_zero, List.append_nil] at hsequence hoctets
  exact ⟨hsequence, asn1Wrap_eq derSequenceTag bytesA bytesB (by omega), asn1Wrap_eq derBitStringTag [0] bytesB
    (by rw [List.length_singleton]; omega), hoctets⟩

-- the unit tests of `x509.rs`
example : wrapInSequence [] = some [0x30, 0x00] := by decide
example : wrapInBitString [0x55] = some [0x03, 0x02, 0x00, 0x55] := by decide
example : (wrapInSequence (List.replicate 4660 0x12)).map (List.take 6) =
    some [0x30, 0x82, 0x12, 0x34, 0x12, 0x12] := by
  decide +kernel

/-- **`asn1_wrap` emits a minimal DER tag-length-value**: the tag, a one-byte
length up to 127 and otherwise `0x80 + k` and the length in the fewest `k`
bytes, then the parts; a DER reader takes the tag and the parts back from it
and leaves nothing. -/
theorem asn1Wrap_minimal_der (tag : UInt8) (a b : List UInt8) (hfit : a.length + b.length < 2 ^ 64) :
    asn1Wrap tag a b = some ([tag] ++ Der.lengthOctets (a.length + b.length) ++ a ++ b) ∧
      (a.length + b.length ≤ 0x7f → Der.lengthOctets (a.length + b.length) = [UInt8.ofNat (a.length + b.length)]) ∧
      (0x7f < a.length + b.length → ∃ k, 0 < k ∧
        Der.lengthOctets (a.length + b.length) = (0x80 + UInt8.ofNat k) :: Bytes.be k (a.length + b.length) ∧
          a.length + b.length < 256 ^ k ∧ 256 ^ (k - 1) ≤ a.length + b.length) ∧
      Der.readTlv ([tag] ++ Der.lengthOctets (a.length + b.length) ++ a ++ b) = some ((tag, a ++ b), []) := by
  have hbytes : Der.byteLen (a ++ b).length < 0x80 := by
    have := Der.byteLen_le (show (a ++ b).length < 256 ^ 8 by rw [List.length_append]; norm_num; exact hfit)
    omega
  refine ⟨asn1Wrap_eq tag a b hfit, Der.lengthOctets_of_le, Der.lengthOctets_of_lt, ?_⟩
  have hread := Der.readTlv_tlv tag hbytes []
  rwa [List.append_nil, List.length_append, ← List.append_assoc, ← List.cons_append, ← List.singleton_append]
    at hread

theorem asn1Wrap_minimal_der_of_bit_string :
    ([0] : List UInt8).length + [0x55].length < 2 ^ 64 ∧
      asn1Wrap derBitStringTag [0] [0x55] =
        some ([derBitStringTag] ++ Der.lengthOctets (([0] : List UInt8).length + [0x55].length) ++ [0] ++ [0x55]) ∧
      (([0] : List UInt8).length + [0x55].length ≤ 0x7f →
        Der.lengthOctets (([0] : List UInt8).length + [0x55].length) =
          [UInt8.ofNat (([0] : List UInt8).length + [0x55].length)]) ∧
      (0x7f < ([0] : List UInt8).length + [0x55].length → ∃ k, 0 < k ∧
        Der.lengthOctets (([0] : List UInt8).length + [0x55].length) =
            (0x80 + UInt8.ofNat k) :: Bytes.be k (([0] : List UInt8).length + [0x55].length) ∧
          ([0] : List UInt8).length + [0x55].length < 256 ^ k ∧
          256 ^ (k - 1) ≤ ([0] : List UInt8).length + [0x55].length) ∧
      Der.readTlv ([derBitStringTag] ++ Der.lengthOctets (([0] : List UInt8).length + [0x55].length) ++ [0] ++ [0x55]) =
        some ((derBitStringTag, [0] ++ [0x55]), []) :=
  ⟨by decide, asn1Wrap_minimal_der derBitStringTag [0] [0x55] (by decide)⟩

end Rustls
