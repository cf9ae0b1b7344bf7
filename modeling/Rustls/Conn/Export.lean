import Rustls.Tls13.KeySchedule
import Rustls.Tls12.ConnectionSecrets

/-!
Keying-material export: `ConnectionCore::export_keying_material` of
`conn.rs`, which the traffic states pass on to
`ConnectionSecrets::export_keying_material` of `tls12/mod.rs` (RFC 5705) or
`KeySchedule::export_keying_material` of `tls13/key_schedule.rs` (RFC 8446
section 7.5).

The TLS 1.2 exporter appends the context to the randoms behind a `u16`
length, and `assert!`s first that the length fits: a longer context panics.
The TLS 1.3 exporter runs HKDF-Expand-Label twice; its `info` writes the
length of `"tls13 " ++ label` as a `u8`, so a label of 250 bytes or more is
written with a wrapped length, where RFC 8446 has no encoding at all.  Only
the output length is checked, by `expand_slice`.

HKDF, the PRF and the hash are the suite's providers, uninterpreted:
`expandUnchecked` is HKDF-Expand of any length, which the `HkdfExpander` of
the *ring* and *aws-lc-rs* providers computes once `expand_slice` has checked
the length against `255 * HashLen`, and `hash` is the suite's hash function.
A panic is `none`.
-/

namespace Rustls

/-- RFC 8446's `HkdfLabel` for `HKDF-Expand-Label(_, label, context, length)`:
a `uint16` length, `opaque label<7..255>` holding `"tls13 " ++ label` and
`opaque context<0..255>`; none where a field does not fit. -/
def rfcHkdfLabel (length : Nat) (label context : List UInt8) : Option (List UInt8) :=
  let fullLabel := Bytes.ascii "tls13 " ++ label
  if length < 2 ^ 16 ∧ 7 ≤ fullLabel.length ∧ fullLabel.length ≤ 255 ∧ context.length ≤ 255 then
    some (Bytes.be 2 length ++ [UInt8.ofNat fullLabel.length] ++ fullLabel ++
      [UInt8.ofNat context.length] ++ context)
  else none

/-- `expand_slice` of `HkdfExpanderUsingHmac`: at most `255 * HashLen` bytes. -/
def expandSlice {E : Type} (h : Hkdf E) (expandUnchecked : E → List UInt8 → Nat → List UInt8)
    (expander : E) (info : List (List UInt8)) (outLen : Nat) : Option (List UInt8) :=
  if outLen > 255 * h.hashLen expander then none
  else some (expandUnchecked expander info.flatten outLen)

namespace KeySchedule

variable {E : Type}

/-- `KeySchedule::export_keying_material`, for an output of `outLen` bytes:
the exporter secret for the label, then `"exporter"` over the hash of the
context. -/
def exportKeyingMaterial (ks : KeySchedule E) (hash : List UInt8 → List UInt8)
    (expandUnchecked : E → List UInt8 → Nat → List UInt8) (currentExporterSecret : List UInt8)
    (outLen : Nat) (label : List UInt8) (context : Option (List UInt8)) :
    Except Error (List UInt8) :=
  let h := ks.suite.hkdfProvider
  let secret := hkdfExpandLabelBlock h (h.expanderForOkm currentExporterSecret) label ks.suite.emptyHash
  let hContext := hash (context.getD [])
  match expandSlice h expandUnchecked (h.expanderForOkm secret)
      (hkdfExpandLabelInfo outLen (Bytes.ascii "exporter") hContext) outLen with
  | some out => .ok out
  | none => .error (.general "exporting too much")

/-- Whatever the label, the export succeeds as long as the output is at most
`255 * HashLen`: HKDF-Expand over the `info` as `hkdf_expand_label_inner`
writes it. -/
theorem exportKeyingMaterial_of_le (ks : KeySchedule E) (hash : List UInt8 → List UInt8)
    (expandUnchecked : E → List UInt8 → Nat → List UInt8) (currentExporterSecret : List UInt8)
    {outLen : Nat} (label : List UInt8) (context : Option (List UInt8))
    (hout : outLen ≤ 255 * ks.suite.hkdfProvider.hashLen (ks.suite.hkdfProvider.expanderForOkm
      (hkdfExpandLabelBlock ks.suite.hkdfProvider
        (ks.suite.hkdfProvider.expanderForOkm currentExporterSecret) label ks.suite.emptyHash))) :
    ks.exportKeyingMaterial hash expandUnchecked currentExporterSecret outLen label context =
      .ok (expandUnchecked (ks.suite.hkdfProvider.expanderForOkm
        (hkdfExpandLabelBlock ks.suite.hkdfProvider
          (ks.suite.hkdfProvider.expanderForOkm currentExporterSecret) label ks.suite.emptyHash))
        (hkdfExpandLabelInfo outLen (Bytes.ascii "exporter") (hash (context.getD []))).flatten
        outLen) := by
  have hnot : ¬ outLen > 255 * ks.suite.hkdfProvider.hashLen (ks.suite.hkdfProvider.expanderForOkm
      (hkdfExpandLabelBlock ks.suite.hkdfProvider
        (ks.suite.hkdfProvider.expanderForOkm currentExporterSecret) label ks.suite.emptyHash)) :=
    Nat.not_lt.mpr hout
  simp only [exportKeyingMaterial, expandSlice, hnot, if_false]

end KeySchedule

theorem length_ascii_tls13 : (Bytes.ascii "tls13 ").length = 6 := rfl

/-- Within RFC 8446's bounds the `info` of `hkdf_expand_label_inner` is the
`HkdfLabel` encoding: an output length below `2^16`, a label of 1 to 249
bytes and a context of at most 255. -/
theorem rfcHkdfLabel_eq_flatten {n : Nat} {label context : List UInt8} (hn : n < 2 ^ 16)
    (hpos : 0 < label.length) (hlabel : label.length ≤ 249) (hctx : context.length ≤ 255) :
    rfcHkdfLabel n label context = some (hkdfExpandLabelInfo n label context).flatten := by
  have hfit : n < 2 ^ 16 ∧ 7 ≤ (Bytes.ascii "tls13 " ++ label).length ∧
      (Bytes.ascii "tls13 " ++ label).length ≤ 255 ∧ context.length ≤ 255 := by
    simp only [List.length_append, length_ascii_tls13]
    omega
  simp only [rfcHkdfLabel]
  rw [if_pos hfit]
  simp only [hkdfExpandLabelInfo, List.flatten_cons, List.flatten_nil, List.append_nil,
    List.length_append, List.append_assoc]

/-- A label of 250 bytes or more has no `HkdfLabel` encoding. -/
theorem rfcHkdfLabel_eq_none {n : Nat} {label : List UInt8} (context : List UInt8)
    (hlabel : 250 ≤ label.length) : rfcHkdfLabel n label context = none := by
  have hlong : ¬ (n < 2 ^ 16 ∧ 7 ≤ (Bytes.ascii "tls13 " ++ label).length ∧
      (Bytes.ascii "tls13 " ++ label).length ≤ 255 ∧ context.length ≤ 255) := by
    simp only [List.length_append, length_ascii_tls13]
    omega
  simp only [rfcHkdfLabel, if_neg hlong]

namespace ConnectionSecrets

variable {Enc Dec : Type}

/-- `ConnectionSecrets::export_keying_material`, for an output of `outLen`
bytes; `none` is the panic of its `assert!`. -/
def exportKeyingMaterial (cs : ConnectionSecrets Enc Dec) (outLen : Nat) (label : List UInt8)
    (context : Option (List UInt8)) : Option (List UInt8) :=
  let randoms := cs.randoms.client ++ cs.randoms.server
  match context with
  | some context =>
    if context.length ≤ 0xffff then
      some (cs.suite.prfProvider.forSecret outLen cs.masterSecret label
        (randoms ++ Bytes.be 2 context.length ++ context))
    else none
  | none => some (cs.suite.prfProvider.forSecret outLen cs.masterSecret label randoms)

end ConnectionSecrets

/-- The state `export_keying_material` is passed on to: a TLS 1.2 or TLS 1.3
traffic state, any state before it (whose `export_keying_material` is the
trait's default, `HandshakeNotComplete`), or the error the connection failed
with. -/
inductive ExporterState (Enc Dec E : Type)
  | tls12Traffic (secrets : ConnectionSecrets Enc Dec)
  | tls13Traffic (keySchedule : KeyScheduleTraffic E)
  | handshaking
  | failed (e : Error)

namespace ExporterState

variable {Enc Dec E : Type}

/-- `ConnectionCore::export_keying_material`, with the TLS 1.3 suite's hash and
HKDF-Expand; `none` is a panic. -/
def exportKeyingMaterial (st : ExporterState Enc Dec E) (hash : List UInt8 → List UInt8)
    (expandUnchecked : E → List UInt8 → Nat → List UInt8) (outLen : Nat) (label : List UInt8)
    (context : Option (List UInt8)) : Option (Except Error (List UInt8)) :=
  if outLen = 0 then some (.error (.general "export_keying_material with zero-length output"))
  else
    match st with
    | .tls12Traffic secrets => (secrets.exportKeyingMaterial outLen label context).map .ok
    | .tls13Traffic t =>
      some (t.ks.exportKeyingMaterial hash expandUnchecked t.currentExporterSecret outLen label context)
    | .handshaking => some (.error .handshakeNotComplete)
    | .failed e => some (.error e)

/-- **A TLS 1.2 connection panics on a context longer than `0xffff` bytes.** -/
theorem exportKeyingMaterial_tls12_panics (secrets : ConnectionSecrets Enc Dec)
    (hash : List UInt8 → List UInt8) (expandUnchecked : E → List UInt8 → Nat → List UInt8)
    {outLen : Nat} (hout : 0 < outLen) (label : List UInt8) {context : List UInt8}
    (hlong : 0xffff < context.length) :
    (ExporterState.tls12Traffic secrets : ExporterState Enc Dec E).exportKeyingMaterial hash
      expandUnchecked outLen label (some context) = none := by
  have hlen : ¬ context.length ≤ 0xffff := Nat.not_le.mpr hlong
  simp [exportKeyingMaterial, Nat.pos_iff_ne_zero.mp hout, ConnectionSecrets.exportKeyingMaterial,
    hlen]

end ExporterState

/-- A TLS 1.2 connection with a PRF that only counts bytes, asked for 32 bytes
under the label `EXPERIMENTAL` with a context of 65536 bytes. -/
def countingSecrets : ConnectionSecrets Unit Unit :=
  ⟨⟨List.replicate 32 1, List.replicate 32 2⟩,
    ⟨⟨fun _ _ _ => (), fun _ _ => (), ⟨16, 4, 8⟩⟩, ⟨fun n _ _ _ => List.replicate n 0⟩⟩,
    List.replicate 48 3⟩

theorem exportKeyingMaterial_tls12_panics_on_long_context :
    0 < 32 ∧ 0xffff < (List.replicate 65536 (0 : UInt8)).length ∧
      (ExporterState.tls12Traffic countingSecrets : ExporterState Unit Unit Unit).exportKeyingMaterial
        id (fun _ _ n => List.replicate n 0) 32 (Bytes.ascii "EXPERIMENTAL")
        (some (List.replicate 65536 0)) = none := by
  have hlong : 0xffff < (List.replicate 65536 (0 : UInt8)).length := by
    rw [List.length_replicate]
    decide
  exact ⟨by decide, hlong, ExporterState.exportKeyingMaterial_tls12_panics countingSecrets id
    (fun _ _ n => List.replicate n 0) (by decide) (Bytes.ascii "EXPERIMENTAL") hlong⟩

/-- The export panics rather than returning an error. -/
theorem tls12_export_with_long_context_panics :
    (ExporterState.tls12Traffic countingSecrets : ExporterState Unit Unit Unit).exportKeyingMaterial
        id (fun _ _ n => List.replicate n 0) 32 (Bytes.ascii "EXPERIMENTAL")
        (some (List.replicate 65536 0)) = none := by
  have hlen : ¬ (List.replicate 65536 (0 : UInt8)).length ≤ 0xffff := by
    rw [List.length_replicate]
    decide
  simp only [ExporterState.exportKeyingMaterial, ConnectionSecrets.exportKeyingMaterial, hlen,
    if_false, OfNat.ofNat_ne_zero, Option.map_none]

end Rustls
