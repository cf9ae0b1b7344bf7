import Rustls.Enums

/-!
TLS 1.2 traffic keys: `ConnectionSecrets::make_cipher_pair` of `tls12/mod.rs`.

Both ends expand the master secret with the PRF into one key block, over the
randoms server-first, and cut it into the client's write key, the server's
write key, the client's write IV, the server's write IV and the explicit
nonce block, in that order.  Each end then encrypts with its own write half
and decrypts with its peer's.

The PRF and the AEAD algorithm are the suite's providers, left
uninterpreted: the `Prf` trait's `for_secret`, which fills a buffer of the
given length, and the `Tls12AeadAlgorithm` trait's `encrypter`, `decrypter`
and `key_block_shape`, with the cipher objects as the type parameters `Enc`
and `Dec`.
-/

namespace Rustls

/-- `KeyBlockShape`. -/
structure KeyBlockShape where
  encKeyLen : Nat
  fixedIvLen : Nat
  explicitNonceLen : Nat
  deriving DecidableEq, Repr

/-- The `Tls12AeadAlgorithm` trait: ciphers from slices of the key block. -/
structure Tls12AeadAlgorithm (Enc Dec : Type) where
  encrypter : List UInt8 → List UInt8 → List UInt8 → Enc
  decrypter : List UInt8 → List UInt8 → Dec
  keyBlockShape : KeyBlockShape

/-- The `Prf` trait's `for_secret`: `n` bytes from secret, label and seed. -/
structure Prf where
  forSecret : Nat → List UInt8 → List UInt8 → List UInt8 → List UInt8

/-- What `ConnectionSecrets` reads of a `Tls12CipherSuite`. -/
structure Tls12CipherSuite (Enc Dec : Type) where
  aeadAlg : Tls12AeadAlgorithm Enc Dec
  prfProvider : Prf

/-- `ConnectionRandoms`. -/
structure ConnectionRandoms where
  client : List UInt8
  server : List UInt8
  deriving DecidableEq, Repr

/-- `ConnectionSecrets`. -/
structure ConnectionSecrets (Enc Dec : Type) where
  randoms : ConnectionRandoms
  suite : Tls12CipherSuite Enc Dec
  masterSecret : List UInt8

/-- `join_randoms`. -/
def joinRandoms (first second : List UInt8) : List UInt8 :=
  first ++ second

namespace ConnectionSecrets

variable {Enc Dec : Type}

/-- `make_key_block`: the randoms go in server first. -/
def makeKeyBlock (cs : ConnectionSecrets Enc Dec) : List UInt8 :=
  let shape := cs.suite.aeadAlg.keyBlockShape
  let len := (shape.encKeyLen + shape.fixedIvLen) * 2 + shape.explicitNonceLen
  let randoms := joinRandoms cs.randoms.server cs.randoms.client
  cs.suite.prfProvider.forSecret len cs.masterSecret (Bytes.ascii "key expansion") randoms

/-- `make_cipher_pair`: the decrypter for the peer's write half and the
encrypter for our own. -/
def makeCipherPair (cs : ConnectionSecrets Enc Dec) (side : Side) : Dec × Enc :=
  let keyBlock := cs.makeKeyBlock
  let shape := cs.suite.aeadAlg.keyBlockShape
  let (clientWriteKey, keyBlock) := keyBlock.splitAt shape.encKeyLen
  let (serverWriteKey, keyBlock) := keyBlock.splitAt shape.encKeyLen
  let (clientWriteIv, keyBlock) := keyBlock.splitAt shape.fixedIvLen
  let (serverWriteIv, extra) := keyBlock.splitAt shape.fixedIvLen
  let (writeKey, writeIv, readKey, readIv) :=
    match side with
    | .client => (clientWriteKey, clientWriteIv, serverWriteKey, serverWriteIv)
    | .server => (serverWriteKey, serverWriteIv, clientWriteKey, clientWriteIv)
  (cs.suite.aeadAlg.decrypter readKey readIv, cs.suite.aeadAlg.encrypter writeKey writeIv extra)

/-- **Each end decrypts with the key and IV its peer encrypts with.**  The
two write halves and the explicit block are consecutive slices of one key
block, and the ends differ only in which half they write with. -/
theorem makeCipherPair_halves (cs : ConnectionSecrets Enc Dec) :
    ∃ clientKey clientIv serverKey serverIv extra,
      cs.makeCipherPair .client =
        (cs.suite.aeadAlg.decrypter serverKey serverIv,
          cs.suite.aeadAlg.encrypter clientKey clientIv extra) ∧
      cs.makeCipherPair .server =
        (cs.suite.aeadAlg.decrypter clientKey clientIv,
          cs.suite.aeadAlg.encrypter serverKey serverIv extra) := by
  let shape := cs.suite.aeadAlg.keyBlockShape
  -- the five slices, cut as `make_cipher_pair` cuts them
  let b₁ := (cs.makeKeyBlock.splitAt shape.encKeyLen).2
  let b₂ := (b₁.splitAt shape.encKeyLen).2
  let b₃ := (b₂.splitAt shape.fixedIvLen).2
  refine ⟨(cs.makeKeyBlock.splitAt shape.encKeyLen).1, (b₂.splitAt shape.fixedIvLen).1,
    (b₁.splitAt shape.encKeyLen).1, (b₃.splitAt shape.fixedIvLen).1,
    (b₃.splitAt shape.fixedIvLen).2, ?_, ?_⟩
  · rfl
  · rfl

end ConnectionSecrets

end Rustls
