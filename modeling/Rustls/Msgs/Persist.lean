import Rustls.Msgs.Certificate

/-!
What a server remembers of a session it may resume: `ServerSessionValue` of
`msgs/persist.rs`, with the ticket-age check of `set_freshness`.

A ticket carries the client's view of its age, obfuscated by adding the
`age_obfuscation_offset` the server chose when issuing it.  The server undoes
the offset (modulo `2^32`), computes its own view from the creation time
(in whole seconds, saturating), and calls the value fresh when the two agree
within `MAX_FRESHNESS_SKEW_MS`.  A value that never went through
`set_freshness` is not fresh.

The value reaches the handshake already decoded: the bytes a ticketer or
session store hands back are decoded with `ServerSessionValue::read_bytes`,
and a failure to decode counts as no value at all.

What a client remembers is a `ClientSessionCommon` (the ticket, the secret,
the time it was stored as `epoch`, and a lifetime capped at seven days) inside
a TLS 1.3 or TLS 1.2 session value.  When the client takes one out of its
store it is `Retrieved` at a time, against which `has_expired` checks the
lifetime, and from which `obfuscated_ticket_age` computes the age to send.
A lifetime of zero is taken by `has_expired` to mean "never expires".
-/

namespace Rustls

/-- `MAX_FRESHNESS_SKEW_MS`. -/
def maxFreshnessSkewMs : UInt32 := 60 * 1000

/-- `ServerSessionValue`; the server name is its bytes, and the client's
certificate chain the certificates' DER bytes. -/
structure ServerSessionValue where
  sni : Option (List UInt8)
  version : ProtocolVersion
  cipherSuite : CipherSuite
  masterSecret : List UInt8
  extendedMs : Bool
  clientCertChain : Option (List (List UInt8))
  alpn : Option (List UInt8)
  applicationData : List UInt8
  creationTimeSec : UInt64
  ageObfuscationOffset : UInt32
  freshness : Option Bool
  deriving DecidableEq, Repr

namespace ServerSessionValue

/-- The client's age of the ticket, in milliseconds: `wrapping_sub`. -/
def clientAgeMs (v : ServerSessionValue) (obfuscatedClientAgeMs : UInt32) : UInt32 :=
  obfuscatedClientAgeMs - v.ageObfuscationOffset

/-- The server's age of the ticket, in milliseconds: whole seconds since
creation (`saturating_sub`, then `as u32`), times 1000 (`saturating_mul`). -/
def serverAgeMs (v : ServerSessionValue) (timeNow : UInt64) : UInt32 :=
  let secs : UInt32 :=
    (if v.creationTimeSec ≤ timeNow then timeNow - v.creationTimeSec else 0).toUInt32
  if secs.toNat * 1000 < 2 ^ 32 then secs * 1000 else UInt32.ofNat (2 ^ 32 - 1)

/-- `set_freshness`. -/
def setFreshness (v : ServerSessionValue) (obfuscatedClientAgeMs : UInt32) (timeNow : UInt64) :
    ServerSessionValue :=
  let clientAgeMs := v.clientAgeMs obfuscatedClientAgeMs
  let serverAgeMs := v.serverAgeMs timeNow
  let ageDifference :=
    if clientAgeMs < serverAgeMs then serverAgeMs - clientAgeMs else clientAgeMs - serverAgeMs
  { v with freshness := some (ageDifference ≤ maxFreshnessSkewMs) }

/-- `is_fresh`. -/
def isFresh (v : ServerSessionValue) : Bool :=
  v.freshness.getD false

/-- `set_freshness` changes nothing but the freshness. -/
@[simp] theorem setFreshness_fields (v : ServerSessionValue) (age : UInt32) (now : UInt64) :
    (v.setFreshness age now).sni = v.sni ∧ (v.setFreshness age now).version = v.version ∧
      (v.setFreshness age now).cipherSuite = v.cipherSuite ∧
      (v.setFreshness age now).masterSecret = v.masterSecret ∧
      (v.setFreshness age now).extendedMs = v.extendedMs ∧
      (v.setFreshness age now).alpn = v.alpn :=
  ⟨rfl, rfl, rfl, rfl, rfl, rfl⟩

/-- A value is fresh after `set_freshness` exactly when the two ages are
within `MAX_FRESHNESS_SKEW_MS` of each other, either way round. -/
theorem isFresh_setFreshness (v : ServerSessionValue) (age : UInt32) (now : UInt64) :
    (v.setFreshness age now).isFresh = true ↔
      (v.clientAgeMs age).toNat ≤ (v.serverAgeMs now).toNat + 60000 ∧
        (v.serverAgeMs now).toNat ≤ (v.clientAgeMs age).toNat + 60000 := by
  simp only [setFreshness, isFresh, Option.getD_some, maxFreshnessSkewMs]
  split_ifs with hlt <;> rw [decide_eq_true_iff]
  · -- the server's age is the larger: only the second bound can fail
    have hle : v.clientAgeMs age ≤ v.serverAgeMs now := UInt32.le_of_lt hlt
    rw [UInt32.le_iff_toNat_le, UInt32.toNat_sub_of_le _ _ hle]
    rw [UInt32.le_iff_toNat_le] at hle
    simp only [UInt32.reduceMul, UInt32.reduceToNat]
    omega
  · have hle : v.serverAgeMs now ≤ v.clientAgeMs age := UInt32.not_lt.mp hlt
    rw [UInt32.le_iff_toNat_le, UInt32.toNat_sub_of_le _ _ hle]
    rw [UInt32.le_iff_toNat_le] at hle
    simp only [UInt32.reduceMul, UInt32.reduceToNat]
    omega

/-! ### The stored encoding

A ticketer encrypts, and a session store keeps, `get_encoding()` of the
value.  Each optional field is a presence byte and the field; the reader takes
a field to be there when its byte is 1.  On the way back the server name is
checked again as a DNS name (`DnsName::try_from`, from `pki-types`, here the
predicate `validDnsName`), the version goes through `ProtocolVersion::from`,
the chain through the `U24` list reader with its 64 KiB maximum, and the
freshness starts out unknown. -/

/-- `ServerSessionValue::new`: no extended master secret, freshness unknown. -/
def new (sni : Option (List UInt8)) (v : ProtocolVersion) (cs : CipherSuite) (ms : List UInt8)
    (clientCertChain : Option (List (List UInt8))) (alpn : Option (List UInt8)) (applicationData : List UInt8)
    (creationTime : UInt64) (ageObfuscationOffset : UInt32) : ServerSessionValue :=
  ⟨sni, v, cs, ms, false, clientCertChain, alpn, applicationData, creationTime, ageObfuscationOffset, none⟩

/-- `set_extended_ms_used`. -/
def setExtendedMsUsed (v : ServerSessionValue) : ServerSessionValue :=
  { v with extendedMs := true }

/-- An optional field as `encode` writes it: `1u8` and the value, or `0u8`. -/
def encodeOption {α : Type} (write : α → List UInt8) : Option α → List UInt8
  | some x => 1 :: write x
  | none => [0]

/-- An optional field as `read` takes it: the presence byte, and the value
when the byte is 1. -/
def readOption {α : Type} (read : Bytes.Reader α) : Bytes.Reader (Option α) := fun input =>
  (readU8 input).bind fun (has, rest) =>
    if has = 1 then (read rest).map fun (x, rest) => (some x, rest) else some (none, rest)

/-- The server name: a `PayloadU8`, refused unless it is a DNS name. -/
def readSni (validDnsName : List UInt8 → Bool) : Bytes.Reader (List UInt8) := fun input =>
  (PayloadU8.read input).bind fun (name, rest) => if validDnsName name then some (name, rest) else none

/-- `ServerSessionValue::encode`. -/
def encode (v : ServerSessionValue) : List UInt8 :=
  encodeOption PayloadU8.encode v.sni ++ encodeU16 v.version.toU16 ++ encodeU16 v.cipherSuite.value ++
    PayloadU8.encode v.masterSecret ++ [if v.extendedMs then 1 else 0] ++
    encodeOption CertificateChain.encode v.clientCertChain ++ encodeOption PayloadU8.encode v.alpn ++
    PayloadU16.encode v.applicationData ++ encodeU64 v.creationTimeSec ++ encodeU32 v.ageObfuscationOffset

/-- `ServerSessionValue::read`. -/
def read (validDnsName : List UInt8 → Bool) : Bytes.Reader ServerSessionValue := fun r => do
  let (sni, r) ← readOption (readSni validDnsName) r
  let (v, r) ← readU16 r
  let (cs, r) ← readU16 r
  let (ms, r) ← PayloadU8.read r
  let (ems, r) ← readU8 r
  let (ccert, r) ← readOption CertificateChain.read r
  let (alpn, r) ← readOption PayloadU8.read r
  let (applicationData, r) ← PayloadU16.read r
  let (creationTimeSec, r) ← readU64 r
  let (ageObfuscationOffset, r) ← readU32 r
  pure (⟨sni, .ofU16 v, ⟨cs⟩, ms, ems == 1, ccert, alpn, applicationData, creationTimeSec,
    ageObfuscationOffset, none⟩, r)

/-- What `read` needs of a value to take back its encoding: every length
within its prefix, the server name a DNS name, and the chain within
`CERTIFICATE_MAX_SIZE_LIMIT`. -/
structure Readable (validDnsName : List UInt8 → Bool) (v : ServerSessionValue) : Prop where
  sni : ∀ name, v.sni = some name → validDnsName name = true ∧ name.length < 256
  masterSecret : v.masterSecret.length < 256
  clientCertChain : ∀ certs, v.clientCertChain = some certs →
    (∀ cert ∈ certs, cert.length < 2 ^ 24) ∧
      (certs.flatMap CertificateDer.encode).length ≤ certificateMaxSizeLimit
  alpn : ∀ protocol, v.alpn = some protocol → protocol.length < 256
  applicationData : v.applicationData.length < 2 ^ 16

/-- An optional field reads back when its value does. -/
theorem readOption_encodeOption {α : Type} (read : Bytes.Reader α) (write : α → List UInt8) {o : Option α}
    (h : ∀ x, o = some x → ∀ rest, read (write x ++ rest) = some (x, rest)) (rest : List UInt8) :
    readOption read (encodeOption write o ++ rest) = some (o, rest) := by
  cases o with
  | none => rfl
  | some x =>
    rw [encodeOption, List.cons_append, readOption, readU8_cons, Option.bind_some]
    dsimp only
    rw [if_pos rfl, h x rfl rest, Option.map_some]

theorem readSni_encode {validDnsName : List UInt8 → Bool} {name : List UInt8}
    (hvalid : validDnsName name = true) (hlen : name.length < 256) (rest : List UInt8) :
    readSni validDnsName (PayloadU8.encode name ++ rest) = some (name, rest) := by
  rw [readSni, PayloadU8.read_encode hlen, Option.bind_some]
  dsimp only
  rw [if_pos hvalid]

theorem extendedMs_byte (b : Bool) : ((if b then 1 else 0 : UInt8) == 1) = b := by
  cases b <;> rfl

/-- **What `read` takes back from an encoding**: the value, with the version
through `ProtocolVersion::from` and the freshness unknown, whatever follows. -/
theorem read_encode {validDnsName : List UInt8 → Bool} {v : ServerSessionValue} (h : v.Readable validDnsName)
    (rest : List UInt8) :
    ServerSessionValue.read validDnsName (v.encode ++ rest) =
      some ({ v with version := .ofU16 v.version.toU16, freshness := none }, rest) := by
  have hsni := readOption_encodeOption (readSni validDnsName) PayloadU8.encode
    (fun name hname rest => readSni_encode (h.sni name hname).1 (h.sni name hname).2 rest)
  have hchain := readOption_encodeOption CertificateChain.read CertificateChain.encode
    (fun certs hcerts rest => CertificateChain.read_encode (h.clientCertChain certs hcerts).1
      (h.clientCertChain certs hcerts).2 rest)
  have halpn := readOption_encodeOption PayloadU8.read PayloadU8.encode
    (fun protocol hprotocol rest => PayloadU8.read_encode (h.alpn protocol hprotocol) rest)
  simp only [encode, List.append_assoc, List.cons_append, List.nil_append]
  dsimp only [ServerSessionValue.read, Option.bind_eq_bind]
  -- the fields in the order `read` takes them; rewriting at the top, not
  -- under the binders of the do block, keeps this fast
  rw [hsni, Option.bind_some, readU16_encodeU16, Option.bind_some, readU16_encodeU16, Option.bind_some,
    PayloadU8.read_encode h.masterSecret, Option.bind_some, readU8_cons, Option.bind_some, hchain, Option.bind_some,
    halpn, Option.bind_some, PayloadU16.read_encode h.applicationData, Option.bind_some, readU64_encodeU64,
    Option.bind_some, readU32_encodeU32, Option.bind_some, extendedMs_byte]
  rfl

/-- The stored value stops being read at a client certificate chain beyond
`CERTIFICATE_MAX_SIZE_LIMIT`, whatever follows it. -/
theorem read_encode_of_chain_too_large {validDnsName : List UInt8 → Bool} {v : ServerSessionValue}
    (hsni : ∀ name, v.sni = some name → validDnsName name = true ∧ name.length < 256)
    (hms : v.masterSecret.length < 256) {certs : List (List UInt8)} (hcerts : v.clientCertChain = some certs)
    (hmax : certificateMaxSizeLimit < (certs.flatMap CertificateDer.encode).length)
    (hfit : (certs.flatMap CertificateDer.encode).length < 2 ^ 24) (rest : List UInt8) :
    ServerSessionValue.read validDnsName (v.encode ++ rest) = none := by
  have hsni' := readOption_encodeOption (readSni validDnsName) PayloadU8.encode
    (fun name hname rest => readSni_encode (hsni name hname).1 (hsni name hname).2 rest)
  have hchain : ∀ rest, readOption CertificateChain.read
      (encodeOption CertificateChain.encode v.clientCertChain ++ rest) = none := by
    intro rest
    rw [hcerts, encodeOption, List.cons_append, readOption, readU8_cons, Option.bind_some]
    dsimp only
    rw [if_pos rfl, CertificateChain.read_encode_of_lt hmax hfit, Option.map_none]
  simp only [encode, List.append_assoc, List.cons_append, List.nil_append]
  dsimp only [ServerSessionValue.read, Option.bind_eq_bind]
  rw [hsni', Option.bind_some, readU16_encodeU16, Option.bind_some, readU16_encodeU16, Option.bind_some,
    PayloadU8.read_encode hms, Option.bind_some, readU8_cons, Option.bind_some, hchain, Option.bind_none]

end ServerSessionValue

/-! ### What a client remembers -/

/-- `MAX_TICKET_LIFETIME`: seven days, in seconds. -/
def maxTicketLifetime : UInt32 := 7 * 24 * 60 * 60

/-- `ClientSessionCommon`, without the server's certificate chain. -/
structure ClientSessionCommon where
  ticket : List UInt8
  secret : List UInt8
  epoch : UInt64
  lifetimeSecs : UInt32
  deriving DecidableEq, Repr

/-- `ClientSessionCommon::new`: the lifetime is capped at `MAX_TICKET_LIFETIME`. -/
def ClientSessionCommon.new (ticket secret : List UInt8) (timeNow : UInt64) (lifetimeSecs : UInt32) :
    ClientSessionCommon :=
  ⟨ticket, secret, timeNow, min lifetimeSecs maxTicketLifetime⟩

/-- `Tls13ClientSessionValue`, without the QUIC transport parameters; the
suite is its code point, with the output length of its hash. -/
structure Tls13ClientSessionValue where
  suite : CipherSuite
  hashLen : Nat
  ageAdd : UInt32
  maxEarlyDataSize : UInt32
  common : ClientSessionCommon
  deriving DecidableEq, Repr

/-- `Tls13ClientSessionValue::new`. -/
def Tls13ClientSessionValue.new (suite : CipherSuite) (hashLen : Nat) (ticket secret : List UInt8)
    (timeNow : UInt64) (lifetimeSecs ageAdd maxEarlyDataSize : UInt32) : Tls13ClientSessionValue :=
  ⟨suite, hashLen, ageAdd, maxEarlyDataSize, .new ticket secret timeNow lifetimeSecs⟩

/-- `Tls12ClientSessionValue`, with the fields a resumption reads. -/
structure Tls12ClientSessionValue where
  suite : CipherSuite
  sessionId : List UInt8
  extendedMs : Bool
  common : ClientSessionCommon
  deriving DecidableEq, Repr

/-- `ClientSessionValue` of `client/hs.rs`. -/
inductive ClientSessionValue
  | tls13 (value : Tls13ClientSessionValue)
  | tls12 (value : Tls12ClientSessionValue)
  deriving DecidableEq, Repr

/-- The `Deref` of a session value to its `ClientSessionCommon`. -/
def ClientSessionValue.common : ClientSessionValue → ClientSessionCommon
  | .tls13 value => value.common
  | .tls12 value => value.common

/-- `Retrieved`: a value, with the time in seconds at which it was taken out
of the store. -/
structure Retrieved (T : Type) where
  value : T
  retrievedAt : UInt64
  deriving DecidableEq, Repr

namespace Retrieved

/-- `has_expired`, for a value that dereferences to `common`: a lifetime of
zero never expires, and the expiry time is a `saturating_add`. -/
def hasExpired {T : Type} (common : T → ClientSessionCommon) (r : Retrieved T) : Bool :=
  let c := common r.value
  let expiry : UInt64 :=
    if c.epoch.toNat + c.lifetimeSecs.toNat < 2 ^ 64 then c.epoch + c.lifetimeSecs.toUInt64
    else UInt64.ofNat (2 ^ 64 - 1)
  c.lifetimeSecs != 0 && expiry < r.retrievedAt

/-- The age in whole seconds `obfuscated_ticket_age` starts from: a
`saturating_sub`. -/
def ageSecs (r : Retrieved Tls13ClientSessionValue) : UInt64 :=
  if r.value.common.epoch ≤ r.retrievedAt then r.retrievedAt - r.value.common.epoch else 0

/-- `obfuscated_ticket_age`: the age in seconds `as u32`, times 1000, plus
`age_add` (`wrapping_add`).  The multiplication is a plain `*`, which wraps
here as it does in a build without overflow checks; a build with them panics
where the product is `2^32` or more. -/
def obfuscatedTicketAge (r : Retrieved Tls13ClientSessionValue) : UInt32 :=
  r.ageSecs.toUInt32 * 1000 + r.value.ageAdd

/-- A lifetime of zero never expires. -/
theorem hasExpired_of_lifetimeSecs_eq_zero {T : Type} {common : T → ClientSessionCommon}
    {r : Retrieved T} (h : (common r.value).lifetimeSecs = 0) : r.hasExpired common = false := by
  simp [hasExpired, h]

/-- A positive lifetime expires once the time is past its end. -/
theorem hasExpired_iff {T : Type} {common : T → ClientSessionCommon} {r : Retrieved T}
    (hpos : (common r.value).lifetimeSecs ≠ 0)
    (hfit : (common r.value).epoch.toNat + (common r.value).lifetimeSecs.toNat < 2 ^ 64) :
    r.hasExpired common = true ↔
      (common r.value).epoch.toNat + (common r.value).lifetimeSecs.toNat < r.retrievedAt.toNat := by
  have hsum : ((common r.value).epoch + (common r.value).lifetimeSecs.toUInt64).toNat =
      (common r.value).epoch.toNat + (common r.value).lifetimeSecs.toNat := by
    rw [UInt64.toNat_add, UInt32.toNat_toUInt64]
    exact Nat.mod_eq_of_lt hfit
  have hne : ((common r.value).lifetimeSecs != 0) = true := bne_iff_ne.mpr hpos
  simp only [hasExpired, if_pos hfit, hne, Bool.true_and, decide_eq_true_eq,
    UInt64.lt_iff_toNat_lt, hsum]

/-- The age sent is the age in milliseconds plus `age_add`, modulo `2^32`, for
an age below `2^32` seconds. -/
theorem toNat_obfuscatedTicketAge {r : Retrieved Tls13ClientSessionValue}
    (hage : r.ageSecs.toNat < 2 ^ 32) :
    r.obfuscatedTicketAge.toNat = (r.ageSecs.toNat * 1000 + r.value.ageAdd.toNat) % 2 ^ 32 := by
  have hsecs : r.ageSecs.toUInt32.toNat = r.ageSecs.toNat := by
    rw [UInt64.toNat_toUInt32]
    exact Nat.mod_eq_of_lt hage
  rw [obfuscatedTicketAge, UInt32.toNat_add, UInt32.toNat_mul, hsecs]
  simp only [UInt32.reduceToNat]
  omega

/-- The age in seconds is the time since the value was stored. -/
theorem toNat_ageSecs {r : Retrieved Tls13ClientSessionValue}
    (hle : r.value.common.epoch ≤ r.retrievedAt) :
    r.ageSecs.toNat = r.retrievedAt.toNat - r.value.common.epoch.toNat := by
  rw [ageSecs, if_pos hle, UInt64.toNat_sub_of_le _ _ hle]

end Retrieved

end Rustls
