import Rustls.Client.Ech
import Rustls.HashHs
import Rustls.Lib.FirstMatch

/-!
The ECH inner hello on the server's side: what `encode_inner_hello` sends,
decoded and expanded as section 5.1 of draft-ietf-tls-esni-18 says, is the
ClientHello that it adds to the inner transcript.

`encode_inner_hello` ends by adding the inner hello, as a ClientHello
handshake message, to `inner_hello_transcript`.  `ech_hello` then sends the
outer hello with its PSK extension GREASEd and the ECH extension at the end.
The server parses the EncodedClientHelloInner, checks that what follows it is
zeros, takes `legacy_session_id` from the outer hello, and replaces the
`ech_outer_extensions` marker by the outer extensions of the types it lists,
found by a cursor that only moves forward (`copyOuterExtensions`).

The round trip rests on the shape of the inner extensions (`Spliced`).  The
compressed block is the outer hello's compressible extensions in their order,
and what stands around it is written as itself and has a type that is never
compressed.  So the first extension of the first compressed type is where the
block starts, the marker takes its place, and the cursor meets the compressed
extensions one by one in the outer hello, whatever else it holds and
whichever of them share a type.  The lengths the encoding writes must fit
their prefixes (`InnerEncodingFits`): a length that wraps makes the server
read something else.
-/

namespace Rustls

/-! ### The inner hello in the transcript -/

/-- `ClientHelloPayload::payload_encode` with `Encoding::Standard`: the
session id as it is, and the extensions when there are any. -/
def ClientHello.payloadEncode (ch : ClientHello) : List UInt8 :=
  ch.clientVersion.toArray ++ ch.random ++ PayloadU8.encode ch.sessionId ++
    encodeVec .u16 (fun cs => encodeU16 cs.value) ch.cipherSuites ++
    encodeVec .u8 (fun c => [c]) ch.payload.compressionMethods ++
    (if ch.payload.extensions.isEmpty then [] else encodeVec .u16 ClientExtension.encode ch.payload.extensions)

/-- `HandshakeMessagePayload::encode` of a ClientHello: the type byte 1, then
the hello in a `U24` `LengthPrefixedBuffer`. -/
def ClientHello.handshakeEncoding (ch : ClientHello) : List UInt8 :=
  0x01 :: lengthPrefixedBuffer .u24 ch.payloadEncode

namespace EchState

/-- The inner hello `encode_inner_hello` builds, with the PSK binder filled in
when resuming, and the types of the extensions it compresses. -/
def innerHello (st : EchState) (outer : ClientHello) (binder : Option (ClientHelloPayload → List UInt8)) :
    ClientHello × List ExtensionType :=
  let (extensions, compressedTypes) := st.innerExtensions outer.payload.extensions
  let inner : ClientHello :=
    ⟨outer.clientVersion, st.innerHelloRandom, outer.sessionId,
      outer.cipherSuites.filter (· ≠ .tlsEmptyRenegotiationInfoScsv),
      ⟨outer.payload.compressionMethods, extensions⟩⟩
  let inner :=
    match binder with
    | some binder => { inner with payload := inner.payload.setPskBinder (binder inner.payload) }
    | none => inner
  (inner, compressedTypes)

/-- What `encode_inner_hello` returns is the ECH encoding of that inner hello,
then zeros. -/
theorem encodeInnerHello_eq_innerHello (st : EchState) (outer : ClientHello)
    (binder : Option (ClientHelloPayload → List UInt8)) :
    ∃ paddingLen, (st.encodeInnerHello outer binder).1 =
      (st.innerHello outer binder).1.echInnerEncoding (st.innerHello outer binder).2 ++
        List.replicate paddingLen 0 :=
  ⟨_, rfl⟩

/-- `inner_hello_msg`: the inner hello as a ClientHello handshake message, in
a record of TLS 1.2 after a HelloRetryRequest (`retryreq`) and of TLS 1.0
before one. -/
def innerHelloMsg (st : EchState) (outer : ClientHello) (retryreq : Bool)
    (binder : Option (ClientHelloPayload → List UInt8)) : Message ClientHello :=
  let inner := (st.innerHello outer binder).1
  ⟨if retryreq then .tlsv1_2 else .tlsv1_0, .handshake inner inner.handshakeEncoding⟩

/-- The last step of `encode_inner_hello`: `inner_hello_transcript.add_message`
of the inner hello. -/
def addInnerHelloMsg (st : EchState) (innerHelloTranscript : HandshakeHashBuffer) (outer : ClientHello)
    (retryreq : Bool) (binder : Option (ClientHelloPayload → List UInt8)) : HandshakeHashBuffer :=
  innerHelloTranscript.addMessage (st.innerHelloMsg outer retryreq binder)

/-- The outer hello's extensions as `ech_hello` sends them: a PSK extension in
last place replaced by the one `grease_psk` makes of it, and the ECH extension
carrying the sealed inner hello put last. -/
def echHelloExtensions (exts : List ClientExtension) (greasePsk : PresharedKeyOffer → PresharedKeyOffer)
    (outerExt : List UInt8) : List ClientExtension :=
  let exts :=
    match exts.getLast? with
    | some (.presharedKey offer) => exts.dropLast ++ [.presharedKey (greasePsk offer)]
    | _ => exts
  exts ++ [.encryptedClientHello outerExt]

end EchState

/-! ### Section 5.1 on the server -/

/-- One extension off the front of an extension block: its type, and its body
behind a `u16` length. -/
def readExtension : Bytes.Reader (UInt16 × List UInt8) := fun input =>
  (readU16 input).bind fun (typ, rest) => (PayloadU16.read rest).map fun (body, rest) => ((typ, body), rest)

/-- An extension written from its type and body. -/
def encodeExtension (ext : UInt16 × List UInt8) : List UInt8 :=
  encodeU16 ext.1 ++ PayloadU16.encode ext.2

/-- An extension as the server reads it off the wire: its type, and the bytes
after its type and length. -/
def ClientExtension.raw (ext : ClientExtension) : UInt16 × List UInt8 :=
  (ext.extType.value, ext.encode.drop 4)

/-- EncodedClientHelloInner as the server parses it: the fields of a
ClientHello, with the cipher suites and compression methods as bytes and the
extensions as types and bodies. -/
structure EncodedClientHelloInner where
  legacyVersion : List UInt8
  random : List UInt8
  legacySessionId : List UInt8
  cipherSuites : List UInt8
  compressionMethods : List UInt8
  extensions : List (UInt16 × List UInt8)
  deriving DecidableEq, Repr

/-- The parser of EncodedClientHelloInner; what follows it is the padding. -/
def EncodedClientHelloInner.read : Bytes.Reader EncodedClientHelloInner := fun r => do
  let (legacyVersion, r) ← Bytes.takeExact 2 r
  let (random, r) ← Bytes.takeExact 32 r
  let (legacySessionId, r) ← PayloadU8.read r
  let (cipherSuites, r) ← PayloadU16.read r
  let (compressionMethods, r) ← PayloadU8.read r
  let (extensions, r) ← Bytes.readList 2 readExtension r
  pure (⟨legacyVersion, random, legacySessionId, cipherSuites, compressionMethods, extensions⟩, r)

/-- The cursor of section 5.1 over the outer extensions: for each listed type,
the first outer extension of that type after the last one copied, and never
`encrypted_client_hello`.  With what is copied comes what is left after the
cursor. -/
def copyOuterExtensions :
    List ClientExtension → List UInt16 → Option (List ClientExtension × List ClientExtension)
  | outer, [] => some ([], outer)
  | outer, typ :: types =>
    if typ = ExtensionType.encryptedClientHello.value then none
    else
      match outer.dropWhile (fun ext => ext.extType.value != typ) with
      | [] => none
      | ext :: outer => (copyOuterExtensions outer types).map fun (copied, outer) => (ext :: copied, outer)

/-- The extensions of ClientHelloInner written out: an `ech_outer_extensions`
marker replaced by the outer extensions it lists, every other extension as
it is. -/
def expandExtensions : List ClientExtension → List (UInt16 × List UInt8) → Option (List UInt8)
  | _, [] => some []
  | outer, ext :: exts =>
    if ext.1 = ExtensionType.encryptedClientHelloOuterExtensions.value then
      (readBytes (readVec .u8 readU16) ext.2).bind fun types =>
        (copyOuterExtensions outer types).bind fun (copied, outer) =>
          (expandExtensions outer exts).map (copied.flatMap ClientExtension.encode ++ ·)
    else (expandExtensions outer exts).map (encodeExtension ext ++ ·)

/-- Section 5.1 on the server: EncodedClientHelloInner parsed and the rest
checked to be zeros, then ClientHelloInner written with the outer hello's
`legacy_session_id` and its `ech_outer_extensions` expanded. -/
def decodeClientHelloInner (outerSessionId : List UInt8) (outerExtensions : List ClientExtension)
    (encoded : List UInt8) : Option (List UInt8) :=
  (EncodedClientHelloInner.read encoded).bind fun (inner, padding) =>
    if padding.all (· == 0) then
      (expandExtensions outerExtensions inner.extensions).map fun extensions =>
        inner.legacyVersion ++ inner.random ++ PayloadU8.encode outerSessionId ++
          PayloadU16.encode inner.cipherSuites ++ PayloadU8.encode inner.compressionMethods ++
          PayloadU16.encode extensions
    else none

/-! ### The shape of the inner extensions -/

/-- An extension the inner encoding writes as itself: not one to compress,
and not a marker. -/
def ClientExtension.Inline (ext : ClientExtension) : Prop :=
  ext.extType.echCompress = false ∧ ext.extType ≠ .encryptedClientHelloOuterExtensions

theorem ClientExtension.inline_echInner : ClientExtension.echInner.Inline :=
  ⟨by decide, by decide⟩

theorem ClientExtension.inline_makeSni (name : List UInt8) : (ClientExtension.makeSni name).Inline := by
  show ExtensionType.serverName.echCompress = false ∧ ExtensionType.serverName ≠ _
  exact ⟨by decide, by decide⟩

theorem ClientExtension.inline_presharedKey (offer : PresharedKeyOffer) :
    (ClientExtension.presharedKey offer).Inline := by
  show ExtensionType.preSharedKey.echCompress = false ∧ ExtensionType.preSharedKey ≠ _
  exact ⟨by decide, by decide⟩

/-- The inner hello's extensions around its compressed block `block`: written
as themselves, and at least one of them (the ECH `Inner` extension). -/
structure Spliced (block : List ClientExtension) where
  pre : List ClientExtension
  post : List ClientExtension
  inline : ∀ ext ∈ pre ++ post, ext.Inline
  nonempty : pre ++ post ≠ []

/-- The extensions, with the block in its place. -/
def Spliced.extensions {block : List ClientExtension} (s : Spliced block) : List ClientExtension :=
  s.pre ++ block ++ s.post

namespace EchState

/-- One round of the loop: an outer extension to compress goes to the block,
and whatever else the round adds is written as itself. -/
theorem innerExtensionStep_eq (innerSni : Option (List UInt8))
    (acc : List ClientExtension × List ClientExtension × List ExtensionType) {ext : ClientExtension}
    (hext : ext.extType ≠ .encryptedClientHelloOuterExtensions) :
    ∃ added, (∀ e ∈ added, e.Inline) ∧
      innerExtensionStep innerSni acc ext =
        (acc.1 ++ added, acc.2.1 ++ [ext].filter (·.extType.echCompress),
          acc.2.2 ++ ([ext].filter (·.extType.echCompress)).map ClientExtension.extType) := by
  obtain ⟨exts, compressed, compressedTypes⟩ := acc
  by_cases hcompress : ext.extType.echCompress = true
  · -- none of the types handled before the last branch is compressed
    have hne : ∀ t : ExtensionType, t.echCompress = false → ext.extType ≠ t := by
      intro t ht h
      rw [h, ht] at hcompress
      contradiction
    have htls12 : ¬(ext.extType = .extendedMasterSecret ∨ ext.extType = .sessionTicket ∨
        ext.extType = .ecPointFormats) := by
      rintro (h | h | h) <;> exact hne _ (by decide) h
    have hfilter : [ext].filter (·.extType.echCompress) = [ext] := by simp [hcompress]
    refine ⟨[], by simp, ?_⟩
    simp only [innerExtensionStep, if_neg htls12, if_neg (hne .serverName (by decide)), if_pos hcompress,
      hfilter, List.append_nil, List.map_cons, List.map_nil]
  · have hplain : ext.extType.echCompress = false := Bool.eq_false_iff.mpr hcompress
    have hfilter : [ext].filter (·.extType.echCompress) = [] := by simp [hplain]
    rw [hfilter, List.map_nil]
    simp only [innerExtensionStep, List.append_nil]
    by_cases htls12 : ext.extType = .extendedMasterSecret ∨ ext.extType = .sessionTicket ∨
        ext.extType = .ecPointFormats
    · exact ⟨[], by simp, by rw [if_pos htls12, List.append_nil]⟩
    rw [if_neg htls12]
    by_cases hsni : ext.extType = .serverName
    · rw [if_pos hsni]
      cases innerSni with
      | some name => exact ⟨[.makeSni name], by simpa using ClientExtension.inline_makeSni name, rfl⟩
      | none => exact ⟨[], by simp, by rw [List.append_nil]⟩
    · rw [if_neg hsni, if_neg hcompress]
      exact ⟨[ext], List.forall_mem_singleton.mpr ⟨hplain, hext⟩, rfl⟩

/-- The whole loop: the block is the outer extensions to compress, in their
order, and everything added around it is written as itself. -/
theorem foldl_innerExtensionStep (innerSni : Option (List UInt8)) {outer : List ClientExtension}
    (houter : ∀ ext ∈ outer, ext.extType ≠ .encryptedClientHelloOuterExtensions)
    (acc : List ClientExtension × List ClientExtension × List ExtensionType) :
    ∃ added, (∀ e ∈ added, e.Inline) ∧
      outer.foldl (innerExtensionStep innerSni) acc =
        (acc.1 ++ added, acc.2.1 ++ outer.filter (·.extType.echCompress),
          acc.2.2 ++ (outer.filter (·.extType.echCompress)).map ClientExtension.extType) := by
  induction outer generalizing acc with
  | nil => exact ⟨[], by simp, by simp⟩
  | cons ext outer ih =>
    rw [List.forall_mem_cons] at houter
    obtain ⟨added, hadded, hstep⟩ := innerExtensionStep_eq innerSni acc houter.1
    obtain ⟨rest, hrest, hfold⟩ := ih houter.2 (innerExtensionStep innerSni acc ext)
    refine ⟨added ++ rest, ?_, ?_⟩
    · intro e he
      exact (List.mem_append.mp he).elim (hadded e) (hrest e)
    · -- `ext :: outer` filters as `[ext]`, then `outer`
      have hfilter : (ext :: outer).filter (·.extType.echCompress) =
          [ext].filter (·.extType.echCompress) ++ outer.filter (·.extType.echCompress) := by
        rw [← List.filter_append, List.singleton_append]
      rw [List.foldl_cons, hfold, hstep, hfilter, List.map_append]
      simp only [List.append_assoc]

/-- The inner hello's extensions, before the binder: the outer extensions to
compress as one block, spliced into extensions written as themselves. -/
theorem innerExtensions_spliced (st : EchState) {outer : List ClientExtension}
    (houter : ∀ ext ∈ outer, ext.extType ≠ .encryptedClientHelloOuterExtensions) :
    ∃ s : Spliced (outer.filter (·.extType.echCompress)),
      st.innerExtensions outer = (s.extensions, (outer.filter (·.extType.echCompress)).map ClientExtension.extType) := by
  obtain ⟨added, hadded, hfold⟩ := foldl_innerExtensionStep st.innerSni houter ([.echInner], [], [])
  have hinline : ∀ e ∈ [ClientExtension.echInner] ++ added, e.Inline :=
    List.forall_mem_cons.mpr ⟨ClientExtension.inline_echInner, hadded⟩
  unfold innerExtensions
  rw [hfold]
  -- the block goes in at some position of `echInner :: added`
  refine ⟨⟨_, _, ?_, ?_⟩, rfl⟩
  · rw [List.take_append_drop]
    exact hinline
  · rw [List.take_append_drop]
    simp

/-- Filling in the binder keeps the shape: it only replaces a PSK extension in
last place, which is not in the block and is written as itself. -/
theorem setPskBinder_spliced {block : List ClientExtension}
    (hblock : ∀ ext ∈ block, ext.extType.echCompress = true) (s : Spliced block)
    (compressionMethods binder : List UInt8) :
    ∃ s' : Spliced block, (ClientHelloPayload.mk compressionMethods s.extensions).setPskBinder binder =
      ⟨compressionMethods, s'.extensions⟩ := by
  unfold ClientHelloPayload.setPskBinder
  split
  · rename_i offer hlast
    have hpsk := ClientExtension.inline_presharedKey { offer with binders := offer.binders.set 0 binder }
    by_cases hpost : s.post = []
    · -- the last extension stands before the block, which is then empty
      have hblock_nil : block = [] := by
        by_contra hne
        have hlast' : block.getLast? = some (.presharedKey offer) := by
          rw [← hlast, Spliced.extensions, hpost, List.append_nil, List.getLast?_append_of_ne_nil _ hne]
        have hcompress := hblock _ (List.mem_of_getLast? hlast')
        rw [(ClientExtension.inline_presharedKey offer).1] at hcompress
        contradiction
      subst hblock_nil
      refine ⟨⟨s.pre.dropLast ++ [.presharedKey { offer with binders := offer.binders.set 0 binder }], [], ?_, by simp⟩,
        by simp [Spliced.extensions, hpost]⟩
      have hpre : ∀ ext ∈ s.pre, ext.Inline := fun ext h => s.inline ext (List.mem_append_left _ h)
      intro ext hext
      simp only [List.append_nil, List.mem_append, List.mem_singleton] at hext
      exact hext.elim (fun h => hpre ext (List.mem_of_mem_dropLast h)) (fun h => h ▸ hpsk)
    · -- the binder replaces the last extension after the block
      refine ⟨⟨s.pre, s.post.dropLast ++ [.presharedKey { offer with binders := offer.binders.set 0 binder }], ?_, by simp⟩,
        ?_⟩
      · intro ext hext
        simp only [List.mem_append, List.mem_singleton] at hext
        rcases hext with h | h | h
        · exact s.inline ext (List.mem_append_left _ h)
        · exact s.inline ext (List.mem_append_right _ (List.mem_of_mem_dropLast h))
        · exact h ▸ hpsk
      · have hne : block ++ s.post ≠ [] := by simp [hpost]
        simp only [Spliced.extensions, List.append_assoc, List.dropLast_append_of_ne_nil hne,
          List.dropLast_append_of_ne_nil hpost]
  · exact ⟨s, rfl⟩

/-- **The inner hello's shape**: the outer hello's fields, the inner random,
and extensions that splice the outer extensions to compress, as one block,
into extensions written as themselves; the types it compresses are the
block's. -/
theorem innerHello_eq (st : EchState) (outer : ClientHello) (binder : Option (ClientHelloPayload → List UInt8))
    (houter : ∀ ext ∈ outer.payload.extensions, ext.extType ≠ .encryptedClientHelloOuterExtensions) :
    ∃ s : Spliced (outer.payload.extensions.filter (·.extType.echCompress)),
      st.innerHello outer binder =
        (⟨outer.clientVersion, st.innerHelloRandom, outer.sessionId,
            outer.cipherSuites.filter (· ≠ .tlsEmptyRenegotiationInfoScsv),
            ⟨outer.payload.compressionMethods, s.extensions⟩⟩,
          (outer.payload.extensions.filter (·.extType.echCompress)).map ClientExtension.extType) := by
  obtain ⟨s, hs⟩ := st.innerExtensions_spliced houter
  have hblock : ∀ ext ∈ outer.payload.extensions.filter (·.extType.echCompress), ext.extType.echCompress = true :=
    fun ext hext => (List.mem_filter.mp hext).2
  unfold innerHello
  rw [hs]
  cases binder with
  | none => exact ⟨s, rfl⟩
  | some binder =>
    obtain ⟨s', hs'⟩ := setPskBinder_spliced hblock s outer.payload.compressionMethods
      (binder ⟨outer.payload.compressionMethods, s.extensions⟩)
    exact ⟨s', by dsimp only; rw [hs']⟩

end EchState

/-- **The marker takes the block's place**: the first extension of the first
compressed type is the block's first, as nothing before it is compressed. -/
theorem echInnerExtensions_spliced {block : List ClientExtension}
    (hblock : ∀ ext ∈ block, ext.extType.echCompress = true) (hne : block ≠ []) (s : Spliced block) :
    echInnerExtensions s.extensions (block.map ClientExtension.extType) =
      s.pre ++ ClientExtension.echOuterExtensions (block.map ClientExtension.extType) :: s.post := by
  obtain ⟨first, rest, rfl⟩ := List.exists_cons_of_ne_nil hne
  have hfirst : first.extType.echCompress = true := hblock first List.mem_cons_self
  have hstart : s.extensions.findIdx? (fun ext => decide (ext.extType = first.extType)) = some s.pre.length := by
    rw [Spliced.extensions, List.append_assoc, List.cons_append]
    refine List.findIdx?_append_cons (fun ext hext => ?_) (by simp)
    -- what stands before the block is not compressed, and `first` is
    have hplain := (s.inline ext (List.mem_append_left _ hext)).1
    rw [decide_eq_false_iff_not]
    intro heq
    rw [heq, hfirst] at hplain
    contradiction
  simp only [echInnerExtensions, List.map_cons, hstart, List.length_cons, List.length_map]
  -- before the block every extension stays, at its start the marker, and after it everything stays
  rw [Spliced.extensions, List.zipIdx_append, List.zipIdx_append, List.filterMap_append, List.filterMap_append,
    @List.filterMap_zipIdx_of_keep _ _ s.pre 0 (fun x i hi hlt => ?_), List.zipIdx_cons, List.filterMap_cons,
    @List.filterMap_zipIdx_of_drop _ _ rest _ (fun x i hi hlt => ?_),
    @List.filterMap_zipIdx_of_keep _ _ s.post _ (fun x i hi hlt => ?_)]
  · simp
  · -- after the block
    simp only [List.length_append, List.length_cons, Nat.zero_add] at hi
    simp only [if_neg (show i ≠ s.pre.length by omega),
      if_neg (show ¬(s.pre.length < i ∧ i < s.pre.length + (rest.length + 1)) by omega)]
  · -- the rest of the block
    simp only [Nat.zero_add] at hi hlt
    simp only [if_neg (show i ≠ s.pre.length by omega),
      if_pos (show s.pre.length < i ∧ i < s.pre.length + (rest.length + 1) by omega)]
  · -- before the block
    simp only [Nat.zero_add] at hlt
    simp only [if_neg (show i ≠ s.pre.length by omega),
      if_neg (show ¬(s.pre.length < i ∧ i < s.pre.length + (rest.length + 1)) by omega)]

/-! ### Reading the encoding back -/

/-- The length fields of the EncodedClientHelloInner `ech_inner_encoding`
writes hold the lengths they count: a 32-byte random, the cipher suites and
each extension's body and the extension block under `2 ^ 16` bytes, the
compression methods and the marker's list of types under 256. -/
structure ClientHello.InnerEncodingFits (ch : ClientHello) (toCompress : List ExtensionType) : Prop where
  random : ch.random.length = 32
  cipherSuites : 2 * ch.cipherSuites.length < 2 ^ 16
  compressionMethods : ch.payload.compressionMethods.length < 256
  compressedTypes : 2 * toCompress.length < 256
  extension : ∀ ext ∈ echInnerExtensions ch.payload.extensions toCompress, ext.encode.length < 4 + 2 ^ 16
  extensions : ((echInnerExtensions ch.payload.extensions toCompress).flatMap ClientExtension.encode).length < 2 ^ 16

/-- The server's view of an extension is the body its encoding puts behind
the length. -/
theorem ClientExtension.raw_of_encode_eq {ext : ClientExtension} {body : List UInt8}
    (h : ext.encode = encodeU16 ext.extType.value ++ Bytes.prefixed 2 body) : ext.raw = (ext.extType.value, body) := by
  have hhead : (encodeU16 ext.extType.value ++ Bytes.be 2 body.length).length = 4 := by
    rw [List.length_append, encodeU16, Bytes.length_be, Bytes.length_be]
  rw [ClientExtension.raw, h, Bytes.prefixed, ← List.append_assoc, List.drop_left' hhead]

/-- An extension's encoding is its type and body as the server reads them. -/
theorem ClientExtension.encode_eq_encodeExtension (ext : ClientExtension) : ext.encode = encodeExtension ext.raw := by
  obtain ⟨body, hbody⟩ : ∃ body, ext.encode = encodeU16 ext.extType.value ++ Bytes.prefixed 2 body := ⟨_, rfl⟩
  rw [ClientExtension.raw_of_encode_eq hbody, encodeExtension, PayloadU16.encode_eq_prefixed, hbody]

theorem readExtension_encodeExtension {ext : UInt16 × List UInt8} (h : ext.2.length < 2 ^ 16) (rest : List UInt8) :
    readExtension (encodeExtension ext ++ rest) = some (ext, rest) := by
  rw [readExtension, encodeExtension, List.append_assoc, readU16_encodeU16, Option.bind_some]
  dsimp only
  rw [PayloadU16.read_encode h, Option.map_some]

/-- Extensions whose bodies and whole fit their `u16` lengths are read back as
the server sees them, whatever follows. -/
theorem readList_extensions {exts : List ClientExtension} (hext : ∀ ext ∈ exts, ext.encode.length < 4 + 2 ^ 16)
    (hfit : (exts.flatMap ClientExtension.encode).length < 2 ^ 16) (rest : List UInt8) :
    Bytes.readList 2 readExtension (encodeVec .u16 ClientExtension.encode exts ++ rest) =
      some (exts.map ClientExtension.raw, rest) := by
  have hflat : exts.flatMap ClientExtension.encode = (exts.map ClientExtension.raw).flatMap encodeExtension := by
    simp only [List.flatMap_map, ← ClientExtension.encode_eq_encodeExtension]
  have hvec : encodeVec .u16 ClientExtension.encode exts =
      Bytes.prefixedList 2 encodeExtension (exts.map ClientExtension.raw) := by
    rw [encodeVec, hflat]
    rfl
  rw [hvec]
  refine Bytes.readList_prefixedList (fun x hx rest => ?_) (fun x _ => ?_) (hflat ▸ hfit) rest
  · obtain ⟨ext, hmem, rfl⟩ := List.mem_map.mp hx
    apply readExtension_encodeExtension
    have hlen := hext ext hmem
    rw [ext.encode_eq_encodeExtension, encodeExtension, List.length_append, PayloadU16.encode_eq_prefixed,
      Bytes.length_prefixed, encodeU16, Bytes.length_be] at hlen
    omega
  · rw [encodeExtension, List.length_append, encodeU16, Bytes.length_be]
    omega

/-- The ECH encoding of a hello with extensions, field by field. -/
theorem echInnerEncoding_eq {ch : ClientHello} (hne : ch.payload.extensions ≠ []) (toCompress : List ExtensionType) :
    ch.echInnerEncoding toCompress = ch.clientVersion.toArray ++ ch.random ++ PayloadU8.encode [] ++
      PayloadU16.encode (ch.cipherSuites.flatMap fun cs => encodeU16 cs.value) ++
      PayloadU8.encode ch.payload.compressionMethods ++
      encodeVec .u16 ClientExtension.encode (echInnerExtensions ch.payload.extensions toCompress) := by
  unfold ClientHello.echInnerEncoding
  rw [encodeVec_u16, encodeVec_u8, List.flatMap_singleton']
  cases toCompress with
  | nil => rw [if_neg (by simpa using hne)]; rfl
  | cons _ _ => rfl

/-- The standard encoding of a hello with extensions, field by field. -/
theorem payloadEncode_eq {ch : ClientHello} (hne : ch.payload.extensions ≠ []) :
    ch.payloadEncode = ch.clientVersion.toArray ++ ch.random ++ PayloadU8.encode ch.sessionId ++
      PayloadU16.encode (ch.cipherSuites.flatMap fun cs => encodeU16 cs.value) ++
      PayloadU8.encode ch.payload.compressionMethods ++
      PayloadU16.encode (ch.payload.extensions.flatMap ClientExtension.encode) := by
  rw [ClientHello.payloadEncode, encodeVec_u16, encodeVec_u8, List.flatMap_singleton', if_neg (by simpa using hne),
    encodeVec_u16]

/-- The fixed fields of EncodedClientHelloInner read back when their lengths
fit, and the extension block is read from what follows. -/
theorem read_fields {legacyVersion random legacySessionId cipherSuites compressionMethods : List UInt8}
    (hversion : legacyVersion.length = 2) (hrandom : random.length = 32) (hsessionId : legacySessionId.length < 256)
    (hcipherSuites : cipherSuites.length < 2 ^ 16) (hcompressionMethods : compressionMethods.length < 256)
    (rest : List UInt8) :
    EncodedClientHelloInner.read (legacyVersion ++ random ++ PayloadU8.encode legacySessionId ++
        PayloadU16.encode cipherSuites ++ PayloadU8.encode compressionMethods ++ rest) =
      (Bytes.readList 2 readExtension rest).map fun (extensions, rest) =>
        (⟨legacyVersion, random, legacySessionId, cipherSuites, compressionMethods, extensions⟩, rest) := by
  simp only [EncodedClientHelloInner.read, List.append_assoc, Bytes.takeExact_append hversion,
    Bytes.takeExact_append hrandom, PayloadU8.read_encode hsessionId, PayloadU16.read_encode hcipherSuites,
    PayloadU8.read_encode hcompressionMethods, Option.bind_eq_bind, Option.bind_some, Option.pure_def]
  cases Bytes.readList 2 readExtension rest <;> rfl

/-- The server parses the fixed fields of the encoding, the session id empty,
and reads the extension block from what follows. -/
theorem read_echInnerEncoding_eq {ch : ClientHello} (hrandom : ch.random.length = 32)
    (hcipherSuites : 2 * ch.cipherSuites.length < 2 ^ 16) (hcompressionMethods : ch.payload.compressionMethods.length < 256)
    (hne : ch.payload.extensions ≠ []) (toCompress : List ExtensionType) (rest : List UInt8) :
    EncodedClientHelloInner.read (ch.echInnerEncoding toCompress ++ rest) =
      (Bytes.readList 2 readExtension
          (encodeVec .u16 ClientExtension.encode (echInnerExtensions ch.payload.extensions toCompress) ++ rest)).map
        fun (extensions, rest) => (⟨ch.clientVersion.toArray, ch.random, [],
          ch.cipherSuites.flatMap fun cs => encodeU16 cs.value, ch.payload.compressionMethods, extensions⟩, rest) := by
  have hversion : ch.clientVersion.toArray.length = 2 := Bytes.length_be 2 _
  have hcipherSuites' : (ch.cipherSuites.flatMap fun cs => encodeU16 cs.value).length < 2 ^ 16 := by
    rw [length_flatMap_encodeU16]
    exact hcipherSuites
  rw [echInnerEncoding_eq hne, List.append_assoc, read_fields hversion hrandom (by simp) hcipherSuites'
    hcompressionMethods]

/-- **The server parses the encoding**: the fields in order, the session id
empty, the extensions as it reads them, and what follows left. -/
theorem read_echInnerEncoding {ch : ClientHello} {toCompress : List ExtensionType}
    (hfits : ch.InnerEncodingFits toCompress) (hne : ch.payload.extensions ≠ []) (rest : List UInt8) :
    EncodedClientHelloInner.read (ch.echInnerEncoding toCompress ++ rest) =
      some (⟨ch.clientVersion.toArray, ch.random, [], ch.cipherSuites.flatMap fun cs => encodeU16 cs.value,
        ch.payload.compressionMethods, (echInnerExtensions ch.payload.extensions toCompress).map ClientExtension.raw⟩,
        rest) := by
  rw [read_echInnerEncoding_eq hfits.random hfits.cipherSuites hfits.compressionMethods hne,
    readList_extensions hfits.extension hfits.extensions, Option.map_some]

/-! ### Expanding the marker -/

/-- The cursor passes over an extension of another type. -/
theorem copyOuterExtensions_cons_of_ne (outer : List ClientExtension) {ext : ClientExtension} {typ : UInt16}
    (types : List UInt16) (h : ext.extType.value ≠ typ) :
    copyOuterExtensions (ext :: outer) (typ :: types) = copyOuterExtensions outer (typ :: types) := by
  simp only [copyOuterExtensions, List.dropWhile_cons, bne_iff_ne, ne_eq, h, not_false_eq_true, if_true]

/-- **The cursor finds the block**: the types of the outer extensions to
compress, in their order, copy exactly those extensions, whatever else the
outer hello holds and whichever of them share a type. -/
theorem copyOuterExtensions_filter (outer : List ClientExtension) :
    ∃ rest, copyOuterExtensions outer ((outer.filter (·.extType.echCompress)).map (·.extType.value)) =
      some (outer.filter (·.extType.echCompress), rest) := by
  induction outer with
  | nil => exact ⟨[], rfl⟩
  | cons ext outer ih =>
    obtain ⟨rest, hrest⟩ := ih
    by_cases hcompress : ext.extType.echCompress = true
    · -- the cursor stops at `ext`, which is not `encrypted_client_hello`
      have hech : ext.extType.value ≠ ExtensionType.encryptedClientHello.value := by
        intro h
        rw [ExtensionType.ext h] at hcompress
        contradiction
      have hfilter : (ext :: outer).filter (·.extType.echCompress) = ext :: outer.filter (·.extType.echCompress) :=
        List.filter_cons_of_pos hcompress
      refine ⟨rest, ?_⟩
      rw [hfilter, List.map_cons, copyOuterExtensions, if_neg hech, List.dropWhile_cons, if_neg (by simp)]
      dsimp only
      rw [hrest, Option.map_some]
    · have hskip : (ext :: outer).filter (·.extType.echCompress) = outer.filter (·.extType.echCompress) :=
        List.filter_cons_of_neg hcompress
      rw [hskip]
      cases hfilter : outer.filter (·.extType.echCompress) with
      | nil => exact ⟨ext :: outer, rfl⟩
      | cons first block =>
        -- `ext` is of another type than the next one to copy, which is compressed
        have hfirst : first.extType.echCompress = true :=
          (List.mem_filter.mp (hfilter ▸ List.mem_cons_self : first ∈ outer.filter (·.extType.echCompress))).2
        have hne : ext.extType.value ≠ first.extType.value := by
          intro h
          rw [ExtensionType.ext h] at hcompress
          exact hcompress hfirst
        rw [hfilter] at hrest
        exact ⟨rest, by rw [List.map_cons, copyOuterExtensions_cons_of_ne _ _ hne, ← hrest, List.map_cons]⟩

/-- `ech_hello` leaves the outer extensions to compress as they are: it only
changes a PSK extension and adds the ECH one, neither of them compressed. -/
theorem filter_echHelloExtensions (exts : List ClientExtension) (greasePsk : PresharedKeyOffer → PresharedKeyOffer)
    (outerExt : List UInt8) :
    (EchState.echHelloExtensions exts greasePsk outerExt).filter (·.extType.echCompress) =
      exts.filter (·.extType.echCompress) := by
  have hech : [ClientExtension.encryptedClientHello outerExt].filter (·.extType.echCompress) = [] := rfl
  unfold EchState.echHelloExtensions
  split
  · rename_i offer hlast
    have hpsk : ∀ offer : PresharedKeyOffer, [ClientExtension.presharedKey offer].filter (·.extType.echCompress) = [] :=
      fun _ => rfl
    conv_rhs => rw [← List.dropLast_append_getLast? _ hlast]
    rw [List.filter_append, List.filter_append, hpsk, hech, List.filter_append, hpsk, List.append_nil]
  · rw [List.filter_append, hech, List.append_nil]

/-- Extensions written as themselves are written back as they were. -/
theorem expandExtensions_append_inline (outer : List ClientExtension) {pre : List ClientExtension}
    (hpre : ∀ ext ∈ pre, ext.Inline) (exts : List (UInt16 × List UInt8)) :
    expandExtensions outer (pre.map ClientExtension.raw ++ exts) =
      (expandExtensions outer exts).map (pre.flatMap ClientExtension.encode ++ ·) := by
  induction pre with
  | nil => simp
  | cons ext pre ih =>
    rw [List.forall_mem_cons] at hpre
    have hmarker : ext.raw.1 ≠ ExtensionType.encryptedClientHelloOuterExtensions.value :=
      fun h => hpre.1.2 (ExtensionType.ext h)
    rw [List.map_cons, List.cons_append, expandExtensions, if_neg hmarker, ih hpre.2, Option.map_map,
      ← ext.encode_eq_encodeExtension, List.flatMap_cons]
    simp only [Function.comp_def, List.append_assoc]

/-- The marker's list of types reads back when it fits its `u8` length. -/
theorem readBytes_echOuterExtensions {types : List ExtensionType} (h : 2 * types.length < 256) :
    readBytes (readVec .u8 readU16) (encodeVec .u8 (fun t => encodeU16 t.value) types) =
      some (types.map ExtensionType.value) := by
  have hvec : encodeVec .u8 (fun t => encodeU16 t.value) types =
      Bytes.prefixedList 1 encodeU16 (types.map ExtensionType.value) := by
    rw [encodeVec, Bytes.prefixedList, List.flatMap_map]
    rfl
  have hfit : ((types.map ExtensionType.value).flatMap encodeU16).length < 256 ^ 1 := by
    rw [List.flatMap_map, length_flatMap_encodeU16]
    omega
  apply readBytes_of_read
  rw [hvec, ← List.append_nil (Bytes.prefixedList 1 encodeU16 _)]
  exact Bytes.readList_prefixedList (fun v _ rest => readU16_encodeU16 v rest)
    (fun v _ => by rw [encodeU16, Bytes.length_be]; omega) hfit []

/-- **Expansion restores the block**: the marker is replaced by the outer
extensions to compress, found by the cursor, and everything else is written
back as it was. -/
theorem expandExtensions_spliced {outerExtensions block : List ClientExtension}
    (hblock : outerExtensions.filter (·.extType.echCompress) = block) (s : Spliced block)
    (htypes : 2 * block.length < 256) :
    expandExtensions outerExtensions
        ((echInnerExtensions s.extensions (block.map ClientExtension.extType)).map ClientExtension.raw) =
      some (s.extensions.flatMap ClientExtension.encode) := by
  have hcompressed : ∀ ext ∈ block, ext.extType.echCompress = true := by
    rw [← hblock]
    exact fun ext h => (List.mem_filter.mp h).2
  have hpre : ∀ ext ∈ s.pre, ext.Inline := fun ext h => s.inline ext (List.mem_append_left _ h)
  have hpost : ∀ ext ∈ s.post, ext.Inline := fun ext h => s.inline ext (List.mem_append_right _ h)
  have hrest : ∀ outer, expandExtensions outer (s.post.map ClientExtension.raw) =
      some (s.post.flatMap ClientExtension.encode) := by
    intro outer
    rw [← List.append_nil (s.post.map ClientExtension.raw), expandExtensions_append_inline outer hpost,
      expandExtensions, Option.map_some, List.append_nil]
  by_cases hne : block = []
  · -- nothing compressed: every extension is written as itself
    subst hne
    rw [List.map_nil, echInnerExtensions, Spliced.extensions, List.append_nil, List.map_append,
      expandExtensions_append_inline outerExtensions hpre, hrest, Option.map_some, List.flatMap_append]
  · have hmarker : (ClientExtension.echOuterExtensions (block.map ClientExtension.extType)).raw =
        (ExtensionType.encryptedClientHelloOuterExtensions.value,
          encodeVec .u8 (fun t => encodeU16 t.value) (block.map ClientExtension.extType)) :=
      ClientExtension.raw_of_encode_eq rfl
    have htypes' : 2 * (block.map ClientExtension.extType).length < 256 := by rwa [List.length_map]
    -- the cursor copies the block out of the outer extensions
    obtain ⟨cursor, hcopy⟩ := copyOuterExtensions_filter outerExtensions
    rw [hblock] at hcopy
    have hcopy' : copyOuterExtensions outerExtensions ((block.map ClientExtension.extType).map ExtensionType.value) =
        some (block, cursor) := by
      rw [List.map_map]
      exact hcopy
    rw [echInnerExtensions_spliced hcompressed hne s, List.map_append, expandExtensions_append_inline _ hpre,
      List.map_cons, expandExtensions, hmarker, if_pos rfl]
    dsimp only
    rw [readBytes_echOuterExtensions htypes', Option.bind_some, hcopy', Option.bind_some]
    dsimp only
    rw [hrest, Option.map_some, Option.map_some, Spliced.extensions, List.flatMap_append, List.flatMap_append,
      List.append_assoc]

/-- **Section 5.1 takes the inner hello back**: a hello of spliced extensions,
encoded for ECH and padded with zeros, decodes with its own session id and the
outer extensions to compress to its standard encoding. -/
theorem decodeClientHelloInner_spliced {ch : ClientHello} {outerExtensions block : List ClientExtension}
    (hblock : outerExtensions.filter (·.extType.echCompress) = block) (s : Spliced block)
    (hexts : ch.payload.extensions = s.extensions) (hfits : ch.InnerEncodingFits (block.map ClientExtension.extType))
    (paddingLen : Nat) :
    decodeClientHelloInner ch.sessionId outerExtensions
        (ch.echInnerEncoding (block.map ClientExtension.extType) ++ List.replicate paddingLen 0) =
      some ch.payloadEncode := by
  have hne : ch.payload.extensions ≠ [] := by
    rw [hexts, Spliced.extensions]
    intro hnil
    apply s.nonempty
    simp only [List.append_eq_nil_iff] at hnil
    rw [hnil.1.1, hnil.2]
    rfl
  have hpadding : (List.replicate paddingLen (0 : UInt8)).all (· == 0) = true := by
    rw [List.all_replicate]
    split <;> rfl
  have hlen : 2 * block.length < 256 := by simpa using hfits.compressedTypes
  rw [decodeClientHelloInner, read_echInnerEncoding hfits hne, Option.bind_some]
  dsimp only
  rw [if_pos hpadding, hexts, expandExtensions_spliced hblock s hlen, Option.map_some, payloadEncode_eq hne,
    hexts]

/-! ### The round trip -/

namespace EchState

end EchState

/-! ### A length that does not fit -/

/-- `ExtensionType::TransportParameters`, the extension in which a QUIC client
sends its transport parameters. -/
def ExtensionType.transportParameters : ExtensionType := ⟨0x0039⟩

/-- A first outer hello of a QUIC client whose transport parameters take
65536 bytes, one more than a `u16` length holds. -/
def oversizedQuicHello : ClientHello :=
  ⟨.tlsv1_2, List.replicate 32 0, [], [.tls13Aes128GcmSha256],
    ⟨[0], [.unknown .transportParameters (List.replicate 65536 1)]⟩⟩

/-- Its inner hello: the ECH `Inner` extension and the transport parameters,
nothing compressed. -/
theorem innerHello_oversizedQuicHello :
    (EchState.innerHelloOffer (Bytes.ascii "a.example")).innerHello oversizedQuicHello none =
      (⟨.tlsv1_2, List.replicate 32 0, [], [.tls13Aes128GcmSha256],
        ⟨[0], [.echInner, .unknown .transportParameters (List.replicate 65536 1)]⟩⟩, []) :=
  rfl

/-- The extension block of that inner hello: its length wraps to the nine
bytes of the two extensions' headers, and the parameters stand after it. -/
theorem encodeVec_oversizedQuicHello :
    encodeVec .u16 ClientExtension.encode [.echInner, .unknown .transportParameters (List.replicate 65536 1)] =
      Bytes.prefixed 2 [0xfe, 0x0d, 0x00, 0x01, 0x01, 0x00, 0x39, 0x00, 0x00] ++ List.replicate 65536 1 := by
  have hparams : (ClientExtension.unknown .transportParameters (List.replicate 65536 1)).encode =
      [0x00, 0x39, 0x00, 0x00] ++ List.replicate 65536 1 := by
    rw [ClientExtension.encode, lengthPrefixedBuffer, ListLength.width, Bytes.prefixed, List.length_replicate,
      ← Bytes.be_mod 2 65536]
    rfl
  have hflat : [ClientExtension.echInner, .unknown .transportParameters (List.replicate 65536 1)].flatMap
      ClientExtension.encode = [0xfe, 0x0d, 0x00, 0x01, 0x01, 0x00, 0x39, 0x00, 0x00] ++ List.replicate 65536 1 := by
    rw [List.flatMap_cons, List.flatMap_cons, List.flatMap_nil, List.append_nil, hparams]
    rfl
  have hlen : (([0xfe, 0x0d, 0x00, 0x01, 0x01, 0x00, 0x39, 0x00, 0x00] : List UInt8) ++
      List.replicate 65536 1).length % 256 ^ 2 = 9 := by
    rw [List.length_append, List.length_replicate]
    rfl
  rw [encodeVec, lengthPrefixedBuffer, ListLength.width, hflat, Bytes.prefixed, ← Bytes.be_mod, hlen,
    Bytes.prefixed, List.append_assoc]
  rfl

/-- The server reads the two headers as the whole block. -/
theorem readList_oversizedQuicHello (rest : List UInt8) :
    Bytes.readList 2 readExtension (Bytes.prefixed 2 [0xfe, 0x0d, 0x00, 0x01, 0x01, 0x00, 0x39, 0x00, 0x00] ++ rest) =
      some ([(0xfe0d, [0x01]), (0x0039, [])], rest) := by
  have hextensions : Bytes.readAll readExtension ([0xfe, 0x0d, 0x00, 0x01, 0x01, 0x00, 0x39, 0x00, 0x00] : List UInt8).length
      [0xfe, 0x0d, 0x00, 0x01, 0x01, 0x00, 0x39, 0x00, 0x00] = some [(0xfe0d, [0x01]), (0x0039, [])] := by
    decide
  rw [Bytes.readList, Bytes.readPrefixed_prefixed_of_lt (by decide), Option.bind_some]
  dsimp only
  rw [hextensions, Option.map_some]

end Rustls
