import Rustls.Server.Hs
import Rustls.Client.Tls13

/-!
The EncryptedExtensions exchange of a TLS 1.3 handshake, both ends: the
server's `emit_encrypted_extensions` answers the client's ClientHello, the
message goes over the wire, and the client's
`ExpectEncryptedExtensions::handle` takes it in.

Over TCP, when the client's records agree with its ClientHello (the
extension types it noted as sent are the ClientHello's, and its ALPN
extension carries its configured protocols) and its early data state is the
one the earlier handshake left, every answer the server gives is taken in by
the client: the message reads back as written, the client finds nothing
repeated, unsolicited or out of place, both ends settle on the same ALPN
protocol, the first of the server's that the client offered, and the client
goes on sending early data exactly when the server accepted it
(`encrypted_extensions_agree`).

What the argument rests on is the shape of the server's answer: the ALPN
answer, the acknowledgements and EarlyData, each at most once and each for
an extension the client sent (`emitEncryptedExtensions_types`,
`emitEncryptedExtensions_solicited`), so that every lookup the client makes
finds what the server meant.
-/

namespace Rustls

/-- A ClientHello whose ALPN extension carries `protocols`, each at most 255
bytes long, is read by the server as offering exactly those. -/
theorem ClientHelloPayload.alpnExtension_of_offer {ch : ClientHelloPayload} {protocols : List (List UInt8)}
    (halpn : ch.findExtension .alProtocolNegotiation =
      if protocols = [] then none else some (ClientExtension.protocols protocols))
    (hname : ∀ p ∈ protocols, p.length < 256) (hfit : (protocols.flatMap PayloadU8.encode).length < 2 ^ 16) :
    ch.alpnExtension = if protocols = [] then none else some protocols := by
  unfold ClientHelloPayload.alpnExtension
  rw [halpn]
  split_ifs
  · rfl
  · have hread := readProtocolNames_encodeProtocolNames hname hfit []
    rw [List.append_nil] at hread
    exact readBytes_of_read hread

theorem ServerExtension.length_encode (ext : ServerExtension) : ext.encode.length = ext.body.length + 4 := by
  rw [ServerExtension.encode, lengthPrefixedBuffer, List.length_append, encodeU16, Bytes.length_be]
  simp only [ListLength.width, Bytes.length_prefixed]
  omega

namespace CompleteClientHelloHandling

/-! ### The server's answer, as the client looks it up -/

section Answer

variable {E : Type} (hs : CompleteClientHelloHandling E) {ourProtocols : List (List UInt8)} {isQuic : Bool}
  {hasIpAddress : List UInt8 → Bool} {cx : ServerContext} {ocspResponse : Option (List UInt8)}
  {hello : ClientHelloPayload} {resumedata : Option ServerSessionValue} {extraExts : List ServerExtension}
  {ep : ExtensionProcessing} {decision : EarlyDataDecision}

/-- The types the answer can have, when what is passed in is at most the
QUIC transport parameters. -/
theorem extType_mem_emitEncryptedExtensions
    (h : hs.emitEncryptedExtensions ourProtocols isQuic hasIpAddress cx ocspResponse hello resumedata extraExts =
      .ok (ep, decision))
    (hextra : (extraExts.map ServerExtension.extType).Sublist [.transportParameters])
    {ext : ServerExtension} (hext : ext ∈ ep.exts) :
    (ext.extType = .alProtocolNegotiation ∧ ep.alpnProtocol.isSome = true) ∨ ext.extType = .serverName ∨
      ext.extType = .statusRequest ∨ ext.extType = .transportParameters ∨
      (ext.extType = .earlyData ∧ decision = .accepted) := by
  rcases hs.mem_emitEncryptedExtensions h hext with
    ⟨selected, hselected, rfl⟩ | ⟨rfl, -⟩ | ⟨rfl, -⟩ | hx | ⟨rfl, hacc⟩
  · exact .inl ⟨rfl, by rw [hselected]; rfl⟩
  · exact .inr (.inl rfl)
  · exact .inr (.inr (.inl rfl))
  · exact .inr (.inr (.inr (.inl (List.mem_singleton.mp (hextra.subset (List.mem_map_of_mem hx))))))
  · exact .inr (.inr (.inr (.inr ⟨rfl, hacc⟩)))

theorem nodup_emitEncryptedExtensions
    (h : hs.emitEncryptedExtensions ourProtocols isQuic hasIpAddress cx ocspResponse hello resumedata extraExts =
      .ok (ep, decision))
    (hextra : (extraExts.map ServerExtension.extType).Sublist [.transportParameters]) :
    (ep.exts.map ServerExtension.extType).Nodup :=
  (hs.emitEncryptedExtensions_types h hextra).nodup (by decide)

/-- The client finds the protocol the server chose. -/
theorem alpnProtocol_emitEncryptedExtensions
    (h : hs.emitEncryptedExtensions ourProtocols isQuic hasIpAddress cx ocspResponse hello resumedata extraExts =
      .ok (ep, decision))
    (hextra : (extraExts.map ServerExtension.extType).Sublist [.transportParameters]) :
    HasServerExtensions.alpnProtocol ep.exts = ep.alpnProtocol := by
  unfold HasServerExtensions.alpnProtocol
  cases hselected : ep.alpnProtocol with
  | some selected =>
    have hmem : ServerExtension.protocols [selected] ∈ ep.exts := by
      obtain ⟨ep₀, hcommon, -, halpn, -, hexts⟩ := hs.emitEncryptedExtensions_eq_ok h
      obtain ⟨-, -, acks, hexts₀, -⟩ := processCommon_eq_ok hcommon
      rw [hexts, hexts₀, ← halpn, hselected]
      simp [ServerExtension.makeAlpn]
    rw [show ExtensionType.alProtocolNegotiation = (ServerExtension.protocols [selected]).extType from rfl,
      HasServerExtensions.findExtension_of_mem (hs.nodup_emitEncryptedExtensions h hextra) hmem]
  | none =>
    -- no extension of the ALPN type without a protocol chosen
    have hnone : ExtensionType.alProtocolNegotiation ∉ ep.exts.map ServerExtension.extType := by
      rw [List.mem_map]
      rintro ⟨ext, hext, hty⟩
      rcases hs.extType_mem_emitEncryptedExtensions h hextra hext with
        ⟨-, hsome⟩ | hty' | hty' | hty' | ⟨hty', -⟩
      · rw [hselected] at hsome
        cases hsome
      all_goals rw [hty'] at hty; cases hty
    rw [HasServerExtensions.findExtension_eq_none hnone]

/-- The client sees EarlyData exactly when the server accepted early data. -/
theorem earlyDataExtensionOffered_emitEncryptedExtensions
    (h : hs.emitEncryptedExtensions ourProtocols isQuic hasIpAddress cx ocspResponse hello resumedata extraExts =
      .ok (ep, decision))
    (hextra : (extraExts.map ServerExtension.extType).Sublist [.transportParameters]) :
    HasServerExtensions.earlyDataExtensionOffered ep.exts = decide (decision = .accepted) := by
  unfold HasServerExtensions.earlyDataExtensionOffered
  by_cases hacc : decision = .accepted
  · have hmem : ServerExtension.earlyData ∈ ep.exts := by
      obtain ⟨ep₀, -, -, -, -, hexts⟩ := hs.emitEncryptedExtensions_eq_ok h
      rw [hexts, if_pos hacc]
      exact List.mem_append_right _ (List.mem_singleton_self _)
    rw [show ExtensionType.earlyData = ServerExtension.earlyData.extType from rfl,
      HasServerExtensions.findExtension_of_mem (hs.nodup_emitEncryptedExtensions h hextra) hmem, decide_eq_true hacc]
    rfl
  · have hnone : ExtensionType.earlyData ∉ ep.exts.map ServerExtension.extType := by
      rw [List.mem_map]
      rintro ⟨ext, hext, hty⟩
      rcases hs.extType_mem_emitEncryptedExtensions h hextra hext with
        ⟨hty', -⟩ | hty' | hty' | hty' | ⟨-, hacc'⟩
      · rw [hty'] at hty; cases hty
      · rw [hty'] at hty; cases hty
      · rw [hty'] at hty; cases hty
      · rw [hty'] at hty; cases hty
      · exact hacc hacc'
    rw [HasServerExtensions.findExtension_eq_none hnone, decide_eq_false hacc]
    rfl

/-- The server never answers with ECH. -/
theorem serverEchExtension_emitEncryptedExtensions
    (h : hs.emitEncryptedExtensions ourProtocols isQuic hasIpAddress cx ocspResponse hello resumedata extraExts =
      .ok (ep, decision))
    (hextra : (extraExts.map ServerExtension.extType).Sublist [.transportParameters]) :
    HasServerExtensions.serverEchExtension ep.exts = none := by
  have hnone : ExtensionType.encryptedClientHello ∉ ep.exts.map ServerExtension.extType := fun hmem =>
    absurd ((hs.emitEncryptedExtensions_types h hextra).subset hmem) (by decide)
  unfold HasServerExtensions.serverEchExtension
  rw [HasServerExtensions.findExtension_eq_none hnone]

/-- The client accepts what the server wrote, when the types the client noted
as sent are those of its ClientHello and what is passed in was sent. -/
theorem validateEncryptedExtensions_emitEncryptedExtensions {details : ClientHelloDetails}
    (h : hs.emitEncryptedExtensions ourProtocols isQuic hasIpAddress cx ocspResponse hello resumedata extraExts =
      .ok (ep, decision))
    (hextra : (extraExts.map ServerExtension.extType).Sublist [.transportParameters])
    (hsent : details.sentExtensions = hello.extensions.map ClientExtension.extType)
    (hextraSent : ∀ ext ∈ extraExts, ext.extType ∈ hello.extensions.map ClientExtension.extType) :
    validateEncryptedExtensions details ep.exts = .ok () := by
  have hplace : ∀ t ∈ [ExtensionType.alProtocolNegotiation, .serverName, .statusRequest, .transportParameters,
      .earlyData], t ∉ allowedPlaintextExts ∧ t ∉ disallowedTls13Exts := by decide
  refine validateEncryptedExtensions_eq_ok.mpr ⟨hs.nodup_emitEncryptedExtensions h hextra, ?_, ?_⟩
  · intro ext hext
    rw [hsent]
    exact hs.emitEncryptedExtensions_solicited h hextraSent ext hext
  · intro ext hext
    exact hplace _ ((hs.emitEncryptedExtensions_types h hextra).subset (List.mem_map_of_mem hext))

/-- Over TCP, an extension of the answer takes at most 262 bytes on the wire:
the ALPN answer is the longest, with one name of at most 255 bytes. -/
theorem length_encode_le_of_mem_emitEncryptedExtensions
    (h : hs.emitEncryptedExtensions ourProtocols isQuic hasIpAddress cx ocspResponse hello resumedata [] =
      .ok (ep, decision))
    {ext : ServerExtension} (hext : ext ∈ ep.exts) : ext.encode.length ≤ 262 := by
  rw [ServerExtension.length_encode]
  have hreadable := hs.emitEncryptedExtensions_readable h (by simp) ext hext
  rcases hs.mem_emitEncryptedExtensions h hext with ⟨selected, -, rfl⟩ | ⟨rfl, -⟩ | ⟨rfl, -⟩ | hx | ⟨rfl, -⟩
  · have hname : selected.length < 256 := hreadable.1 selected (List.mem_singleton_self selected)
    simp only [ServerExtension.body, encodeProtocolNames, encodeVec, lengthPrefixedBuffer, ListLength.width,
      Bytes.length_prefixed, List.flatMap_cons, List.flatMap_nil, List.append_nil, PayloadU8.encode,
      List.length_cons]
    omega
  · simp [ServerExtension.body]
  · simp [ServerExtension.body]
  · cases hx
  · simp [ServerExtension.body]

/-- Over TCP, the EncryptedExtensions the server writes reach the client as
written: each extension fits its encoding, and at most five of them fit the
message's `u16` length. -/
theorem readEncryptedExtensions_emitEncryptedExtensions
    (h : hs.emitEncryptedExtensions ourProtocols isQuic hasIpAddress cx ocspResponse hello resumedata [] =
      .ok (ep, decision)) :
    readEncryptedExtensions (encodeEncryptedExtensions ep.exts) = some ep.exts := by
  have hcount : ep.exts.length ≤ 5 := by
    simpa using (hs.emitEncryptedExtensions_types h (by simp)).length_le
  have hsum : (ep.exts.flatMap ServerExtension.encode).length ≤ ep.exts.length * 262 := by
    rw [List.length_flatMap]
    simpa using List.sum_le_card_nsmul (ep.exts.map fun ext => ext.encode.length) 262
      (by simpa using fun ext hext => hs.length_encode_le_of_mem_emitEncryptedExtensions h hext)
  have hfit : (ep.exts.flatMap ServerExtension.encode).length < 2 ^ 16 :=
    calc (ep.exts.flatMap ServerExtension.encode).length
        ≤ ep.exts.length * 262 := hsum
      _ ≤ 5 * 262 := Nat.mul_le_mul_right _ hcount
      _ < 2 ^ 16 := by norm_num
  exact readEncryptedExtensions_encode (hs.emitEncryptedExtensions_readable h (by simp)) hfit

end Answer

end CompleteClientHelloHandling

/-! ### Both ends -/

/-- **EncryptedExtensions agreement.**  Over TCP, whatever the server answers
to a ClientHello, the client takes it in and goes on: the message reads back
as written and passes the client's checks; both ends settle on the same ALPN
protocol, the first of the server's that the client offered; and the client
goes on sending early data exactly when the server accepted it.  The client's
side is as the handshake leaves it: the extension types it noted are its
ClientHello's, the ALPN extension carries its protocols, it resumes exactly
when the server does, it offered early data only with early data ready and
under way, and early data is under way only when resuming. -/
theorem encrypted_extensions_agree {E : Type} (hs : CompleteClientHelloHandling E)
    {ourProtocols : List (List UInt8)} {hasIpAddress : List UInt8 → Bool} {cx : ServerContext}
    {ocspResponse : Option (List UInt8)} {ch : ClientHelloPayload} {resumedata : Option ServerSessionValue}
    {ep : ExtensionProcessing} {decision : EarlyDataDecision} {st : ExpectEncryptedExtensions}
    {ccx : ClientEeContext}
    (hsent : st.hello.sentExtensions = ch.extensions.map ClientExtension.extType)
    (halpn : ch.findExtension .alProtocolNegotiation =
      if st.alpnProtocols = [] then none else some (ClientExtension.protocols st.alpnProtocols))
    (hname : ∀ p ∈ st.alpnProtocols, p.length < 256)
    (hfit : (st.alpnProtocols.flatMap PayloadU8.encode).length < 2 ^ 16)
    (hresuming : st.resuming = resumedata.isSome)
    (hoffered : ch.earlyDataExtensionOffered = true → ccx.earlyTraffic = true ∧ ccx.earlyData.state = .ready)
    (htraffic : ccx.earlyTraffic = true → st.resuming = true) (htcp : ccx.isQuic = false)
    (hemit : hs.emitEncryptedExtensions ourProtocols false hasIpAddress cx ocspResponse ch resumedata [] =
      .ok (ep, decision)) :
    ∃ handled, (readEncryptedExtensions (encodeEncryptedExtensions ep.exts)).map (st.handle ccx) =
        some (.next handled) ∧
      handled.alpnProtocol = ep.alpnProtocol ∧
      ep.alpnProtocol = (if st.alpnProtocols = [] then none else ourProtocols.find? (st.alpnProtocols.contains ·)) ∧
      (handled.earlyTraffic = true ↔ decision = .accepted) := by
  have hextra : (([] : List ServerExtension).map ServerExtension.extType).Sublist [.transportParameters] := by
    simp
  -- the protocol the server chose, from the client's offer
  have hchosen : ep.alpnProtocol =
      if st.alpnProtocols = [] then none else ourProtocols.find? (st.alpnProtocols.contains ·) := by
    obtain ⟨ep₀, hcommon, -, halpn₀, -, -⟩ := hs.emitEncryptedExtensions_eq_ok hemit
    have hchoice := (processCommon_eq_ok hcommon).1
    rw [ClientHelloPayload.alpnExtension_of_offer halpn hname hfit, ← halpn₀] at hchoice
    split_ifs at hchoice ⊢
    · exact (Except.ok.inj hchoice).symm
    · exact chooseAlpn_some_eq_ok hchoice
  -- the client offered the protocol chosen
  have halpnClient : processAlpnProtocol false st.alpnProtocols (HasServerExtensions.alpnProtocol ep.exts) =
      .ok (HasServerExtensions.alpnProtocol ep.exts) := by
    rw [hs.alpnProtocol_emitEncryptedExtensions hemit hextra]
    refine processAlpnProtocol_eq_ok.mpr ⟨fun p hp => ?_, fun _ hquic => absurd hquic Bool.false_ne_true⟩
    rw [hchosen] at hp
    split_ifs at hp
    simpa using List.find?_some hp
  -- early data is accepted only for a resumed session and a client that asked for it
  have hearly := hs.earlyDataExtensionOffered_emitEncryptedExtensions hemit hextra
  have haccepted : decision = .accepted → ch.earlyDataExtensionOffered = true ∧ st.resuming = true := by
    intro hacc
    obtain ⟨ep₀, -, hdec, -, -, -⟩ := hs.emitEncryptedExtensions_eq_ok hemit
    obtain ⟨resume, hresume, hoff, -⟩ := hs.decideIfEarlyDataAllowed_eq_accepted.mp (hdec.symm.trans hacc)
    exact ⟨hoff, by rw [hresuming, hresume]; rfl⟩
  have hofferedEe : HasServerExtensions.earlyDataExtensionOffered ep.exts = true → decision = .accepted :=
    fun hoff => of_decide_eq_true (hearly ▸ hoff)
  obtain ⟨handled, hhandle, hhalpn, hflag⟩ := handle_eq_next
    (hs.validateEncryptedExtensions_emitEncryptedExtensions hemit hextra hsent (by simp)) halpnClient
    (hs.serverEchExtension_emitEncryptedExtensions hemit hextra) htcp
    (fun hoff => (haccepted (hofferedEe hoff)).2)
    (fun hoff _ => (hoffered (haccepted (hofferedEe hoff)).1).2) htraffic
  refine ⟨handled, ?_, by rw [hhalpn, hs.alpnProtocol_emitEncryptedExtensions hemit hextra], hchosen, ?_⟩
  · rw [hs.readEncryptedExtensions_emitEncryptedExtensions hemit, Option.map_some, hhandle]
  · rw [hflag, hearly, Bool.and_eq_true, decide_eq_true_iff]
    exact ⟨fun h => h.2, fun hacc => ⟨(hoffered (haccepted hacc).1).1, hacc⟩⟩

/-- The client that sent it, resuming. -/
def h2EarlyDataClient : ExpectEncryptedExtensions :=
  ⟨[[0x68, 0x32]], true, ⟨[.alProtocolNegotiation, .earlyData], false⟩⟩

/-- Early data under way, with 100 bytes allowed. -/
def h2EarlyDataContext : ClientEeContext :=
  ⟨false, .notOffered, true, ⟨.ready, 100⟩, none⟩

theorem encrypted_extensions_agree_on_resumed_h2 :
    ∃ handled, (readEncryptedExtensions (encodeEncryptedExtensions [.protocols [[0x68, 0x32]], .earlyData])).map
        (h2EarlyDataClient.handle h2EarlyDataContext) = some (.next handled) ∧
      handled.alpnProtocol = some [0x68, 0x32] ∧
      some [0x68, 0x32] = (if h2EarlyDataClient.alpnProtocols = [] then none
        else [[0x68, 0x32]].find? (h2EarlyDataClient.alpnProtocols.contains ·)) ∧
      (handled.earlyTraffic = true ↔ EarlyDataDecision.accepted = .accepted) :=
  @encrypted_extensions_agree Unit earlyDataServer [[0x68, 0x32]] (fun _ => false) earlyDataContext none
    h2EarlyDataHello (some h2Session) ⟨[.protocols [[0x68, 0x32]], .earlyData], some [0x68, 0x32], none, none⟩
    .accepted h2EarlyDataClient h2EarlyDataContext rfl rfl (by decide) (by decide) rfl (fun _ => ⟨rfl, rfl⟩)
    (fun _ => rfl) rfl rfl

end Rustls
