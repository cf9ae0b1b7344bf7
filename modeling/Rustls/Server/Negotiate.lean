import Rustls.Suites
import Rustls.Error
import Rustls.Lib.FirstMatch

/-!
The server's choice of cipher suite and key-exchange group:
`ExpectClientHello::choose_suite_and_kx_group` of `server/hs.rs`, with the
suite predicates of `suites.rs`.

The choice is made from two facts about the client's groups, gathered before
any suite is looked at.  A loop over the offered groups records whether some
group the server supports makes ECDHE possible, and whether one makes FFDHE
possible; TLS 1.2 adds the server's first FFDHE group when the client offered
none (RFC 7919 section 4).  The suites are filtered by those two flags, one is
chosen in the client's order or the server's, and only then is the group
looked up again, for that suite, with an `unwrap` under TLS 1.3.

The flags are exact.  A suite passes the filter exactly when some group the
server may use makes a pair with it (`suitable_iff`), so the chosen suite
always finds its group, the `unwrap` never fails, the error branches after
the choice are never taken, and every error means that no pair exists.
-/

namespace Rustls

/-- `KeyExchangeAlgorithm`. -/
inductive KeyExchangeAlgorithm
  | dhe
  | ecdhe
  deriving DecidableEq, Repr

/-- `NamedGroup::key_exchange_algorithm`: the FFDHE code points
`0x0100..0x01ff` are DHE, every other one ECDHE. -/
def NamedGroup.keyExchangeAlgorithm (g : NamedGroup) : KeyExchangeAlgorithm :=
  if 0x100 ≤ g.value ∧ g.value < 0x200 then .dhe else .ecdhe

/-- `SignatureAlgorithm`, by its code point. -/
structure SignatureAlgorithm where
  value : UInt8
  deriving DecidableEq, Repr

/-- `SupportedKxGroup`: its name and `usable_for_version`. -/
structure SupportedKxGroup where
  name : NamedGroup
  usableForVersion : ProtocolVersion → Bool

/-- `SupportedCipherSuite` with what the server's choice reads of a TLS 1.2
suite: its key exchange, and the algorithms of its `sign` schemes. -/
inductive ServerCipherSuite
  | tls12 (suite : CipherSuite) (kx : KeyExchangeAlgorithm) (sign : List SignatureAlgorithm)
  | tls13 (suite : CipherSuite) (quic : Bool)
  deriving DecidableEq, Repr

namespace ServerCipherSuite

/-- The suite as the rest of the handshake sees it. -/
def toSupported : ServerCipherSuite → SupportedCipherSuite
  | .tls12 s _ _ => .tls12 s
  | .tls13 s quic => .tls13 s quic

/-- `suite()`. -/
def suite (cs : ServerCipherSuite) : CipherSuite :=
  cs.toSupported.suite

/-- `version().version`. -/
def version (cs : ServerCipherSuite) : ProtocolVersion :=
  cs.toSupported.version

/-- `usable_for_protocol`. -/
def usableForProtocol (cs : ServerCipherSuite) (protocol : Protocol) : Bool :=
  cs.toSupported.usableForProtocol protocol

/-- `usable_for_signature_algorithm`: every TLS 1.3 suite, and a TLS 1.2
suite with a `sign` scheme of the algorithm. -/
def usableForSignatureAlgorithm : ServerCipherSuite → SignatureAlgorithm → Bool
  | .tls13 _ _, _ => true
  | .tls12 _ _ sign, sigAlg => sign.any (· == sigAlg)

/-- `usable_for_kx_algorithm`: every TLS 1.3 suite, and a TLS 1.2 suite for
its own key exchange. -/
def usableForKxAlgorithm : ServerCipherSuite → KeyExchangeAlgorithm → Bool
  | .tls13 _ _, _ => true
  | .tls12 _ kx _, kxa => kx == kxa

/-- The filter of `choose_suite_and_kx_group` over the provider's suites. -/
def suitable (suite : ServerCipherSuite) (version : ProtocolVersion) (sigAlg : SignatureAlgorithm)
    (protocol : Protocol) (ecdhePossible ffdhePossible : Bool) : Bool :=
  suite.usableForSignatureAlgorithm sigAlg && suite.version == version && suite.usableForProtocol protocol &&
    (ecdhePossible && suite.usableForKxAlgorithm .ecdhe || ffdhePossible && suite.usableForKxAlgorithm .dhe)

end ServerCipherSuite

/-- What `choose_suite_and_kx_group` reads of the `ServerConfig`: its
provider's cipher suites and key-exchange groups, and `ignore_client_order`. -/
structure SuiteConfig where
  cipherSuites : List ServerCipherSuite
  kxGroups : List SupportedKxGroup
  ignoreClientOrder : Bool

/-- The state of the loop over the client's groups: `ecdhe_possible`,
`ffdhe_possible`, `ffdhe_offered` and `supported_groups`. -/
structure GroupScan where
  ecdhePossible : Bool
  ffdhePossible : Bool
  ffdheOffered : Bool
  supportedGroups : List (Option SupportedKxGroup)

namespace SuiteConfig

/-- The provider's group for an offered one: the first usable for the
version with its name. -/
def supportedGroup (cfg : SuiteConfig) (version : ProtocolVersion) (offered : NamedGroup) :
    Option SupportedKxGroup :=
  cfg.kxGroups.find? fun skxg => skxg.usableForVersion version && skxg.name == offered

/-- One round of the loop over the client's groups. -/
def scanGroup (cfg : SuiteConfig) (version : ProtocolVersion) (scan : GroupScan) (offered : NamedGroup) :
    GroupScan :=
  let supported := cfg.supportedGroup version offered
  match offered.keyExchangeAlgorithm with
  | .dhe =>
    { scan with ffdhePossible := scan.ffdhePossible || supported.isSome, ffdheOffered := true,
                supportedGroups := scan.supportedGroups ++ [supported] }
  | .ecdhe =>
    { scan with ecdhePossible := scan.ecdhePossible || supported.isSome,
                supportedGroups := scan.supportedGroups ++ [supported] }

/-- The loop over the client's groups, from all flags down and no group. -/
def scanGroups (cfg : SuiteConfig) (version : ProtocolVersion) (clientGroups : List NamedGroup) : GroupScan :=
  clientGroups.foldl (cfg.scanGroup version) ⟨false, false, false, []⟩

/-- The provider's first DHE group, which a TLS 1.2 server may pick itself. -/
def firstDheGroup (cfg : SuiteConfig) : Option SupportedKxGroup :=
  cfg.kxGroups.find? fun skxg => skxg.name.keyExchangeAlgorithm == .dhe

/-- The suite taken from the suitable ones: the first the client offered, in
the provider's order under `ignore_client_order` and in the client's
otherwise. -/
def selectSuite (ignoreClientOrder : Bool) (suitableSuites : List ServerCipherSuite)
    (clientSuites : List CipherSuite) : Option ServerCipherSuite :=
  if ignoreClientOrder then suitableSuites.find? fun suite => clientSuites.contains suite.suite
  else clientSuites.findSome? fun clientSuite => suitableSuites.find? fun x => clientSuite == x.suite

/-- `maybe_skxg`: the first group the loop found that the suite can use. -/
def compatibleGroup (suite : ServerCipherSuite) (supportedGroups : List (Option SupportedKxGroup)) :
    Option SupportedKxGroup :=
  supportedGroups.findSome? fun maybeSkxg =>
    maybeSkxg.bind fun skxg =>
      if suite.usableForKxAlgorithm skxg.name.keyExchangeAlgorithm then some skxg else none

/-- The group for the chosen suite: `maybe_skxg`, unwrapped under TLS 1.3;
under TLS 1.2, when it is empty, the provider's first DHE group for a suite
that can use one. -/
def chooseKxGroup (selectedVersion : ProtocolVersion) (suite : ServerCipherSuite)
    (supportedGroups : List (Option SupportedKxGroup)) (firstSupportedDheKxg : Option SupportedKxGroup) :
    Option (Except PeerIncompatible (ServerCipherSuite × SupportedKxGroup)) :=
  let maybeSkxg := compatibleGroup suite supportedGroups
  if selectedVersion = .tlsv1_3 then
    -- `maybe_skxg.unwrap()`
    maybeSkxg.map fun skxg => .ok (suite, skxg)
  else
    match maybeSkxg with
    | some skxg => some (.ok (suite, skxg))
    | none =>
      if suite.usableForKxAlgorithm .dhe then
        match firstSupportedDheKxg with
        | some skxg => some (.ok (suite, skxg))
        | none => some (.error .noKxGroupsInCommon)
      else some (.error .noKxGroupsInCommon)

/-- `choose_suite_and_kx_group`; `none` is the panic of its `unwrap`. -/
def chooseSuiteAndKxGroup (cfg : SuiteConfig) (selectedVersion : ProtocolVersion)
    (sigKeyAlgorithm : SignatureAlgorithm) (protocol : Protocol) (clientGroups : List NamedGroup)
    (clientSuites : List CipherSuite) : Option (Except PeerIncompatible (ServerCipherSuite × SupportedKxGroup)) :=
  let scan := cfg.scanGroups selectedVersion clientGroups
  -- the TLS 1.2 branch: the first DHE group, and FFDHE possible through it when none was offered
  let firstSupportedDheKxg := if selectedVersion = .tlsv1_2 then cfg.firstDheGroup else none
  let ffdhePossible := scan.ffdhePossible ||
    (selectedVersion == .tlsv1_2 && !scan.ffdheOffered && cfg.firstDheGroup.isSome)
  if !scan.ecdhePossible && !ffdhePossible then some (.error .noKxGroupsInCommon)
  else
    let suitableSuites := cfg.cipherSuites.filter fun suite =>
      suite.suitable selectedVersion sigKeyAlgorithm protocol scan.ecdhePossible ffdhePossible
    match selectSuite cfg.ignoreClientOrder suitableSuites clientSuites with
    | none => some (.error .noCipherSuitesInCommon)
    | some suite => chooseKxGroup selectedVersion suite scan.supportedGroups firstSupportedDheKxg

/-! ### What the choice is for -/

section Spec

variable (cfg : SuiteConfig) (version : ProtocolVersion) (sigAlg : SignatureAlgorithm) (protocol : Protocol)
  (clientGroups : List NamedGroup) (clientSuites : List CipherSuite)

/-- A group a pair may use: one of the provider's, usable for the version,
that the client offered; or, under TLS 1.2 when the client offered no FFDHE
group, the provider's first FFDHE group (RFC 7919 section 4). -/
def GroupAllowed (skxg : SupportedKxGroup) : Prop :=
  (skxg ∈ cfg.kxGroups ∧ skxg.usableForVersion version = true ∧ skxg.name ∈ clientGroups) ∨
    (version = .tlsv1_2 ∧ (∀ g ∈ clientGroups, g.keyExchangeAlgorithm ≠ .dhe) ∧ cfg.firstDheGroup = some skxg)

/-- A suite and a group the server may agree on. -/
structure ValidPair (suite : ServerCipherSuite) (skxg : SupportedKxGroup) : Prop where
  mem_cipherSuites : suite ∈ cfg.cipherSuites
  mem_clientSuites : suite.suite ∈ clientSuites
  version_eq : suite.version = version
  usable_protocol : suite.usableForProtocol protocol = true
  usable_signature : suite.usableForSignatureAlgorithm sigAlg = true
  usable_kx : suite.usableForKxAlgorithm skxg.name.keyExchangeAlgorithm = true
  group_allowed : cfg.GroupAllowed version clientGroups skxg

/-- The suite comes no later than any other of a valid pair: in the
provider's order under `ignore_client_order`, in the client's otherwise. -/
def Preferred (suite : ServerCipherSuite) : Prop :=
  ∀ other skxg, cfg.ValidPair version sigAlg protocol clientGroups clientSuites other skxg →
    if cfg.ignoreClientOrder then cfg.cipherSuites.idxOf suite ≤ cfg.cipherSuites.idxOf other
    else clientSuites.idxOf suite.suite ≤ clientSuites.idxOf other.suite

/-- What the choice may answer: a valid pair of the preferred suite, or an
error when there is no valid pair at all. -/
inductive Negotiated : Except PeerIncompatible (ServerCipherSuite × SupportedKxGroup) → Prop
  | ok (suite : ServerCipherSuite) (skxg : SupportedKxGroup)
      (hvalid : cfg.ValidPair version sigAlg protocol clientGroups clientSuites suite skxg)
      (hpreferred : cfg.Preferred version sigAlg protocol clientGroups clientSuites suite) :
      Negotiated (.ok (suite, skxg))
  | error (e : PeerIncompatible)
      (hnone : ∀ suite skxg, ¬ cfg.ValidPair version sigAlg protocol clientGroups clientSuites suite skxg) :
      Negotiated (.error e)

end Spec

/-! ### The loop over the client's groups -/

section Scan

variable (cfg : SuiteConfig) (version : ProtocolVersion) (clientGroups : List NamedGroup)

/-- Whether some offered group of the algorithm has a group of the provider's
usable for the version. -/
def possible (kxa : KeyExchangeAlgorithm) : Bool :=
  clientGroups.any fun g => decide (g.keyExchangeAlgorithm = kxa) && (cfg.supportedGroup version g).isSome

/-- Whether the client offered an FFDHE group. -/
def offersFfdhe : Bool :=
  clientGroups.any fun g => decide (g.keyExchangeAlgorithm = .dhe)

/-- `ffdhe_possible` after the TLS 1.2 branch. -/
def ffdhePossible : Bool :=
  cfg.possible version clientGroups .dhe ||
    (version == .tlsv1_2 && !offersFfdhe clientGroups && cfg.firstDheGroup.isSome)

/-- The loop from any state: each flag is raised by the groups of its kind,
and every offered group's lookup is appended. -/
theorem foldl_scanGroup : ∀ scan : GroupScan,
    clientGroups.foldl (cfg.scanGroup version) scan =
      ⟨scan.ecdhePossible || cfg.possible version clientGroups .ecdhe,
        scan.ffdhePossible || cfg.possible version clientGroups .dhe,
        scan.ffdheOffered || offersFfdhe clientGroups,
        scan.supportedGroups ++ clientGroups.map (cfg.supportedGroup version)⟩ := by
  induction clientGroups with
  | nil => intro scan; simp [possible, offersFfdhe]
  | cons g gs ih =>
    intro scan
    rw [List.foldl_cons, ih]
    cases hkx : g.keyExchangeAlgorithm <;> simp [scanGroup, hkx, possible, offersFfdhe, Bool.or_assoc]

theorem scanGroups_eq :
    cfg.scanGroups version clientGroups =
      ⟨cfg.possible version clientGroups .ecdhe, cfg.possible version clientGroups .dhe,
        offersFfdhe clientGroups, clientGroups.map (cfg.supportedGroup version)⟩ := by
  rw [scanGroups, foldl_scanGroup]
  simp

end Scan

/-! ### The flags are exact -/

section Flags

variable {cfg : SuiteConfig} {version : ProtocolVersion} {clientGroups : List NamedGroup}

theorem supportedGroup_eq_some {offered : NamedGroup} {skxg : SupportedKxGroup}
    (h : cfg.supportedGroup version offered = some skxg) :
    skxg ∈ cfg.kxGroups ∧ skxg.usableForVersion version = true ∧ skxg.name = offered := by
  have hp := List.find?_some h
  rw [Bool.and_eq_true, beq_iff_eq] at hp
  exact ⟨List.mem_of_find?_eq_some h, hp.1, hp.2⟩

theorem supportedGroup_isSome {skxg : SupportedKxGroup} (hmem : skxg ∈ cfg.kxGroups)
    (husable : skxg.usableForVersion version = true) : (cfg.supportedGroup version skxg.name).isSome = true :=
  List.find?_isSome.mpr ⟨skxg, hmem, by simp [husable]⟩

theorem keyExchangeAlgorithm_of_firstDheGroup_eq_some {skxg : SupportedKxGroup}
    (h : cfg.firstDheGroup = some skxg) : skxg.name.keyExchangeAlgorithm = .dhe := by
  simpa using List.find?_some h

theorem possible_iff {kxa : KeyExchangeAlgorithm} :
    cfg.possible version clientGroups kxa = true ↔
      ∃ g ∈ clientGroups, g.keyExchangeAlgorithm = kxa ∧ (cfg.supportedGroup version g).isSome = true := by
  simp [possible, List.any_eq_true]

theorem ffdhePossible_iff :
    cfg.ffdhePossible version clientGroups = true ↔
      cfg.possible version clientGroups .dhe = true ∨
        version = .tlsv1_2 ∧ (∀ g ∈ clientGroups, g.keyExchangeAlgorithm ≠ .dhe) ∧
          cfg.firstDheGroup.isSome = true := by
  simp [ffdhePossible, offersFfdhe, and_assoc]

/-- The group the loop looks up for an offered group is one a pair may use,
of the offered group's algorithm. -/
theorem groupAllowed_of_supportedGroup {g : NamedGroup} {skxg : SupportedKxGroup} (hg : g ∈ clientGroups)
    (h : cfg.supportedGroup version g = some skxg) :
    cfg.GroupAllowed version clientGroups skxg ∧ skxg.name.keyExchangeAlgorithm = g.keyExchangeAlgorithm := by
  obtain ⟨hmem, husable, rfl⟩ := supportedGroup_eq_some h
  exact ⟨Or.inl ⟨hmem, husable, hg⟩, rfl⟩

theorem exists_groupAllowed_of_possible {suite : ServerCipherSuite} {kxa : KeyExchangeAlgorithm}
    (h : cfg.possible version clientGroups kxa = true) (husable : suite.usableForKxAlgorithm kxa = true) :
    ∃ skxg, cfg.GroupAllowed version clientGroups skxg ∧
      suite.usableForKxAlgorithm skxg.name.keyExchangeAlgorithm = true := by
  obtain ⟨g, hg, hkx, hsome⟩ := possible_iff.mp h
  obtain ⟨skxg, hskxg⟩ := Option.isSome_iff_exists.mp hsome
  obtain ⟨hallowed, hname⟩ := groupAllowed_of_supportedGroup hg hskxg
  refine ⟨skxg, hallowed, ?_⟩
  rw [hname, hkx]
  exact husable

theorem possible_of_mem {skxg : SupportedKxGroup} (hmem : skxg ∈ cfg.kxGroups)
    (husable : skxg.usableForVersion version = true) (hname : skxg.name ∈ clientGroups) :
    cfg.possible version clientGroups skxg.name.keyExchangeAlgorithm = true :=
  possible_iff.mpr ⟨skxg.name, hname, rfl, supportedGroup_isSome hmem husable⟩

/-- **The flags are exact.**  The key-exchange part of the filter holds of a
suite exactly when some group a pair may use makes one with it. -/
theorem kxPossible_iff (suite : ServerCipherSuite) :
    (cfg.possible version clientGroups .ecdhe && suite.usableForKxAlgorithm .ecdhe ||
        cfg.ffdhePossible version clientGroups && suite.usableForKxAlgorithm .dhe) = true ↔
      ∃ skxg, cfg.GroupAllowed version clientGroups skxg ∧
        suite.usableForKxAlgorithm skxg.name.keyExchangeAlgorithm = true := by
  simp only [Bool.or_eq_true, Bool.and_eq_true]
  constructor
  · rintro (⟨hecdhe, husable⟩ | ⟨hffdhe, husable⟩)
    · exact exists_groupAllowed_of_possible hecdhe husable
    · rcases ffdhePossible_iff.mp hffdhe with hdhe | ⟨hv, hnone, hfirst⟩
      · exact exists_groupAllowed_of_possible hdhe husable
      -- the provider's own FFDHE group, which the client did not have to offer
      · obtain ⟨skxg, hskxg⟩ := Option.isSome_iff_exists.mp hfirst
        refine ⟨skxg, Or.inr ⟨hv, hnone, hskxg⟩, ?_⟩
        rw [keyExchangeAlgorithm_of_firstDheGroup_eq_some hskxg]
        exact husable
  · rintro ⟨skxg, ⟨hmem, husable, hname⟩ | ⟨hv, hnone, hfirst⟩, hkx⟩
    · have hpossible := possible_of_mem hmem husable hname
      cases halg : skxg.name.keyExchangeAlgorithm with
      | dhe =>
        rw [halg] at hpossible hkx
        exact Or.inr ⟨ffdhePossible_iff.mpr (Or.inl hpossible), hkx⟩
      | ecdhe =>
        rw [halg] at hpossible hkx
        exact Or.inl ⟨hpossible, hkx⟩
    · rw [keyExchangeAlgorithm_of_firstDheGroup_eq_some hfirst] at hkx
      exact Or.inr ⟨ffdhePossible_iff.mpr (Or.inr ⟨hv, hnone, by rw [hfirst]; rfl⟩), hkx⟩

end Flags

/-! ### The filter, the selection and the group -/

section Suitable

variable (cfg : SuiteConfig) (version : ProtocolVersion) (sigAlg : SignatureAlgorithm) (protocol : Protocol)
  (clientGroups : List NamedGroup) (clientSuites : List CipherSuite)

/-- The suites that pass the filter, with the loop's flags in closed form. -/
def suitableSuites : List ServerCipherSuite :=
  cfg.cipherSuites.filter fun suite =>
    suite.suitable version sigAlg protocol (cfg.possible version clientGroups .ecdhe)
      (cfg.ffdhePossible version clientGroups)

/-- The function once the loop is run: the flags and the lookups in closed
form, the rest as the source has it. -/
theorem chooseSuiteAndKxGroup_eq :
    cfg.chooseSuiteAndKxGroup version sigAlg protocol clientGroups clientSuites =
      if !cfg.possible version clientGroups .ecdhe && !cfg.ffdhePossible version clientGroups then
        some (.error .noKxGroupsInCommon)
      else
        match selectSuite cfg.ignoreClientOrder (cfg.suitableSuites version sigAlg protocol clientGroups)
            clientSuites with
        | none => some (.error .noCipherSuitesInCommon)
        | some suite =>
          chooseKxGroup version suite (clientGroups.map (cfg.supportedGroup version))
            (if version = .tlsv1_2 then cfg.firstDheGroup else none) := by
  rw [chooseSuiteAndKxGroup, scanGroups_eq]
  rfl

variable {cfg version sigAlg protocol clientGroups clientSuites}

theorem mem_suitableSuites_iff {suite : ServerCipherSuite} :
    suite ∈ cfg.suitableSuites version sigAlg protocol clientGroups ↔
      suite ∈ cfg.cipherSuites ∧ suite.usableForSignatureAlgorithm sigAlg = true ∧ suite.version = version ∧
        suite.usableForProtocol protocol = true ∧
        ∃ skxg, cfg.GroupAllowed version clientGroups skxg ∧
          suite.usableForKxAlgorithm skxg.name.keyExchangeAlgorithm = true := by
  rw [suitableSuites, List.mem_filter, ServerCipherSuite.suitable, Bool.and_eq_true, Bool.and_eq_true,
    Bool.and_eq_true, beq_iff_eq, kxPossible_iff]
  simp only [and_assoc]

/-- Every suite of a valid pair passes the filter. -/
theorem mem_suitableSuites_of_validPair {suite : ServerCipherSuite} {skxg : SupportedKxGroup}
    (h : cfg.ValidPair version sigAlg protocol clientGroups clientSuites suite skxg) :
    suite ∈ cfg.suitableSuites version sigAlg protocol clientGroups :=
  mem_suitableSuites_iff.mpr
    ⟨h.mem_cipherSuites, h.usable_signature, h.version_eq, h.usable_protocol, skxg, h.group_allowed, h.usable_kx⟩

theorem validPair_of_mem_suitableSuites {suite : ServerCipherSuite} {skxg : SupportedKxGroup}
    (hmem : suite ∈ cfg.suitableSuites version sigAlg protocol clientGroups) (hoffered : suite.suite ∈ clientSuites)
    (hallowed : cfg.GroupAllowed version clientGroups skxg)
    (husable : suite.usableForKxAlgorithm skxg.name.keyExchangeAlgorithm = true) :
    cfg.ValidPair version sigAlg protocol clientGroups clientSuites suite skxg := by
  obtain ⟨hprovider, hsig, hversion, hprotocol, -⟩ := mem_suitableSuites_iff.mp hmem
  exact ⟨hprovider, hoffered, hversion, hprotocol, hsig, husable, hallowed⟩

end Suitable

section Selection

variable {ignoreClientOrder : Bool} {suites : List ServerCipherSuite} {clientSuites : List CipherSuite}

/-- What the selection returns is a suite it was given that the client
offered, no later than any other such suite in the order it follows. -/
theorem selectSuite_eq_some {p : ServerCipherSuite → Bool} {suite : ServerCipherSuite}
    (h : selectSuite ignoreClientOrder (suites.filter p) clientSuites = some suite) :
    suite ∈ suites.filter p ∧ suite.suite ∈ clientSuites ∧
      ∀ x ∈ suites.filter p, x.suite ∈ clientSuites →
        if ignoreClientOrder then suites.idxOf suite ≤ suites.idxOf x
        else clientSuites.idxOf suite.suite ≤ clientSuites.idxOf x.suite := by
  cases ignoreClientOrder with
  | true =>
    -- the provider's order: the first suitable suite the client offered
    rw [selectSuite, if_pos rfl] at h
    have hoffered : suite.suite ∈ clientSuites := by simpa using List.find?_some h
    refine ⟨List.mem_of_find?_eq_some h, hoffered, fun x hx hxoffered => ?_⟩
    rw [if_pos rfl]
    rw [List.find?_filter] at h
    obtain ⟨hxmem, hxp⟩ := List.mem_filter.mp hx
    exact List.idxOf_le_of_find?_eq_some h hxmem (by simpa [List.contains_iff_mem] using ⟨hxp, hxoffered⟩)
  | false =>
    -- the client's order: the first offered suite that some suitable one has
    rw [selectSuite, if_neg Bool.false_ne_true] at h
    obtain ⟨c, hc, hfind, hfirst⟩ := List.exists_idxOf_le_of_findSome?_eq_some h
    have hcsuite : c = suite.suite := by simpa using List.find?_some hfind
    subst hcsuite
    refine ⟨List.mem_of_find?_eq_some hfind, hc, fun x hx hxoffered => ?_⟩
    rw [if_neg Bool.false_ne_true]
    exact hfirst x.suite hxoffered (List.find?_isSome.mpr ⟨x, hx, by simp⟩)

theorem selectSuite_eq_none (h : selectSuite ignoreClientOrder suites clientSuites = none) :
    ∀ x ∈ suites, x.suite ∉ clientSuites := by
  intro x hx hoffered
  cases ignoreClientOrder with
  | true =>
    rw [selectSuite, if_pos rfl] at h
    exact List.find?_eq_none.mp h x hx (List.contains_iff_mem.mpr hoffered)
  | false =>
    rw [selectSuite, if_neg Bool.false_ne_true] at h
    have hnone := List.findSome?_eq_none_iff.mp h x.suite hoffered
    exact List.find?_eq_none.mp hnone x hx (by simp)

end Selection

section Group

variable {suite : ServerCipherSuite} {groups : List (Option SupportedKxGroup)}

theorem compatibleGroup_eq_some {skxg : SupportedKxGroup} (h : compatibleGroup suite groups = some skxg) :
    some skxg ∈ groups ∧ suite.usableForKxAlgorithm skxg.name.keyExchangeAlgorithm = true := by
  obtain ⟨maybeSkxg, hmem, hf⟩ := List.exists_of_findSome?_eq_some h
  cases maybeSkxg with
  | none => cases hf
  | some g =>
    rw [Option.bind_some] at hf
    by_cases husable : suite.usableForKxAlgorithm g.name.keyExchangeAlgorithm = true
    · rw [if_pos husable] at hf
      cases hf
      exact ⟨hmem, husable⟩
    · rw [if_neg husable] at hf
      cases hf

theorem usableForKxAlgorithm_of_compatibleGroup_eq_none (h : compatibleGroup suite groups = none)
    {skxg : SupportedKxGroup} (hmem : some skxg ∈ groups) :
    suite.usableForKxAlgorithm skxg.name.keyExchangeAlgorithm = false := by
  have hnone := List.findSome?_eq_none_iff.mp h _ hmem
  rw [Option.bind_some] at hnone
  cases husable : suite.usableForKxAlgorithm skxg.name.keyExchangeAlgorithm with
  | false => rfl
  | true =>
    rw [if_pos husable] at hnone
    cases hnone

theorem chooseKxGroup_of_compatibleGroup_eq_some {version : ProtocolVersion} {skxg : SupportedKxGroup}
    (h : compatibleGroup suite groups = some skxg) (first : Option SupportedKxGroup) :
    chooseKxGroup version suite groups first = some (.ok (suite, skxg)) := by
  unfold chooseKxGroup
  by_cases hv : version = .tlsv1_3
  · rw [if_pos hv, h, Option.map_some]
  · rw [if_neg hv, h]

theorem chooseKxGroup_of_fallback {version : ProtocolVersion} {first : Option SupportedKxGroup}
    {skxg : SupportedKxGroup} (h : compatibleGroup suite groups = none) (hv : version = .tlsv1_2)
    (hdhe : suite.usableForKxAlgorithm .dhe = true) (hfirst : first = some skxg) :
    chooseKxGroup version suite groups first = some (.ok (suite, skxg)) := by
  subst hv hfirst
  unfold chooseKxGroup
  rw [if_neg (by decide), h]
  dsimp only
  rw [if_pos hdhe]

/-- When the search over the offered groups finds nothing for a suite, the
only group that can make a pair with it is TLS 1.2's own FFDHE group: any
offered one it can use would have been found. -/
theorem fallback_of_compatibleGroup_eq_none {cfg : SuiteConfig} {version : ProtocolVersion}
    {clientGroups : List NamedGroup} {skxg : SupportedKxGroup}
    (hnone : compatibleGroup suite (clientGroups.map (cfg.supportedGroup version)) = none)
    (hallowed : cfg.GroupAllowed version clientGroups skxg)
    (husable : suite.usableForKxAlgorithm skxg.name.keyExchangeAlgorithm = true) :
    version = .tlsv1_2 ∧ cfg.firstDheGroup = some skxg := by
  rcases hallowed with ⟨hmem, hversion, hname⟩ | ⟨hv, -, hfirst⟩
  · obtain ⟨found, hfound⟩ := Option.isSome_iff_exists.mp (supportedGroup_isSome hmem hversion)
    obtain ⟨-, -, hfoundName⟩ := supportedGroup_eq_some hfound
    have hunusable := usableForKxAlgorithm_of_compatibleGroup_eq_none hnone
      (List.mem_map.mpr ⟨skxg.name, hname, hfound⟩)
    rw [hfoundName, husable] at hunusable
    cases hunusable
  · exact ⟨hv, hfirst⟩

end Group

/-- **The server's choice is sound, complete, follows the configured order,
and never panics.**  It answers, and what it answers is a valid pair of the
preferred suite, or an error when no pair is valid. -/
theorem chooseSuiteAndKxGroup_negotiates (cfg : SuiteConfig) (version : ProtocolVersion)
    (sigAlg : SignatureAlgorithm) (protocol : Protocol) (clientGroups : List NamedGroup)
    (clientSuites : List CipherSuite) :
    ∃ r, cfg.chooseSuiteAndKxGroup version sigAlg protocol clientGroups clientSuites = some r ∧
      cfg.Negotiated version sigAlg protocol clientGroups clientSuites r := by
  rw [chooseSuiteAndKxGroup_eq]
  by_cases hkx : (!cfg.possible version clientGroups .ecdhe && !cfg.ffdhePossible version clientGroups) = true
  · -- no key exchange is possible, so no suite makes a pair
    rw [if_pos hkx]
    refine ⟨_, rfl, .error _ fun suite skxg hvalid => ?_⟩
    have hpair := (kxPossible_iff suite).mpr ⟨skxg, hvalid.group_allowed, hvalid.usable_kx⟩
    rw [Bool.and_eq_true, Bool.not_eq_true', Bool.not_eq_true'] at hkx
    rw [hkx.1, hkx.2, Bool.false_and, Bool.false_and, Bool.or_false] at hpair
    cases hpair
  rw [if_neg hkx]
  cases hsel : selectSuite cfg.ignoreClientOrder (cfg.suitableSuites version sigAlg protocol clientGroups)
      clientSuites with
  | none =>
    -- every suite of a pair passes the filter, and none that does was offered
    refine ⟨_, rfl, .error _ fun suite skxg hvalid => ?_⟩
    exact selectSuite_eq_none hsel suite (mem_suitableSuites_of_validPair hvalid) hvalid.mem_clientSuites
  | some suite =>
    obtain ⟨hmem, hoffered, hfirst⟩ := selectSuite_eq_some hsel
    have hpreferred : cfg.Preferred version sigAlg protocol clientGroups clientSuites suite :=
      fun other _ hvalid => hfirst other (mem_suitableSuites_of_validPair hvalid) hvalid.mem_clientSuites
    cases hc : compatibleGroup suite (clientGroups.map (cfg.supportedGroup version)) with
    | some skxg =>
      obtain ⟨hfound, husable⟩ := compatibleGroup_eq_some hc
      obtain ⟨g, hg, hskxg⟩ := List.mem_map.mp hfound
      have hallowed := (groupAllowed_of_supportedGroup hg hskxg).1
      exact ⟨_, chooseKxGroup_of_compatibleGroup_eq_some hc _,
        .ok _ _ (validPair_of_mem_suitableSuites hmem hoffered hallowed husable) hpreferred⟩
    | none =>
      -- the suite passed the filter, so some group makes a pair with it; the search
      -- over the offered groups found none, so it is TLS 1.2's own FFDHE group
      obtain ⟨-, -, -, -, skxg, hallowed, husable⟩ := mem_suitableSuites_iff.mp hmem
      obtain ⟨hv, hfirstDhe⟩ := fallback_of_compatibleGroup_eq_none hc hallowed husable
      have hdhe : suite.usableForKxAlgorithm .dhe = true := by
        rw [← keyExchangeAlgorithm_of_firstDheGroup_eq_some hfirstDhe]
        exact husable
      exact ⟨_, chooseKxGroup_of_fallback hc hv hdhe (by rw [if_pos hv, hfirstDhe]),
        .ok _ _ (validPair_of_mem_suitableSuites hmem hoffered hallowed husable) hpreferred⟩

/- A TLS 1.2 client offering only an ECDHE group the server lacks, and no
FFDHE group: the server picks its own FFDHE group for its DHE suite. -/
example :
    ((⟨[.tls12 ⟨0x009e⟩ .dhe [⟨1⟩]], [⟨.x25519, fun _ => true⟩, ⟨⟨0x0100⟩, fun _ => true⟩], false⟩ :
          SuiteConfig).chooseSuiteAndKxGroup .tlsv1_2 ⟨1⟩ .tcp [.secp256r1] [⟨0x009e⟩]).map
        (·.map fun r => (r.1, r.2.name)) =
      some (.ok (.tls12 ⟨0x009e⟩ .dhe [⟨1⟩], ⟨0x0100⟩)) := by
  decide

end SuiteConfig

end Rustls
