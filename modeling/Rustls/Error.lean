import Rustls.Enums

/-!
The errors of `error.rs`.

A modelled function that can fail returns `Except Error _`, with the variant
and the reason the source gives, since which reason a peer's misbehaviour is
reported under is part of what the code does.  The string payloads of
`InvalidMessage` name the decoder that failed.  A certificate error is kept
only as the alert `send_cert_verify_error_alert` maps it to, which is all the
modelled code reads of it.
-/

namespace Rustls

/-- `InvalidMessage` of `error.rs`. -/
inductive InvalidMessage
  | certificatePayloadTooLarge
  | handshakePayloadTooLarge
  | invalidCcs
  | invalidContentType
  | invalidCertificateStatusType
  | invalidCertRequest
  | invalidDhParams
  | invalidEmptyPayload
  | invalidKeyUpdate
  | invalidServerName
  | messageTooLarge
  | messageTooShort
  | missingData (what : String)
  | missingKeyExchange
  | noSignatureSchemes
  | trailingData (what : String)
  | unexpectedMessage (what : String)
  | unknownProtocolVersion
  | unsupportedCompression
  | unsupportedCurveType
  | unsupportedKeyExchangeAlgorithm
  deriving DecidableEq, Repr

/-- `PeerMisbehaved` of `error.rs`. -/
inductive PeerMisbehaved
  | attemptedDowngradeToTls12WhenTls13IsSupported
  | badCertChainExtensions
  | disallowedEncryptedExtension
  | duplicateClientHelloExtensions
  | duplicateEncryptedExtensions
  | duplicateHelloRetryRequestExtensions
  | duplicateNewSessionTicketExtensions
  | duplicateServerHelloExtensions
  | duplicateServerNameTypes
  | earlyDataAttemptedInSecondClientHello
  | earlyDataExtensionWithoutResumption
  | earlyDataOfferedWithVariedCipherSuite
  | handshakeHashVariedAfterRetry
  | illegalHelloRetryRequestWithEmptyCookie
  | illegalHelloRetryRequestWithNoChanges
  | illegalHelloRetryRequestWithOfferedGroup
  | illegalHelloRetryRequestWithUnofferedCipherSuite
  | illegalHelloRetryRequestWithUnofferedNamedGroup
  | illegalHelloRetryRequestWithUnsupportedVersion
  | illegalHelloRetryRequestWithWrongSessionId
  | illegalHelloRetryRequestWithInvalidEch
  | illegalMiddleboxChangeCipherSpec
  | illegalTlsInnerPlaintext
  | incorrectBinder
  | invalidCertCompression
  | invalidMaxEarlyDataSize
  | invalidKeyShare
  | keyEpochWithPendingFragment
  | keyUpdateReceivedInQuicConnection
  | messageInterleavedWithHandshakeMessage
  | missingBinderInPskExtension
  | missingKeyShare
  | missingPskModesExtension
  | missingQuicTransportParameters
  | offeredDuplicateCertificateCompressions
  | offeredDuplicateKeyShares
  | offeredEarlyDataWithOldProtocolVersion
  | offeredEmptyApplicationProtocol
  | offeredIncorrectCompressions
  | pskExtensionMustBeLast
  | pskExtensionWithMismatchedIdsAndBinders
  | refusedToFollowHelloRetryRequest
  | rejectedEarlyDataInterleavedWithHandshakeMessage
  | resumptionAttemptedWithVariedEms
  | resumptionOfferedWithVariedCipherSuite
  | resumptionOfferedWithVariedEms
  | resumptionOfferedWithIncompatibleCipherSuite
  | selectedDifferentCipherSuiteAfterRetry
  | selectedInvalidPsk
  | selectedTls12UsingTls13VersionExtension
  | selectedUnofferedApplicationProtocol
  | selectedUnofferedCertCompression
  | selectedUnofferedCipherSuite
  | selectedUnofferedCompression
  | selectedUnofferedKxGroup
  | selectedUnofferedPsk
  | selectedUnusableCipherSuiteForVersion
  | serverHelloMustOfferUncompressedEcPoints
  | serverNameDifferedOnRetry
  | serverNameMustContainOneHostName
  | signedKxWithWrongAlgorithm
  | signedHandshakeWithUnadvertisedSigScheme
  | tooManyEmptyFragments
  | tooManyKeyUpdateRequests
  | tooManyRenegotiationRequests
  | tooManyWarningAlertsReceived
  | tooMuchEarlyDataReceived
  | unexpectedCleartextExtension
  | unsolicitedCertExtension
  | unsolicitedEncryptedExtension
  | unsolicitedSctList
  | unsolicitedServerHelloExtension
  | wrongGroupForKeyShare
  | unsolicitedEchExtension
  deriving DecidableEq, Repr

/-- `PeerIncompatible` of `error.rs`; the configurations a rejecting ECH
server offers are not kept. -/
inductive PeerIncompatible
  | ecPointsExtensionRequired
  | extendedMasterSecretExtensionRequired
  | keyShareExtensionRequired
  | namedGroupsExtensionRequired
  | noCertificateRequestSignatureSchemesInCommon
  | noCipherSuitesInCommon
  | noEcPointFormatsInCommon
  | noKxGroupsInCommon
  | noSignatureSchemesInCommon
  | nullCompressionRequired
  | serverDoesNotSupportTls12Or13
  | serverSentHelloRetryRequestWithUnknownExtension
  | serverTlsVersionIsDisabledByOurConfig
  | signatureAlgorithmsExtensionRequired
  | supportedVersionsExtensionRequired
  | tls12NotOffered
  | tls12NotOfferedOrEnabled
  | tls13RequiredForQuic
  | uncompressedEcPointsRequired
  | serverRejectedEncryptedClientHello
  deriving DecidableEq, Repr

/-- `Error` of `error.rs`. -/
inductive Error
  | inappropriateMessage (expectTypes : List ContentType) (gotType : ContentType)
  | inappropriateHandshakeMessage (expectTypes : List HandshakeType) (gotType : HandshakeType)
  | invalidEncryptedClientHello
  | invalidMessage (e : InvalidMessage)
  | noCertificatesPresented
  | unsupportedNameType
  | decryptError
  | encryptError
  | peerIncompatible (e : PeerIncompatible)
  | peerMisbehaved (e : PeerMisbehaved)
  | alertReceived (d : AlertDescription)
  | invalidCertificate (alert : AlertDescription)
  | general (s : String)
  | failedToGetCurrentTime
  | failedToGetRandomBytes
  | handshakeNotComplete
  | peerSentOversizedRecord
  | noApplicationProtocol
  | badMaxFragmentSize
  deriving DecidableEq, Repr

/-- How a handshake step fails: the fatal alert it sends, if it sends one,
and the error it returns. -/
abbrev HandshakeFailure := Option AlertDescription × Error

end Rustls
