import TlsEndpoint.Error.Certificate

/-! # Failures of the protocol engine

Those that loading, building or shaking hands comes across are spelled out. Suppliers of material
may report any other one, which is known by its texts. -/
namespace TlsEndpoint

inductive Alert where
  | unexpectedMessage
  | handshakeFailure
  | badCertificate
  | unsupportedCertificate
  | certificateRevoked
  | certificateExpired
  | certificateUnknown
  | unknownAuthority
  | accessDenied
  | decryptError
  | protocolVersion
  deriving DecidableEq, Repr

def Alert.name : Alert → String
  | .unexpectedMessage => "UnexpectedMessage"
  | .handshakeFailure => "HandshakeFailure"
  | .badCertificate => "BadCertificate"
  | .unsupportedCertificate => "UnsupportedCertificate"
  | .certificateRevoked => "CertificateRevoked"
  | .certificateExpired => "CertificateExpired"
  | .certificateUnknown => "CertificateUnknown"
  | .unknownAuthority => "UnknownCA"
  | .accessDenied => "AccessDenied"
  | .decryptError => "DecryptError"
  | .protocolVersion => "ProtocolVersion"

inductive KeyInconsistency where
  | mismatch
  | unknown
  deriving DecidableEq, Repr

def KeyInconsistency.name : KeyInconsistency → String
  | .mismatch => "KeyMismatch"
  | .unknown => "Unknown"

inductive Incompatibility where
  | olderVersionNotOffered
  | noSharedGroup
  | noSharedSuite
  deriving DecidableEq, Repr

def Incompatibility.name : Incompatibility → String
  | .olderVersionNotOffered => "Tls12NotOfferedOrEnabled"
  | .noSharedGroup => "NoKxGroupsInCommon"
  | .noSharedSuite => "NoCipherSuitesInCommon"

inductive TlsError where
  | general (text : String)
  | noCertificatesPresented
  | inconsistentKeys (what : KeyInconsistency)
  | decryptError
  | invalidCertificate (fault : CertificateFault)
  | noApplicationProtocol
  | peerIncompatible (why : Incompatibility)
  | alertReceived (alert : Alert)
  /-- A client that presents an empty chain still proves possession of a key. -/
  | proofWithoutCertificate
  /-- The same before encryption has begun. -/
  | proofBeforeCipher
  | other (message structural : String)
  deriving DecidableEq, Repr

namespace TlsError

def message : TlsError → String
  | .general text => "unexpected error: " ++ text
  | .noCertificatesPresented => "peer sent no certificates"
  | .inconsistentKeys what => "keys may not be consistent: " ++ what.name
  | .decryptError => "cannot decrypt peer's message"
  | .invalidCertificate .expired => CertificateFault.expired.text
  | .invalidCertificate .notYetValid => CertificateFault.notYetValid.text
  | .invalidCertificate fault => "invalid peer certificate: " ++ fault.text
  | .noApplicationProtocol => "peer doesn't support any known protocol"
  | .peerIncompatible why => "peer is incompatible: " ++ why.name
  | .alertReceived alert => "received fatal alert: " ++ alert.name
  | .proofWithoutCertificate =>
    "received unexpected handshake message: got CertificateVerify when expecting Finished"
  | .proofBeforeCipher =>
    "received unexpected message: got Handshake when expecting ChangeCipherSpec"
  | .other message _ => message

def structural : TlsError → String
  | .general text => "General(" ++ Text.quoted text ++ ")"
  | .noCertificatesPresented => "NoCertificatesPresented"
  | .inconsistentKeys what => "InconsistentKeys(" ++ what.name ++ ")"
  | .decryptError => "DecryptError"
  | .invalidCertificate fault => "InvalidCertificate(" ++ fault.text ++ ")"
  | .noApplicationProtocol => "NoApplicationProtocol"
  | .peerIncompatible why => "PeerIncompatible(" ++ why.name ++ ")"
  | .alertReceived alert => "AlertReceived(" ++ alert.name ++ ")"
  | .proofWithoutCertificate => "InappropriateHandshakeMessage"
  | .proofBeforeCipher => "InappropriateMessage"
  | .other _ structural => structural

end TlsError

def CertificateFault.alert : CertificateFault → Alert
  | .badEncoding | .badTime | .nameMismatch .. => .badCertificate
  | .notYetValid | .expired | .emptyValidity => .certificateExpired
  | .revoked => .certificateRevoked
  | .unknownIssuer => .unknownAuthority
  | .badSignature | .unsupportedSignature .. | .unsupportedSignatureForKey .. => .decryptError
  | .wrongPurpose .. => .unsupportedCertificate
  | _ => .certificateUnknown

end TlsEndpoint
