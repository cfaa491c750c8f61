import TlsEndpoint.Name

/-! # What can be wrong with a certificate

Reading a certificate and building a path from it report the same type of fault. Of several faults
met on different paths the one with the highest rank is reported. -/
namespace TlsEndpoint

structure Purpose where
  arcs : List Nat
  deriving DecidableEq, Repr

namespace Purpose

def serverAuthentication : Purpose := ⟨[1, 3, 6, 1, 5, 5, 7, 3, 1]⟩
def clientAuthentication : Purpose := ⟨[1, 3, 6, 1, 5, 5, 7, 3, 2]⟩

def text (p : Purpose) : String :=
  if p = serverAuthentication then "server authentication"
  else if p = clientAuthentication then "client authentication"
  else ", ".intercalate (p.arcs.map toString)

end Purpose

inductive CertificateFault where
  | badEncoding
  | badTime
  | unsupportedVersion
  | algorithmMismatch
  | badExtension
  | unknownCriticalExtension
  | notYetValid
  | expired
  | emptyValidity
  | unknownIssuer
  | revoked
  | badSignature
  | unsupportedSignature (algorithm : Bytes) (supported : List Bytes)
  | unsupportedSignatureForKey (algorithm key : Bytes)
  | authorityAsEndEntity
  | endEntityAsAuthority
  | pathTooLong
  | depthExceeded
  | wrongPurpose (required : Purpose) (allowed : List Purpose)
  | nameMismatch (expected : ServerName) (presented : List GeneralName)
  | nameConstraintViolated
  | malformedNameConstraint
  | malformedHostName
  | badNetworkMask
  | signatureBudgetExceeded
  | buildBudgetExceeded
  | comparisonBudgetExceeded
  deriving DecidableEq, Repr

namespace CertificateFault

/-- The more a fault says about the path that was meant, the higher it ranks. -/
def rank : CertificateFault → Nat
  | .notYetValid | .expired => 290
  | .nameMismatch .. => 280
  | .revoked => 270
  | .badSignature => 260
  | .algorithmMismatch => 250
  | .wrongPurpose .. => 240
  | .nameConstraintViolated => 230
  | .pathTooLong => 220
  | .authorityAsEndEntity | .endEntityAsAuthority => 210
  | .emptyValidity => 190
  | .badNetworkMask => 180
  | .unsupportedSignatureForKey .. => 150
  | .unsupportedSignature .. => 140
  | .unknownCriticalExtension | .unsupportedVersion => 130
  | .depthExceeded => 61
  | .malformedHostName => 60
  | .malformedNameConstraint => 50
  | .badExtension => 30
  | .badTime => 20
  | .badEncoding => 10
  | .unknownIssuer => 0
  | .signatureBudgetExceeded | .buildBudgetExceeded | .comparisonBudgetExceeded => 0

/-- The fault to report of one met earlier and one met later. -/
def worse (earlier later : CertificateFault) : CertificateFault :=
  if later.rank ≤ earlier.rank then earlier else later

/-- A fault that ends the search for a path. -/
def isFatal : CertificateFault → Bool
  | .signatureBudgetExceeded | .buildBudgetExceeded | .comparisonBudgetExceeded => true
  | _ => false

/-- Faults without a name of their own on the wire are wrapped. -/
def wrapped (name : String) : String := "Other(OtherError(" ++ name ++ "))"

def alternatives : List GeneralName → String
  | [] => "is not valid for any names (according to its subjectAltName extension)"
  | [n] => "is only valid for " ++ n.text
  | ns =>
    let texts := ns.map GeneralName.text
    "is only valid for " ++ ", ".intercalate texts.dropLast ++ " or " ++ texts.getLastD ""

def octetList (b : Bytes) : String :=
  "[" ++ ", ".intercalate (b.map fun x => toString x.toNat) ++ "]"

/-- The fault in a message. The clock is not quoted, so the text depends on the certificate alone. -/
def text : CertificateFault → String
  | .badEncoding | .badTime => "BadEncoding"
  | .unsupportedVersion => wrapped "UnsupportedCertVersion"
  | .algorithmMismatch => wrapped "SignatureAlgorithmMismatch"
  | .badExtension => wrapped "ExtensionValueInvalid"
  | .unknownCriticalExtension => wrapped "UnsupportedCriticalExtension"
  | .notYetValid => "(not yet valid)"
  | .expired => "(expired)"
  | .emptyValidity => "Expired"
  | .unknownIssuer => "UnknownIssuer"
  | .revoked => "Revoked"
  | .badSignature => "BadSignature"
  | .unsupportedSignature a supported =>
    "UnsupportedSignatureAlgorithmContext \x7b signature_algorithm_id: " ++ octetList a
      ++ ", supported_algorithms: ["
      ++ ", ".intercalate (supported.map fun b => "0x" ++ Text.hex b) ++ "] \x7d"
  | .unsupportedSignatureForKey a k =>
    "UnsupportedSignatureAlgorithmForPublicKeyContext \x7b signature_algorithm_id: "
      ++ octetList a ++ ", public_key_algorithm_id: " ++ octetList k ++ " \x7d"
  | .authorityAsEndEntity => wrapped "CaUsedAsEndEntity"
  | .endEntityAsAuthority => wrapped "EndEntityUsedAsCa"
  | .pathTooLong => wrapped "PathLenConstraintViolated"
  | .depthExceeded => wrapped "MaximumPathDepthExceeded"
  | .wrongPurpose required allowed =>
    "certificate does not allow extended key usage for " ++ required.text ++ ", allows "
      ++ ", ".intercalate (allowed.map Purpose.text)
  | .nameMismatch expected presented =>
    "certificate not valid for name " ++ Text.quoted expected.text ++ "; certificate "
      ++ alternatives presented
  | .nameConstraintViolated => wrapped "NameConstraintViolation"
  | .malformedNameConstraint => wrapped "MalformedNameConstraint"
  | .malformedHostName => wrapped "MalformedDnsIdentifier"
  | .badNetworkMask => wrapped "InvalidNetworkMaskConstraint"
  | .signatureBudgetExceeded => wrapped "MaximumSignatureChecksExceeded"
  | .buildBudgetExceeded => wrapped "MaximumPathBuildCallsExceeded"
  | .comparisonBudgetExceeded => wrapped "MaximumNameConstraintComparisonsExceeded"

theorem rank_le_rank_worse (a b : CertificateFault) :
    a.rank ≤ (worse a b).rank ∧ b.rank ≤ (worse a b).rank := by
  unfold worse
  split <;> omega

end CertificateFault

end TlsEndpoint
