import TlsEndpoint.Error.Io
import TlsEndpoint.Error.Tls

/-! # Failures of loading and assembling

An endpoint is made of an identity, trust anchors and an engine around them. Each half reports its
own kind of failure, so that a resolution knows which half to replace. What a failure wraps can be
any failure of the system, of another library or of the protocol engine, since the material may be
supplied from anywhere. A failure that wraps another ends with the text of what it wraps. -/
namespace TlsEndpoint

/-- Why there is no verifier. Nothing here checks for revocation, but a platform may have tried. -/
inductive VerifierError where
  | noAnchors
  | invalidRevocationList (fault : String)
  deriving DecidableEq, Repr

inductive EngineError where
  | unsupportedProtocol (name : String)
  | noCryptoProvider
  | rejected (cause : TlsError)
  | verifier (cause : VerifierError)
  deriving DecidableEq, Repr

@[match_pattern]
abbrev EngineError.noAnchors : EngineError := .verifier .noAnchors

inductive IdentityError where
  | missing
  | storeAccess (cause : IoError)
  | unsupportedAlgorithm (cause : TlsError)
  | secretMismatch (cause : TlsError)
  deriving DecidableEq, Repr

inductive TrustError where
  | missing
  | storeAccess (cause : IoError)
  | unsupported (cause : TlsError)
  | engine (cause : EngineError)
  deriving DecidableEq, Repr

inductive MaterialError where
  | identity (cause : IdentityError)
  | trust (cause : TrustError)
  deriving DecidableEq, Repr

def VerifierError.message : VerifierError → String
  | .noAnchors => "no root trust anchors were provided"
  | .invalidRevocationList fault => "provided CRL could not be parsed: " ++ fault

def EngineError.message : EngineError → String
  | .unsupportedProtocol name => "unsupported TLS protocol " ++ Text.quoted name
  | .noCryptoProvider => "no cryptographic provider is available"
  | .rejected e => e.message
  | .verifier e => e.message

def IdentityError.message : IdentityError → String
  | .missing => "no identity material is configured"
  | .storeAccess e => e.message
  | .unsupportedAlgorithm e => "unsupported private key: " ++ e.message
  | .secretMismatch e => "private key does not match certificate: " ++ e.message

def TrustError.message : TrustError → String
  | .missing => "no trust material is configured"
  | .storeAccess e => e.message
  | .unsupported e => "unsupported trust anchor: " ++ e.message
  | .engine e => e.message

def MaterialError.message : MaterialError → String
  | .identity e => "identity material: " ++ e.message
  | .trust e => "trust material: " ++ e.message

inductive Fault where
  | foreign (e : ForeignError)
  | io (e : IoError)
  | tls (e : TlsError)
  | verifier (e : VerifierError)
  | engine (e : EngineError)
  | identity (e : IdentityError)
  | trust (e : TrustError)
  | material (e : MaterialError)
  deriving DecidableEq, Repr

namespace Fault

def message : Fault → String
  | .foreign e => e.message
  | .io e => e.message
  | .tls e => e.message
  | .verifier e => e.message
  | .engine e => e.message
  | .identity e => e.message
  | .trust e => e.message
  | .material e => e.message

/-- The failure that this one wraps. Those of the protocol engine and the verifier report none, also
where they carry another. -/
def source? : Fault → Option Fault
  | .foreign e => e.source?.map .foreign
  | .io e => e.source?.map .foreign
  | .tls _ | .verifier _ => none
  | .engine (.unsupportedProtocol _) | .engine .noCryptoProvider => none
  | .engine (.rejected e) => some (.tls e)
  | .engine (.verifier e) => some (.verifier e)
  | .identity .missing => none
  | .identity (.storeAccess e) => some (.io e)
  | .identity (.unsupportedAlgorithm e) => some (.tls e)
  | .identity (.secretMismatch e) => some (.tls e)
  | .trust .missing => none
  | .trust (.storeAccess e) => some (.io e)
  | .trust (.unsupported e) => some (.tls e)
  | .trust (.engine e) => some (.engine e)
  | .material (.identity e) => some (.identity e)
  | .material (.trust e) => some (.trust e)

theorem sizeOf_source {f g : Fault} (h : f.source? = some g) : sizeOf g < sizeOf f := by
  cases f with
  | foreign e =>
    obtain ⟨below, source, rfl⟩ := Option.map_eq_some_iff.mp h
    simpa using ForeignError.sizeOf_source source
  | io e =>
    obtain ⟨below, source, rfl⟩ := Option.map_eq_some_iff.mp h
    simpa using IoError.sizeOf_source source
  | tls | verifier => cases h
  | engine e | identity e | trust e | material e => cases e <;> cases h <;> simp

/-- All that is wrapped, from the outside in. -/
def sources (f : Fault) : List Fault :=
  match _h : f.source? with
  | none => []
  | some g => g :: g.sources
termination_by sizeOf f
decreasing_by exact sizeOf_source (by assumption)

/-- What lies at the bottom: the last of the wrapped failures, or the failure itself. -/
def root (f : Fault) : Fault := f.sources.getLastD f

end Fault

def VerifierError.structural : VerifierError → String
  | .noAnchors => "NoRootAnchors"
  | .invalidRevocationList fault => "InvalidCrl(" ++ fault ++ ")"

namespace EngineError

def name : EngineError → String
  | .unsupportedProtocol _ => "UnsupportedProtocol"
  | .noCryptoProvider => "NoCryptoProvider"
  | .rejected _ => "Rejected"
  | .verifier _ => "Verifier"

def structural : EngineError → String
  | .unsupportedProtocol name => "UnsupportedProtocol(" ++ Text.quoted name ++ ")"
  | .noCryptoProvider => "NoCryptoProvider"
  | .rejected e => "Rejected(" ++ e.structural ++ ")"
  | .verifier e => "Verifier(" ++ e.structural ++ ")"

end EngineError

namespace IdentityError

def name : IdentityError → String
  | .missing => "Missing"
  | .storeAccess e => "StoreAccess/" ++ e.kind.name
  | .unsupportedAlgorithm _ => "UnsupportedAlgorithm"
  | .secretMismatch _ => "SecretMismatch"

def structural : IdentityError → String
  | .missing => "Missing"
  | .storeAccess e => "StoreAccess(" ++ e.structural ++ ")"
  | .unsupportedAlgorithm e => "UnsupportedAlgorithm(" ++ e.structural ++ ")"
  | .secretMismatch e => "SecretMismatch(" ++ e.structural ++ ")"

end IdentityError

namespace TrustError

def name : TrustError → String
  | .missing => "Missing"
  | .storeAccess e => "StoreAccess/" ++ e.kind.name
  | .unsupported _ => "Unsupported"
  | .engine e => "Engine/" ++ e.name

def structural : TrustError → String
  | .missing => "Missing"
  | .storeAccess e => "StoreAccess(" ++ e.structural ++ ")"
  | .unsupported e => "Unsupported(" ++ e.structural ++ ")"
  | .engine e => "Engine(" ++ e.structural ++ ")"

end TrustError

namespace MaterialError

def name : MaterialError → String
  | .identity e => "Identity/" ++ e.name
  | .trust e => "Trust/" ++ e.name

def structural : MaterialError → String
  | .identity e => "Identity(" ++ e.structural ++ ")"
  | .trust e => "Trust(" ++ e.structural ++ ")"

end MaterialError

end TlsEndpoint
