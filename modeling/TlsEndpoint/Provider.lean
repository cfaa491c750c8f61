import TlsEndpoint.Key
import TlsEndpoint.Configuration

/-! # Cryptographic providers

A provider is the set of algorithms an engine is built with: cipher suites, key exchange groups, and
a way to load private keys.

Suites and groups over finite fields are out of scope, so any group here fits any suite. A provider
that mixes them can have a suite that none of its groups fits, and an engine refuses that too. -/
namespace TlsEndpoint

/-- Which keys a suite works with. Suites of the newer version leave that to the certificate. -/
inductive SuiteKeys where
  | any
  | ellipticCurve
  | rsa
  deriving DecidableEq, Repr

structure CipherSuite where
  name : String
  version : Version
  keys : SuiteKeys
  deriving DecidableEq, Repr

structure ExchangeGroup where
  name : String
  isClassic : Bool
  deriving DecidableEq, Repr

/-- A loaded private key, known by its public half. A hidden key can be used but does not show it. -/
structure SigningKey where
  publicHalf : PublicKey
  isHidden : Bool
  deriving DecidableEq, Repr

def SigningKey.algorithm (k : SigningKey) : KeyAlgorithm := k.publicHalf.algorithm

def SigningKey.shown? (k : SigningKey) : Option PublicKey :=
  if k.isHidden then none else some k.publicHalf

structure Provider where
  suites : List CipherSuite
  groups : List ExchangeGroup
  load : EncodedKey → Except TlsError SigningKey

def CipherSuite.defaults : List CipherSuite := [
  ⟨"TLS13_AES_256_GCM_SHA384", .tls13, .any⟩,
  ⟨"TLS13_AES_128_GCM_SHA256", .tls13, .any⟩,
  ⟨"TLS13_CHACHA20_POLY1305_SHA256", .tls13, .any⟩,
  ⟨"TLS_ECDHE_ECDSA_WITH_AES_256_GCM_SHA384", .tls12, .ellipticCurve⟩,
  ⟨"TLS_ECDHE_ECDSA_WITH_AES_128_GCM_SHA256", .tls12, .ellipticCurve⟩,
  ⟨"TLS_ECDHE_ECDSA_WITH_CHACHA20_POLY1305_SHA256", .tls12, .ellipticCurve⟩,
  ⟨"TLS_ECDHE_RSA_WITH_AES_256_GCM_SHA384", .tls12, .rsa⟩,
  ⟨"TLS_ECDHE_RSA_WITH_AES_128_GCM_SHA256", .tls12, .rsa⟩,
  ⟨"TLS_ECDHE_RSA_WITH_CHACHA20_POLY1305_SHA256", .tls12, .rsa⟩]

def ExchangeGroup.defaults : List ExchangeGroup := [
  ⟨"X25519MLKEM768", false⟩,
  ⟨"X25519", true⟩,
  ⟨"secp256r1", true⟩,
  ⟨"secp384r1", true⟩]

inductive KeyPolicy where
  | load
  | refuse
  | hide
  deriving DecidableEq, Repr

def KeyPolicy.apply (policy : KeyPolicy) (k : EncodedKey) : Except TlsError SigningKey :=
  match policy with
  | .refuse => .error (.general "keys are refused")
  | .load | .hide =>
    match k.publicKey? with
    | some p => .ok ⟨p, policy == .hide⟩
    | none => .error (.general "failed to parse private key as RSA, ECDSA, or EdDSA")

namespace Provider

def default : Provider := ⟨CipherSuite.defaults, ExchangeGroup.defaults, KeyPolicy.load.apply⟩

/-- The default algorithms cut down to those named; without a list all are kept. -/
def restricted (suites groups : Option (List String)) (policy : KeyPolicy) : Provider :=
  let kept (names : Option (List String)) (name : String) : Bool :=
    match names with
    | none => true
    | some ns => ns.contains name
  ⟨CipherSuite.defaults.filter fun s => kept suites s.name,
    ExchangeGroup.defaults.filter fun g => kept groups g.name,
    policy.apply⟩

def hasSuiteOf (p : Provider) (versions : List Version) : Bool :=
  p.suites.any fun s => versions.contains s.version

end Provider

end TlsEndpoint
