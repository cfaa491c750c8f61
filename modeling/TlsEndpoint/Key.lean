import TlsEndpoint.Crypto.Curve
import TlsEndpoint.Crypto.Edwards
import TlsEndpoint.Crypto.Rsa
import TlsEndpoint.Encoding.Der
import TlsEndpoint.Encoding.Pem

/-! # Keys

A public key has one encoding, which certificates and keys are compared by: points with both
coordinates, and an RSA key with empty parameters.

A private key is used through its public half. Reading one yields that half, or nothing if the
encoding, the algorithm or the numbers are not acceptable. Whatever follows the outer structure is
not looked at. -/
namespace TlsEndpoint

inductive CurveName where
  | p256
  | p384
  | p521
  deriving DecidableEq, Repr

namespace CurveName

/-- In the order in which a key is tried against them. -/
def all : List CurveName := [.p256, .p384, .p521]

def curve : CurveName → Curve
  | .p256 => Curve.p256
  | .p384 => Curve.p384
  | .p521 => Curve.p521

def identifier : CurveName → Bytes
  | .p256 => [0x2a, 0x86, 0x48, 0xce, 0x3d, 0x03, 0x01, 0x07]
  | .p384 => [0x2b, 0x81, 0x04, 0x00, 0x22]
  | .p521 => [0x2b, 0x81, 0x04, 0x00, 0x23]

end CurveName

inductive KeyAlgorithm where
  | ecdsa
  | rsa
  | ed25519
  deriving DecidableEq, Repr

def KeyAlgorithm.name : KeyAlgorithm → String
  | .ecdsa => "ECDSA"
  | .rsa => "RSA"
  | .ed25519 => "ED25519"

namespace ObjectId

def ecPublicKey : Bytes := [0x2a, 0x86, 0x48, 0xce, 0x3d, 0x02, 0x01]
def primeField : Bytes := [0x2a, 0x86, 0x48, 0xce, 0x3d, 0x01, 0x01]
def rsaEncryption : Bytes := [0x2a, 0x86, 0x48, 0x86, 0xf7, 0x0d, 0x01, 0x01, 0x01]
def ed25519 : Bytes := [0x2b, 0x65, 0x70]

end ObjectId

inductive PublicKey where
  | ec (name : CurveName) (point : CurvePoint)
  | rsa (modulus exponent : Nat)
  | ed25519 (key : Bytes)
  deriving DecidableEq, Repr

namespace PublicKey

def algorithm : PublicKey → KeyAlgorithm
  | .ec .. => .ecdsa
  | .rsa .. => .rsa
  | .ed25519 _ => .ed25519

def algorithmId : PublicKey → Bytes
  | .ec name _ =>
    Der.write Der.objectTag ObjectId.ecPublicKey ++ Der.write Der.objectTag name.identifier
  | .rsa .. => Der.write Der.objectTag ObjectId.rsaEncryption ++ Der.write Der.nullTag []
  | .ed25519 _ => Der.write Der.objectTag ObjectId.ed25519

def octets : PublicKey → Bytes
  | .ec name point => name.curve.encodePoint point
  | .rsa n e => Der.write Der.sequenceTag (Der.writeNatural n ++ Der.writeNatural e)
  | .ed25519 key => key

def info (k : PublicKey) : Bytes :=
  Der.write Der.sequenceTag k.algorithmId ++ Der.write Der.bitStringTag (0 :: k.octets)

def encoded (k : PublicKey) : Bytes := Der.write Der.sequenceTag k.info

end PublicKey

namespace EncodedKey

def anyLength : Nat := Nat.pow 2 32

def expect (tag : UInt8) (b : Bytes) : Option (Bytes × Bytes) := Der.expect anyLength tag b

def expectNatural (b : Bytes) : Option (Nat × Bytes) := do
  let (content, r) ← expect Der.integerTag b
  some (← Der.natural? content, r)

def only : Bytes × Bytes → Option Bytes
  | (content, []) => some content
  | _ => none

def tag? (b : Bytes) : Option UInt8 := b.head?

/-- Curve parameters written out: a known curve, its base point with both coordinates, and the
cofactor one. -/
def isExplicit (c : Curve) (b : Bytes) : Bool :=
  let result : Option Unit := do
    let (version, r) ← expectNatural b
    let (field, r) ← expect Der.sequenceTag r
    let (curve, r) ← expect Der.sequenceTag r
    let (base, r) ← expect Der.octetStringTag r
    let (order, r) ← expectNatural r
    let (cofactor, r) ← if r = [] then some (1, []) else expectNatural r
    let (fieldKind, prime) ← expect Der.objectTag field
    let (prime, fieldRest) ← expectNatural prime
    let (a, coefficients) ← expect Der.octetStringTag curve
    let (b, seed) ← expect Der.octetStringTag coefficients
    guard (version = 1 ∧ fieldKind = ObjectId.primeField ∧ fieldRest = [] ∧ r = [])
    guard (seed = [] ∨ (expect Der.bitStringTag seed).bind only ≠ none)
    guard (prime = c.p ∧ Bytes.toNat a = c.a ∧ Bytes.toNat b = c.b)
    guard (base = c.encodePoint c.base ∧ order = c.order ∧ cofactor = 1)
  result.isSome

def areParameters (name : CurveName) (b : Bytes) : Bool :=
  if tag? b = some Der.objectTag then
    (expect Der.objectTag b).bind only == some name.identifier
  else
    match (expect Der.sequenceTag b).bind only with
    | some content => isExplicit name.curve content
    | none => false

/-- The secret number with, optionally, the curve and the public point. What is stated has to fit
the secret number. -/
def readEc (name : CurveName) (b : Bytes) : Option PublicKey := do
  let (content, _) ← expect Der.sequenceTag b
  let (version, r) ← expectNatural content
  let (secret, r) ← expect Der.octetStringTag r
  let r ←
    if tag? r = some (Der.contextTag 0) then do
      let (parameters, r) ← expect (Der.contextTag 0) r
      guard (areParameters name parameters)
      some r
    else some r
  let k := Bytes.toNat secret
  guard (version = 1 ∧ 0 < k ∧ k < name.curve.order)
  let point ← name.curve.publicPoint? k
  if r = [] then some (.ec name point)
  else do
    let stated ← (expect (Der.contextTag 1) r).bind only
    let bits ← (expect Der.bitStringTag stated).bind only
    guard (bits.head? = some 0 ∧ name.curve.decodePoint? bits.tail = some point)
    some (.ec name point)

def readRsa (b : Bytes) : Option PublicKey := do
  let (content, _) ← expect Der.sequenceTag b
  let (version, r) ← expectNatural content
  let (n, r) ← expectNatural r
  let (e, r) ← expectNatural r
  let (d, r) ← expectNatural r
  let (p, r) ← expectNatural r
  let (q, r) ← expectNatural r
  let (dp, r) ← expectNatural r
  let (dq, r) ← expectNatural r
  let (qi, r) ← expectNatural r
  guard (version = 0 ∧ r = [])
  guard (Rsa.PrivateNumbers.isUsable ⟨n, e, d, p, q, dp, dq, qi⟩)
  some (.rsa n e)

structure Envelope where
  algorithm : Bytes
  parameters : Bytes
  key : Bytes
  stated : Option Bytes

def statedTag : UInt8 := 0x81

def readEnvelope (b : Bytes) : Option Envelope := do
  let (content, _) ← expect Der.sequenceTag b
  let (version, r) ← expectNatural content
  let (algorithm, r) ← expect Der.sequenceTag r
  let (key, r) ← expect Der.octetStringTag r
  guard (version ≤ 1)
  let r ←
    if tag? r = some (Der.contextTag 0) then do
      let (_, r) ← expect (Der.contextTag 0) r
      some r
    else some r
  let stated ←
    if version = 1 ∧ tag? r = some statedTag then do
      let (bits, _) ← expect statedTag r
      some (some bits)
    else some none
  let (identifier, parameters) ← expect Der.objectTag algorithm
  some ⟨identifier, parameters, key, stated⟩

/-- The key has to be the only thing inside its octets. -/
def isWhole (b : Bytes) : Bool := ((expect Der.sequenceTag b).bind only).isSome

def Envelope.readEc (v : Envelope) (name : CurveName) : Option PublicKey := do
  guard (v.algorithm = ObjectId.ecPublicKey ∧ v.stated = none)
  guard (areParameters name v.parameters ∧ isWhole v.key)
  EncodedKey.readEc name v.key

def Envelope.readRsa (v : Envelope) : Option PublicKey := do
  guard (v.algorithm = ObjectId.rsaEncryption ∧ v.stated = none)
  guard (v.parameters = Der.write Der.nullTag [] ∧ isWhole v.key)
  EncodedKey.readRsa v.key

def Envelope.readEd25519 (v : Envelope) : Option PublicKey := do
  guard (v.algorithm = ObjectId.ed25519 ∧ v.parameters = [])
  let seed ← (expect Der.octetStringTag v.key).bind only
  guard (seed.length = 32)
  let key := Edwards.publicKey seed
  guard (v.stated = none ∨ v.stated = some (0 :: key))
  some (.ed25519 key)

def publicKey? (k : EncodedKey) : Option PublicKey :=
  match k.format with
  | .pkcs1 => readRsa k.der
  | .sec1 =>
    CurveName.all.findSome? fun name =>
      ((readEnvelope k.der).bind fun v => v.readEc name).orElse fun _ => readEc name k.der
  | .pkcs8 => do
    let v ← readEnvelope k.der
    (v.readRsa.orElse fun _ => CurveName.all.findSome? v.readEc).orElse fun _ => v.readEd25519

end EncodedKey

end TlsEndpoint
