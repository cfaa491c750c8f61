import TlsEndpoint.Provider
import TlsEndpoint.Certificate

/-! # Signatures on certificates

An algorithm is found by the identifier next to the signature; the key it is checked with has to
be of the algorithm's kind. -/
namespace TlsEndpoint

inductive SignatureMethod where
  | ecdsa (name : CurveName) (digest : Sha2.Variant)
  | ed25519
  | rsa (digest : Sha2.Variant)
  | rsaPss (digest : Sha2.Variant)

structure SignatureAlgorithm where
  id : Bytes
  keyId : Bytes
  method : SignatureMethod

namespace Signature

def object (id : Bytes) : Bytes := Der.write Der.objectTag id

def ecdsaId (last : UInt8) : Bytes := object [0x2a, 0x86, 0x48, 0xce, 0x3d, 0x04, 0x03, last]

def rsaId (last : UInt8) : Bytes :=
  object [0x2a, 0x86, 0x48, 0x86, 0xf7, 0x0d, 0x01, 0x01, last]

def ecKeyId (name : CurveName) : Bytes := object ObjectId.ecPublicKey ++ object name.identifier

def rsaKeyId : Bytes := object ObjectId.rsaEncryption ++ Der.write Der.nullTag []

def digestId (last : UInt8) : Bytes :=
  Der.write Der.sequenceTag
    (object [0x60, 0x86, 0x48, 0x01, 0x65, 0x03, 0x04, 0x02, last] ++ Der.write Der.nullTag [])

def pssId (last : UInt8) (digest : Sha2.Variant) : Bytes :=
  let maskId := Der.write Der.sequenceTag (rsaId 0x08 ++ digestId last)
  rsaId 0x0a ++ Der.write Der.sequenceTag
    (Der.write (Der.contextTag 0) (digestId last) ++ Der.write (Der.contextTag 1) maskId
      ++ Der.write (Der.contextTag 2) (Der.writeNatural digest.size))

def ecdsa (name : CurveName) (last : UInt8) (digest : Sha2.Variant) : SignatureAlgorithm :=
  ⟨ecdsaId last, ecKeyId name, .ecdsa name digest⟩

def ecdsa256 (name : CurveName) : SignatureAlgorithm := ecdsa name 2 Sha2.sha256
def ecdsa384 (name : CurveName) : SignatureAlgorithm := ecdsa name 3 Sha2.sha384
def ecdsa512 (name : CurveName) : SignatureAlgorithm := ecdsa name 4 Sha2.sha512

def ed25519 : SignatureAlgorithm := ⟨object ObjectId.ed25519, object ObjectId.ed25519, .ed25519⟩

def pss (last : UInt8) (digest : Sha2.Variant) : SignatureAlgorithm :=
  ⟨pssId last digest, rsaKeyId, .rsaPss digest⟩

def rsa (last : UInt8) (digest : Sha2.Variant) : SignatureAlgorithm :=
  ⟨rsaId last ++ Der.write Der.nullTag [], rsaKeyId, .rsa digest⟩

/-- The same without parameters, which some issuers leave out. -/
def rsaBare (last : UInt8) (digest : Sha2.Variant) : SignatureAlgorithm :=
  ⟨rsaId last, rsaKeyId, .rsa digest⟩

def all : List SignatureAlgorithm :=
  (CurveName.all.flatMap fun name => [ecdsa256 name, ecdsa384 name, ecdsa512 name])
  ++ [ed25519, pss 1 Sha2.sha256, pss 2 Sha2.sha384, pss 3 Sha2.sha512,
    rsa 0x0b Sha2.sha256, rsa 0x0c Sha2.sha384, rsa 0x0d Sha2.sha512,
    rsaBare 0x0b Sha2.sha256, rsaBare 0x0c Sha2.sha384, rsaBare 0x0d Sha2.sha512]

def twoNaturals? (b : Bytes) : Option (Nat × Nat) := do
  let content ← (EncodedKey.expect Der.sequenceTag b).bind EncodedKey.only
  let (r, rest) ← EncodedKey.expectNatural content
  let (s, rest) ← EncodedKey.expectNatural rest
  if rest = [] then some (r, s) else none

def check (m : SignatureMethod) (key message signature : Bytes) : Bool :=
  match m with
  | .ecdsa name digest =>
    match name.curve.decodePoint? key, twoNaturals? signature with
    | some point, some (r, s) => name.curve.verify point (digest.digest message) r s
    | _, _ => false
  | .ed25519 => Edwards.verify key message signature
  | .rsa digest =>
    match twoNaturals? key with
    | some (n, e) => Rsa.verify n e digest message signature
    | none => false
  | .rsaPss digest =>
    match twoNaturals? key with
    | some (n, e) => Rsa.verifySalted n e digest message signature
    | none => false

def keyParts (keyInfo : Bytes) : Except CertificateFault (Bytes × Bytes) := do
  let (algorithm, rest) ← Certificate.expect Der.sequenceTag keyInfo
  let bits ← Certificate.expectOnly Der.bitStringTag rest
  let key ← Certificate.bitString bits
  .ok (algorithm, key)

/-- Checks with the first of the algorithms whose keys are of the kind of this one. Without one
`unsupported` is reported, or that the key is of the wrong kind. -/
def checkWith (algorithms : List SignatureAlgorithm) (unsupported : CertificateFault)
    (keyInfo : Bytes) (isRight : SignatureAlgorithm → Bytes → Bool) :
    Except CertificateFault Unit :=
  match algorithms with
  | [] => .error unsupported
  | a :: rest =>
    match keyParts keyInfo with
    | .error f => .error f
    | .ok (algorithm, key) =>
      if a.keyId ≠ algorithm then
        checkWith rest (.unsupportedSignatureForKey a.id algorithm) keyInfo isRight
      else if isRight a key then .ok ()
      else .error .badSignature

def verify (c : Certificate) (issuerKeyInfo : Bytes) : Except CertificateFault Unit :=
  checkWith (all.filter fun a => a.id == c.algorithm)
    (.unsupportedSignature c.algorithm (all.map SignatureAlgorithm.id))
    issuerKeyInfo fun a key => check a.method key c.signed c.signature

/-- What a key signs a handshake with. The older version does not fix the curve. -/
def schemesOf (version : Version) (key : PublicKey) : List SignatureAlgorithm :=
  let schemes :=
    match key with
    | .ec .p256 _ => [ecdsa256 .p256, ecdsa256 .p384, ecdsa256 .p521]
    | .ec .p384 _ => [ecdsa384 .p384, ecdsa384 .p256, ecdsa384 .p521]
    | .ec .p521 _ => [ecdsa512 .p521, ecdsa512 .p384, ecdsa512 .p256]
    | .ed25519 _ => [ed25519]
    | .rsa .. => [pss 3 Sha2.sha512]
  if version = .tls13 then schemes.take 1 else schemes

def isSameKey (key : PublicKey) (octets : Bytes) : Bool :=
  match key with
  | .ec name point => name.curve.decodePoint? octets == some point
  | _ => key.octets == octets

/-- Whoever holds the key of a certificate can sign a handshake, and nobody else can. -/
def provesPossession (version : Version) (key : SigningKey) (leafKeyInfo : Bytes) :
    Except CertificateFault Unit :=
  checkWith (schemesOf version key.publicHalf) (.unsupportedSignature [] []) leafKeyInfo
    fun _ octets => isSameKey key.publicHalf octets

end Signature

end TlsEndpoint
