import TlsEndpoint.Encoding.Der
import TlsEndpoint.Error.Tls

/-! # Certificates

Reading a certificate takes it apart without judging it: names, validity, key and extensions are
kept as octets, and only what verification could never make sense of is refused. A trust anchor
keeps the subject, the key and the name constraints of its certificate. -/
namespace TlsEndpoint

/-- Extensions that verification knows. Each is the content of its sequence; key usage is raw. -/
structure Extensions where
  keyUsage : Option Bytes
  alternativeNames : Option Bytes
  basicConstraints : Option Bytes
  nameConstraints : Option Bytes
  revocationPoints : Option Bytes
  extendedKeyUsage : Option Bytes
  deriving DecidableEq, Repr

structure Certificate where
  signed : Bytes
  algorithm : Bytes
  signature : Bytes
  issuer : Bytes
  validity : Bytes
  subject : Bytes
  keyInfo : Bytes
  extensions : Extensions
  deriving DecidableEq, Repr

structure TrustAnchor where
  subject : Bytes
  keyInfo : Bytes
  nameConstraints : Option Bytes
  deriving DecidableEq, Repr

/-- What a certificate is read for. A trust anchor is trusted whatever its extensions demand. -/
inductive CertificateUse where
  | verification
  | anchor
  deriving DecidableEq, Repr

namespace Extensions

def none : Extensions := ⟨.none, .none, .none, .none, .none, .none⟩

def family : Bytes := [0x55, 0x1d]

/-- The place of a known extension, to be filled once. -/
inductive Slot where
  | keyUsage
  | alternativeNames
  | basicConstraints
  | nameConstraints
  | revocationPoints
  | extendedKeyUsage
  deriving DecidableEq, Repr

def Slot.ofId? (id : Bytes) : Option Slot :=
  if id = family ++ [15] then some .keyUsage
  else if id = family ++ [17] then some .alternativeNames
  else if id = family ++ [19] then some .basicConstraints
  else if id = family ++ [30] then some .nameConstraints
  else if id = family ++ [31] then some .revocationPoints
  else if id = family ++ [37] then some .extendedKeyUsage
  else .none

def get (e : Extensions) : Slot → Option Bytes
  | .keyUsage => e.keyUsage
  | .alternativeNames => e.alternativeNames
  | .basicConstraints => e.basicConstraints
  | .nameConstraints => e.nameConstraints
  | .revocationPoints => e.revocationPoints
  | .extendedKeyUsage => e.extendedKeyUsage

def set (e : Extensions) (value : Bytes) : Slot → Extensions
  | .keyUsage => { e with keyUsage := some value }
  | .alternativeNames => { e with alternativeNames := some value }
  | .basicConstraints => { e with basicConstraints := some value }
  | .nameConstraints => { e with nameConstraints := some value }
  | .revocationPoints => { e with revocationPoints := some value }
  | .extendedKeyUsage => { e with extendedKeyUsage := some value }

end Extensions

namespace Certificate

def maxLength : Nat := 65535

def expect (tag : UInt8) (b : Bytes) : Except CertificateFault (Bytes × Bytes) :=
  match Der.expect maxLength tag b with
  | some r => .ok r
  | none => .error .badEncoding

def refuseRest (rest : Bytes) : Except CertificateFault Unit :=
  if rest = [] then .ok () else .error .badEncoding

def expectOnly (tag : UInt8) (b : Bytes) : Except CertificateFault Bytes := do
  let (content, rest) ← expect tag b
  refuseRest rest
  .ok content

def bitString (content : Bytes) : Except CertificateFault Bytes :=
  match content with
  | 0 :: r => .ok r
  | _ => .error .badEncoding

/-- Only the third version is read; it is written as two. -/
def readVersion (b : Bytes) : Except CertificateFault Bytes :=
  match Der.expect maxLength (Der.contextTag 0) b with
  | none => .error .unsupportedVersion
  | some (wrapper, rest) => do
    let (content, extra) ← expect Der.integerTag wrapper
    match Der.natural? content with
    | none => .error .badEncoding
    | some n =>
      if 256 ≤ n then .error .badEncoding
      else if n = 2 ∧ extra = [] then .ok rest
      else .error .unsupportedVersion

structure Extension where
  id : Bytes
  critical : Bool
  value : Bytes
  deriving DecidableEq, Repr

def readExtension (b : Bytes) : Except CertificateFault (Extension × Bytes) := do
  let (id, rest) ← expect Der.objectTag b
  let (critical, rest) ←
    if rest.head? = some Der.booleanTag then do
      let (flag, rest) ← expect Der.booleanTag rest
      if flag = [0xff] then .ok (true, rest)
      else if flag = [0x00] then .ok (false, rest)
      else .error .badEncoding
    else .ok (false, rest)
  let (value, rest) ← expect Der.octetStringTag rest
  .ok (⟨id, critical, value⟩, rest)

/-- Files one extension. A known one may come once; an unknown one must not be critical. -/
def addExtension (use : CertificateUse) (e : Extensions) (x : Extension) :
    Except CertificateFault Extensions :=
  match Extensions.Slot.ofId? x.id with
  | none =>
    if x.critical && use == .verification then .error .unknownCriticalExtension else .ok e
  | some slot =>
    if (e.get slot).isSome then .error .badExtension
    else if slot = .keyUsage then .ok (e.set x.value slot)
    else (expectOnly Der.sequenceTag x.value).map fun content => e.set content slot

def fileExtension (use : CertificateUse) (e : Extensions) (b : Bytes) :
    Except CertificateFault Extensions := do
  let (x, rest) ← readExtension b
  let e ← addExtension use e x
  refuseRest rest
  .ok e

def readExtensions (use : CertificateUse) (e : Extensions) (b : Bytes) :
    Except CertificateFault Extensions :=
  if b = [] then .ok e
  else
    match _h : Der.read maxLength b with
    | none => .error .badEncoding
    | some (v, rest) =>
      if v.tag ≠ Der.sequenceTag then .error .badEncoding
      else
        match fileExtension use e v.content with
        | .error f => .error f
        | .ok e => readExtensions use e rest
termination_by b.length
decreasing_by exact Der.length_read (by assumption)

def parse (use : CertificateUse) (der : Bytes) : Except CertificateFault Certificate := do
  let outer ← expectOnly Der.sequenceTag der
  let (tbs, afterTbs) ← expect Der.sequenceTag outer
  let signed := outer.take (outer.length - afterTbs.length)
  let (algorithm, rest) ← expect Der.sequenceTag afterTbs
  let signature ← (expectOnly Der.bitStringTag rest) >>= bitString
  let rest ← readVersion tbs
  let (_, rest) ← expect Der.integerTag rest
  let (inner, rest) ← expect Der.sequenceTag rest
  if inner ≠ algorithm then .error .algorithmMismatch
  else do
    let (issuer, rest) ← expect Der.sequenceTag rest
    let (validity, rest) ← expect Der.sequenceTag rest
    let (subject, rest) ← expect Der.sequenceTag rest
    let (keyInfo, rest) ← expect Der.sequenceTag rest
    let extensions ←
      if rest = [] then .ok Extensions.none
      else do
        let (wrapper, rest) ← expect (Der.contextTag 3) rest
        let (content, extra) ← expect Der.sequenceTag wrapper
        let extensions ← readExtensions use Extensions.none content
        refuseRest extra
        refuseRest rest
        .ok extensions
    .ok ⟨signed, algorithm, signature, issuer, validity, subject, keyInfo, extensions⟩

/-- The anchor in a certificate of the first version, which has neither version nor extensions. -/
def parseFirstVersion (der : Bytes) : Except CertificateFault TrustAnchor := do
  let outer ← expectOnly Der.sequenceTag der
  let (tbs, rest) ← expect Der.sequenceTag outer
  let (_, rest) ← expect Der.sequenceTag rest
  let _ ← expectOnly Der.bitStringTag rest
  let (_, rest) ← expect Der.integerTag tbs
  let (_, rest) ← expect Der.sequenceTag rest
  let (_, rest) ← expect Der.sequenceTag rest
  let (_, rest) ← expect Der.sequenceTag rest
  let (subject, rest) ← expect Der.sequenceTag rest
  let keyInfo ← expectOnly Der.sequenceTag rest
  .ok ⟨subject, keyInfo, none⟩

end Certificate

namespace TrustAnchor

def ofParsed (c : Certificate) : TrustAnchor :=
  ⟨c.subject, c.keyInfo, c.extensions.nameConstraints⟩

/-- The anchor in a certificate of the third or, failing that, of the first version. -/
def ofCertificate (der : Bytes) : Except CertificateFault TrustAnchor :=
  match Certificate.parse .anchor der with
  | .ok c => .ok (ofParsed c)
  | .error .unsupportedVersion => Certificate.parseFirstVersion der
  | .error f => .error f

end TrustAnchor

end TlsEndpoint
