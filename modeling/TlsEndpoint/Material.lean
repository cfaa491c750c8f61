import TlsEndpoint.Provider
import TlsEndpoint.Certificate
import TlsEndpoint.Configuration
import TlsEndpoint.FileSystem

/-! # Identity and trust material

An identity is a certificate chain with the key of its first certificate. Trust anchors are loaded
all or nothing. -/
namespace TlsEndpoint

structure Identity where
  chain : List Bytes
  key : SigningKey
  deriving DecidableEq, Repr

abbrev Anchors := List TrustAnchor

/-- Whether the key belongs to the first certificate of the chain, judged by what the key shows. -/
def keysMatch (chain : List Bytes) (key : SigningKey) : Except TlsError Unit :=
  match key.shown? with
  | none => .error (.inconsistentKeys .unknown)
  | some shown =>
    match chain with
    | [] => .error .noCertificatesPresented
    | leaf :: _ =>
      match Certificate.parse .verification leaf with
      | .error f => .error (.invalidCertificate f)
      | .ok c => if c.keyInfo = shown.info then .ok () else .error (.inconsistentKeys .mismatch)

namespace Identity

/-- Loads the key and checks that it belongs to the chain. -/
def ofDer (provider : Provider) (chain : List Bytes) (key : EncodedKey) :
    Except IdentityError Identity :=
  if chain = [] then .error (.storeAccess (.custom .notFound "no certificate found for identity"))
  else
    match provider.load key with
    | .error e => .error (.unsupportedAlgorithm e)
    | .ok loaded =>
      match keysMatch chain loaded with
      | .error e => .error (.secretMismatch e)
      | .ok () => .ok ⟨chain, loaded⟩

end Identity

namespace Anchors

def readAll : List Bytes → Except CertificateFault Anchors
  | [] => .ok []
  | c :: cs =>
    match TrustAnchor.ofCertificate c with
    | .error f => .error f
    | .ok a => (readAll cs).map (a :: ·)

/-- One anchor per certificate, in order. There has to be at least one certificate. -/
def ofCertificates (certificates : List Bytes) : Except TrustError Anchors :=
  match readAll certificates with
  | .error f => .error (.unsupported (.invalidCertificate f))
  | .ok [] => .error (.storeAccess (.custom .invalidData "no trust anchors found"))
  | .ok anchors => .ok anchors

def ofReadable (certificates : List Bytes) : Anchors :=
  certificates.filterMap fun c => (TrustAnchor.ofCertificate c).toOption

end Anchors

/-! ## Loading stores from files

A key store is read in stages, and the first stage to fail decides: the key file, its first private
key, the certificate file, its certificates, and whether key and certificates belong together. A
trust store is read likewise. -/

def notFoundIn (what : String) (p : Path) : IoError :=
  .custom .notFound ("no " ++ what ++ " found in " ++ p.display)

def FileSystem.readKey (fs : FileSystem) (p : Path) : Except IoError EncodedKey :=
  match fs.read p with
  | .error e => .error e
  | .ok text =>
    match Pem.firstKey text with
    | .error e => .error e.ioError
    | .ok none => .error (notFoundIn "private key" p)
    | .ok (some key) => .ok key

/-- The certificates of a file, of which there has to be one; `what` names them in the failure. -/
def FileSystem.readCertificates (fs : FileSystem) (what : String) (p : Path) :
    Except IoError (List Bytes) :=
  match fs.read p with
  | .error e => .error e
  | .ok text =>
    match Pem.certificates text with
    | .error e => .error e.ioError
    | .ok [] => .error (notFoundIn what p)
    | .ok certificates => .ok certificates

def KeyStore.load (fs : FileSystem) (provider : Provider) (s : KeyStore) :
    Except IdentityError Identity :=
  match fs.readKey s.key with
  | .error e => .error (.storeAccess e)
  | .ok key =>
    match fs.readCertificates "certificate" s.certificates with
    | .error e => .error (.storeAccess e)
    | .ok chain => Identity.ofDer provider chain key

def TrustStore.load (fs : FileSystem) (s : TrustStore) : Except TrustError Anchors :=
  match fs.readCertificates "root certificates" s.anchors with
  | .error e => .error (.storeAccess e)
  | .ok certificates => Anchors.ofCertificates certificates

end TlsEndpoint
