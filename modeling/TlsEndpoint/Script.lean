import TlsEndpoint.Material
import TlsEndpoint.Resolution

/-! # Scripted collaborators

A script is a nonempty list of answers; the last one repeats. Identities and anchors are given by
files, by their octets, or by a failure. -/
namespace TlsEndpoint

structure Script (α : Type) where
  first : α
  rest : List α

namespace Script

def constant {α : Type} (a : α) : Script α := ⟨a, []⟩

def nth {α : Type} (s : Script α) (n : Nat) : α :=
  ((s.first :: s.rest)[n]?).getD (s.rest.getLastD s.first)

end Script

inductive IdentityAnswer where
  | files (store : KeyStore)
  | der (chain : List Bytes) (key : EncodedKey)
  /-- Whether the key belongs to the chain is not looked at. -/
  | unchecked (chain : List Bytes) (key : EncodedKey)
  | fail (cause : IdentityError)

def IdentityAnswer.give (fs : FileSystem) (provider : Provider) :
    IdentityAnswer → Except IdentityError Identity
  | .files store => store.load fs provider
  | .der chain key => Identity.ofDer provider chain key
  | .unchecked chain key =>
    match provider.load key with
    | .error e => .error (.unsupportedAlgorithm e)
    | .ok loaded => .ok ⟨chain, loaded⟩
  | .fail cause => .error cause

inductive TrustAnswer where
  | files (store : TrustStore)
  | certificates (all : List Bytes)
  /-- Certificates that make no anchor are passed over, and there may be none left. -/
  | unchecked (all : List Bytes)
  | fail (cause : TrustError)
  | machine

def TrustAnswer.give (fs : FileSystem) (machine : Machine) : TrustAnswer → Except TrustError Anchors
  | .files store => store.load fs
  | .certificates all => Anchors.ofCertificates all
  | .unchecked all => .ok (Anchors.ofReadable all)
  | .fail cause => .error cause
  | .machine => machine.platform.defaultTrust 0

/-- Scripted sources compare by their labels alone, and never equal files. -/
inductive IdentitySource where
  | files (store : KeyStore)
  | scripted (label : String) (answers : Script IdentityAnswer)

def IdentitySource.store? : IdentitySource → Option KeyStore
  | .files a => some a
  | .scripted .. => none

def IdentitySource.label? : IdentitySource → Option String
  | .files _ => none
  | .scripted a _ => some a

def IdentitySource.same : IdentitySource → IdentitySource → Bool
  | .files a, .files b => a == b
  | .scripted a _, .scripted b _ => a == b
  | _, _ => false

instance : BEq IdentitySource := ⟨IdentitySource.same⟩

instance : EquivBEq IdentitySource :=
  equivBEq_of_parts IdentitySource.store? IdentitySource.label? fun x y => by
    cases x with
    | files a => cases y with
      | files b => exact (Bool.and_true _).symm
      | scripted => rfl
    | scripted => cases y <;> rfl

inductive TrustSource where
  | files (store : TrustStore)
  | scripted (label : String) (answers : Script TrustAnswer)

def TrustSource.store? : TrustSource → Option TrustStore
  | .files a => some a
  | .scripted .. => none

def TrustSource.label? : TrustSource → Option String
  | .files _ => none
  | .scripted a _ => some a

def TrustSource.same : TrustSource → TrustSource → Bool
  | .files a, .files b => a == b
  | .scripted a _, .scripted b _ => a == b
  | _, _ => false

instance : BEq TrustSource := ⟨TrustSource.same⟩

instance : EquivBEq TrustSource :=
  equivBEq_of_parts TrustSource.store? TrustSource.label? fun x y => by
    cases x with
    | files a => cases y with
      | files b => exact (Bool.and_true _).symm
      | scripted => rfl
    | scripted => cases y <;> rfl

/-- What sources of either sort answer while the files stay as they are. -/
def Sources.ofFiles (fs : FileSystem) (machine : Machine) : Sources IdentitySource TrustSource where
  identity := fun source n provider =>
    match source with
    | .files store => store.load fs provider
    | .scripted _ answers => (answers.nth n).give fs provider
  trust := fun source n =>
    match source with
    | .files store => store.load fs
    | .scripted _ answers => (answers.nth n).give fs machine

def Sources.storesOf (fs : Nat → FileSystem) : Sources KeyStore TrustStore where
  identity := fun store n provider => store.load (fs n) provider
  trust := fun store n => store.load (fs n)

inductive PlatformChoice where
  | machine
  | scripted (providers : Script (Option Provider)) (trust : Script TrustAnswer)

def PlatformChoice.platform (fs : FileSystem) (machine : Machine) : PlatformChoice → Platform
  | .machine => machine.platform
  | .scripted providers trust =>
    { provider := providers.nth, defaultTrust := fun n => (trust.nth n).give fs machine }

end TlsEndpoint
