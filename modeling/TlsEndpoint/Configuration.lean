import TlsEndpoint.Error.Material
import TlsEndpoint.Path

/-! # Configurations

A configuration names the protocol to negotiate. Any name can be configured; which versions it
enables, if any, depends on its letters but not on their case. -/
namespace TlsEndpoint

inductive Version where
  | tls13
  | tls12
  deriving DecidableEq, Repr

def Version.name : Version → String
  | .tls13 => "TLSv1_3"
  | .tls12 => "TLSv1_2"

/-- The versions enabled where nothing restricts them, preferred one first. -/
def Version.defaults : List Version := [.tls13, .tls12]

structure Protocol where
  name : String
  deriving DecidableEq, Repr

namespace Protocol

def default : Protocol := ⟨"TLS"⟩

def sameLetters (a b : String) : Bool := a.toList.map Char.toUpper == b.toList.map Char.toUpper

def recognised : List (String × List Version) := [
  ("TLS", Version.defaults),
  ("SSL", Version.defaults),
  ("Default", Version.defaults),
  ("TLSv1.2", [.tls12]),
  ("TLS1.2", [.tls12]),
  ("TLSv1.3", [.tls13]),
  ("TLS1.3", [.tls13])]

def versions (p : Protocol) : Except EngineError (List Version) :=
  match recognised.find? fun e => sameLetters e.1 p.name with
  | some e => .ok e.2
  | none => .error (.unsupportedProtocol p.name)

/-- The name in a field: a width is not observed. -/
def display (p : Protocol) : String := p.name

def structural (p : Protocol) : String := "TlsProtocol(" ++ Text.quoted p.name ++ ")"

end Protocol

/-! ## Places of material

A configuration says where identity and trust material come from. Two configurations are equal when
they refer to the same material; absent material equals only absent material, and the protocol plays
no part. -/

/-- `ι` and `τ` are the places that identities and trust anchors come from. -/
structure Configuration (ι τ : Type) where
  protocol : Protocol
  identity : Option ι
  trust : Option τ
  deriving DecidableEq, Repr

instance optionEquivBEq {α : Type} [BEq α] [EquivBEq α] : EquivBEq (Option α) where
  symm {x y} h := by
    cases x with
    | none => cases y with
      | none => exact h
      | some b => cases h
    | some a => cases y with
      | none => cases h
      | some b => exact PartialEquivBEq.symm (α := α) h
  trans {x y z} h h' := by
    cases y with
    | none => cases x with
      | none => exact h'
      | some a => cases h
    | some b => cases x with
      | none => cases h
      | some a => cases z with
        | none => cases h'
        | some c => exact PartialEquivBEq.trans (α := α) h h'

theorem equivBEq_of_parts {α β γ : Type} [BEq α] [BEq β] [BEq γ] [EquivBEq β] [EquivBEq γ]
    (f : α → β) (g : α → γ) (parts : ∀ a b, (a == b) = (f a == f b && g a == g b)) :
    EquivBEq α where
  rfl {a} := by
    rw [parts a a, BEq.rfl, BEq.rfl]
    rfl
  symm h := by
    rw [parts, Bool.and_eq_true] at h ⊢
    exact h.imp PartialEquivBEq.symm PartialEquivBEq.symm
  trans h h' := by
    rw [parts, Bool.and_eq_true] at h h' ⊢
    exact ⟨PartialEquivBEq.trans h.1 h'.1, PartialEquivBEq.trans h.2 h'.2⟩

structure KeyStore where
  key : Path
  certificates : Path
  deriving Repr

structure TrustStore where
  anchors : Path
  deriving Repr

namespace KeyStore

def same (a b : KeyStore) : Bool := a.key == b.key && a.certificates == b.certificates

instance : BEq KeyStore := ⟨same⟩

instance : EquivBEq KeyStore := equivBEq_of_parts key certificates fun _ _ => rfl

def hashInput (s : KeyStore) : Bytes := s.key.hashInput ++ s.certificates.hashInput

def structural (s : KeyStore) : String :=
  "KeyStoreFiles \x7b key_path: " ++ s.key.structural ++ ", cert_path: "
    ++ s.certificates.structural ++ " \x7d"

end KeyStore

namespace TrustStore

def same (a b : TrustStore) : Bool := a.anchors == b.anchors

instance : BEq TrustStore := ⟨same⟩

instance : EquivBEq TrustStore where
  rfl {a} := (BEq.rfl : (a.anchors == a.anchors) = true)
  symm h := PartialEquivBEq.symm (α := Path) h
  trans h h' := PartialEquivBEq.trans (α := Path) h h'

def hashInput (s : TrustStore) : Bytes := s.anchors.hashInput

def structural (s : TrustStore) : String :=
  "TrustStoreFiles \x7b cacert_path: " ++ s.anchors.structural ++ " \x7d"

end TrustStore

abbrev FileConfiguration := Configuration KeyStore TrustStore

namespace Configuration

def ofParts {ι τ : Type} (protocol : Option Protocol) (identity : Option ι) (trust : Option τ) :
    Configuration ι τ :=
  ⟨protocol.getD Protocol.default, identity, trust⟩

/-- Whether there is another configuration and it refers to the same material. -/
def sameMaterial {ι τ : Type} [BEq ι] [BEq τ] (a : Configuration ι τ) :
    Option (Configuration ι τ) → Bool
  | none => false
  | some b => a.identity == b.identity && a.trust == b.trust

def equal {ι τ : Type} [BEq ι] [BEq τ] (a b : Configuration ι τ) : Bool := a.sameMaterial (some b)

theorem equal_self {ι τ : Type} [BEq ι] [BEq τ] [EquivBEq ι] [EquivBEq τ] (a : Configuration ι τ) :
    a.equal a = true :=
  Bool.and_eq_true_iff.mpr ⟨BEq.rfl, BEq.rfl⟩

theorem equal_comm {ι τ : Type} [BEq ι] [BEq τ] [EquivBEq ι] [EquivBEq τ]
    (a b : Configuration ι τ) : a.equal b = b.equal a := by
  have hi : (a.identity == b.identity) = (b.identity == a.identity) := BEq.comm
  have ht : (a.trust == b.trust) = (b.trust == a.trust) := BEq.comm
  show (a.identity == b.identity && a.trust == b.trust) = _
  rw [hi, ht]
  rfl

/-- Row `i`, column `j` compares the `i`-th with the `j`-th; an absent one has no row. -/
def materialMatrix {ι τ : Type} [BEq ι] [BEq τ] (cs : List (Option (Configuration ι τ))) :
    List (Option (List Bool)) :=
  cs.map fun c => c.map fun a => cs.map a.sameMaterial

end Configuration

/-- What optional material contributes to a hash: whether it is there, then its own input. -/
def optionHashInput {α : Type} (f : α → Bytes) : Option α → Bytes
  | none => Bytes.ofNatLittle 8 0
  | some a => Bytes.ofNatLittle 8 1 ++ f a

def optionStructural {α : Type} (f : α → String) : Option α → String
  | none => "None"
  | some a => "Some(" ++ f a ++ ")"

namespace FileConfiguration

def structural (c : FileConfiguration) : String :=
  "TlsConfiguration \x7b protocol: " ++ c.protocol.structural ++ ", identity: "
    ++ optionStructural KeyStore.structural c.identity ++ ", trust: "
    ++ optionStructural TrustStore.structural c.trust ++ " \x7d"

def identityHashInput (c : FileConfiguration) : Bytes :=
  optionHashInput KeyStore.hashInput c.identity

def trustHashInput (c : FileConfiguration) : Bytes :=
  optionHashInput TrustStore.hashInput c.trust

end FileConfiguration

end TlsEndpoint
