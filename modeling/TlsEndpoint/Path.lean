import TlsEndpoint.Text

/-! # Paths

A path is kept as it was spelled and compared by its components: repeated separators, a trailing
one, and a point that is not in first place make no difference. The parent sign is never resolved. -/
namespace TlsEndpoint

structure Path where
  octets : Bytes
  deriving Repr

inductive Component where
  | root
  | here
  | up
  | name (octets : Bytes)
  deriving DecidableEq, Repr

namespace Path

def separator : UInt8 := 47
def point : UInt8 := 46

def segments : Bytes → List Bytes
  | [] => [[]]
  | b :: r =>
    if b = separator then [] :: segments r
    else match segments r with
      | [] => [[b]]
      | s :: ss => (b :: s) :: ss

def ofText (s : String) : Path := ⟨Bytes.ofText s⟩

def isAbsolute (p : Path) : Bool := p.octets.head? == some separator

/-- What one segment stands for. Empty ones and points stand for nothing. -/
def component? (s : Bytes) : Option Component :=
  if s = [] ∨ s = [point] then none
  else if s = [point, point] then some .up
  else some (.name s)

def components (p : Path) : List Component :=
  let parts := segments p.octets
  let lead :=
    if p.isAbsolute then [.root]
    else if parts.head? = some [point] then [.here]
    else []
  lead ++ parts.filterMap component?

def same (p q : Path) : Bool := p.components == q.components

instance : BEq Path := ⟨same⟩

theorem beq_iff (p q : Path) : (p == q) = true ↔ p.components = q.components := by
  show same p q = true ↔ _
  simp [same]

instance : EquivBEq Path where
  rfl := (beq_iff _ _).2 rfl
  symm h := (beq_iff _ _).2 ((beq_iff _ _).1 h).symm
  trans h h' := (beq_iff _ _).2 (((beq_iff _ _).1 h).trans ((beq_iff _ _).1 h'))

/-- A collected name, unless it is empty or a point behind a separator. -/
def kept (behind : Bool) (name : Bytes) : List Bytes :=
  if name = [] ∨ (behind = true ∧ name = [point]) then [] else [name]

/-- The names in the rest of a path, with what has been collected of the first one and whether it
stands behind a separator. -/
def hashedFrom (behind : Bool) (name : Bytes) : Bytes → List Bytes
  | [] => kept behind name
  | b :: r =>
    if b = separator then kept behind name ++ hashedFrom true [] r
    else hashedFrom behind (name ++ [b]) r

/-- What a hash takes in, read off the octets in one go. Separators only part the names, so that
the root contributes nothing. -/
def hashedNames (p : Path) : List Bytes := hashedFrom false [] p.octets

/-- Lengths of the hashed parts, folded into 64 bits so that different splits of one text differ. -/
def lengthCode (parts : List Bytes) : BitVec 64 :=
  parts.foldl (fun bits s => (bits + BitVec.ofNat 64 s.length).rotateRight 2) 0

def hashInput (p : Path) : Bytes :=
  p.hashedNames.flatten ++ Bytes.ofNatLittle 8 (lengthCode p.hashedNames).toNat

def display (p : Path) : String := Text.ofUtf8Lossy p.octets

def structural (p : Path) : String := Text.quotedBytes p.octets

end Path

end TlsEndpoint
