import TlsEndpoint.Certificate

/-! # Matching names

A certificate is valid for a name that one of its alternative names matches. A name constraint of an
issuer has to be met by all names of the certificates below it. -/
namespace TlsEndpoint.NameMatch

/-! ## Names in a certificate -/

def hostTag : UInt8 := 0x82
def directoryTag : UInt8 := 0xa4
def uriTag : UInt8 := 0x86
def addressTag : UInt8 := 0x87

def otherTags : List UInt8 := [0xa0, 0x81, 0xa3, 0xa5, 0x88]

def ofValue (v : DerValue) : Except CertificateFault GeneralName :=
  if v.tag = hostTag then .ok (.dns v.content)
  else if v.tag = directoryTag then .ok .directory
  else if v.tag = addressTag then .ok (.address v.content)
  else if v.tag = uriTag then .ok (.uri v.content)
  else if otherTags.contains v.tag then .ok (.other (v.tag &&& 0x1f))
  else .error .badEncoding

def namesIn (b : Bytes) : List (Except CertificateFault GeneralName) :=
  if b = [] then []
  else
    match _h : Der.read Certificate.maxLength b with
    | none => [.error .badEncoding]
    | some (v, rest) =>
      match ofValue v with
      | .error f => [.error f]
      | .ok n => .ok n :: namesIn rest
termination_by b.length
decreasing_by exact Der.length_read (by assumption)

def alternativeNames (c : Certificate) : List (Except CertificateFault GeneralName) :=
  match c.extensions.alternativeNames with
  | none => []
  | some b => namesIn b

def allNames (c : Certificate) : List (Except CertificateFault GeneralName) :=
  let names := alternativeNames c
  if names.all Except.isOk then names ++ [.ok .directory] else names

/-! ## Host names -/

inductive Role where
  | presented
  | reference
  | constraint
  deriving DecidableEq, Repr

def point : UInt8 := 46
def star : UInt8 := 42
def hyphen : UInt8 := 45

/-- How far a name has been read: points so far, the length of the label, whether it holds digits
only, whether it ends with a hyphen. -/
structure LabelScan where
  points : Nat
  length : Nat
  allDigits : Bool
  endsWithHyphen : Bool

def maxLabel : Nat := 63
def maxName : Nat := 253

def LabelScan.letter (s : LabelScan) (isDigit isHyphen : Bool) : Option LabelScan :=
  if maxLabel < s.length + 1 then none
  else
    some ⟨s.points, s.length + 1, isDigit && (s.length == 0 || s.allDigits), isHyphen⟩

def LabelScan.step (role : Role) (s : LabelScan) (isFirst : Bool) (b : UInt8) :
    Option LabelScan :=
  if b = hyphen then if s.length = 0 then none else s.letter false true
  else if 48 ≤ b ∧ b ≤ 57 then s.letter true false
  else if (97 ≤ b ∧ b ≤ 122) ∨ (65 ≤ b ∧ b ≤ 90) ∨ b = 95 then s.letter false false
  else if b = point then
    if s.length = 0 ∧ !(role == .constraint && isFirst) then none
    else if s.endsWithHyphen then none
    else some ⟨s.points + 1, 0, s.allDigits, false⟩
  else none

def scanFrom (role : Role) : (isFirst : Bool) → LabelScan → Bytes → Option LabelScan
  | _, s, [] => some s
  | isFirst, s, b :: r => (s.step role isFirst b).bind fun s => scanFrom role false s r

/-- Whether the name is well-formed for its role. A wildcard needs two more labels. -/
def isHostName (role : Role) (b : Bytes) : Bool :=
  let isWild := role == .presented && b.head? == some star
  let rest := if isWild then b.drop 2 else b
  if maxName < b.length then false
  else if role = .constraint ∧ b = [] then true
  else if rest = [] ∨ (isWild ∧ b[1]? ≠ some point) then false
  else
    match scanFrom role (!isWild) ⟨if isWild then 1 else 0, 0, false, false⟩ rest with
    | none => false
    | some s =>
      !(s.length == 0 && role != .reference) && !s.endsWithHyphen && !s.allDigits
        && (!isWild || 3 ≤ (if s.length = 0 then s.points else s.points + 1))

/-- Compares octet by octet up to the case of letters. What is left of the reference is returned. -/
def sameStart : (presented reference : Bytes) → Option Bytes
  | [], r => some r
  | _ :: _, [] => none
  | p :: ps, r :: rs =>
    if Bytes.lowerLetter p = Bytes.lowerLetter r then sameStart ps rs else none

/-- The part of a presented name that a constraint is compared with: its end. In front of it there
has to be a point, unless the constraint begins with one. -/
def underConstraint (presented constraint : Bytes) : Option Bytes :=
  if presented.length ≤ constraint.length then some presented
  else
    let lead := presented.length - constraint.length
    if constraint.head? = some point ∨ presented[lead - 1]? = some point then
      some (presented.drop lead)
    else none

def passWildcard (presented reference : Bytes) : Option (Bytes × Bytes) :=
  if presented.head? = some star then
    match reference with
    | [] => none
    | _ :: r =>
      let rest := r.dropWhile (· != point)
      if rest = [] then none else some (presented.tail, rest)
  else some (presented, reference)

def isEnd (role : Role) (rest : Bytes) : Bool :=
  rest == [] || (role != .constraint && rest == [point])

/-- Whether a presented name matches a name that is asked for, or lies under a constraint. -/
def hostMatches (role : Role) (presented reference : Bytes) : Except CertificateFault Bool :=
  if !isHostName .presented presented then .error .malformedHostName
  else if !isHostName role reference then
    .error (if role = .constraint then .malformedNameConstraint else .malformedHostName)
  else if role = .constraint ∧ reference = [] then .ok true
  else
    match if role = .constraint then underConstraint presented reference else some presented with
    | none => .ok false
    | some shortened =>
      match passWildcard shortened reference with
      | none => .ok false
      | some (p, r) =>
        match sameStart p r with
        | none => .ok false
        | some rest => .ok (isEnd role rest)

/-! ## The name a client asks for -/

def isFor (expected : ServerName) (n : GeneralName) : Bool :=
  match expected, n with
  | .dns reference, .dns presented =>
    match hostMatches .reference presented (Bytes.ofText reference) with
    | .ok b => b
    | .error _ => false
  | .address wanted, .address presented => wanted == presented
  | _, _ => false

def findName (expected : ServerName) : List (Except CertificateFault GeneralName) →
    Except CertificateFault Bool
  | [] => .ok false
  | .error f :: _ => .error f
  | .ok n :: rest => if isFor expected n then .ok true else findName expected rest

def verifyName (c : Certificate) (expected : ServerName) : Except CertificateFault Unit :=
  match findName expected (alternativeNames c) with
  | .error f => .error f
  | .ok true => .ok ()
  | .ok false =>
    .error (.nameMismatch expected ((alternativeNames c).filterMap Except.toOption))

/-! ## Name constraints -/

def isMask (b : Bytes) : Bool :=
  let width := 8 * b.length
  (List.range (width + 1)).any fun zeros => Bytes.toNat b == Nat.pow 2 width - Nat.pow 2 zeros

/-- Whether an address lies in a network. Octets are looked at one after the other, and a mask
that is none is noticed only as far as they agree. -/
def inNetwork : (seenZero : Bool) → List (UInt8 × UInt8 × UInt8) → Except CertificateFault Bool
  | _, [] => .ok true
  | seenZero, (octet, network, mask) :: rest =>
    if !isMask [mask] || (seenZero && mask != 0) then .error .badNetworkMask
    else if (octet ^^^ network) &&& mask != 0 then .ok false
    else inNetwork (seenZero || mask != 0xff) rest

def addressMatches (presented constraint : Bytes) : Except CertificateFault Bool :=
  let n := presented.length
  if n ≠ 4 ∧ n ≠ 16 then .error .badEncoding
  else if constraint.length = 2 * n then
    inNetwork false (presented.zip ((constraint.take n).zip (constraint.drop n)))
  else if constraint.length = 8 ∨ constraint.length = 32 then .ok false
  else .error .badNetworkMask

inductive Subtrees where
  | permitted
  | excluded
  deriving DecidableEq, Repr

/-- Whether a name lies in a subtree; nothing if they are of different kinds. Directories are not
compared: none lies in a permitted subtree and all lie in an excluded one. -/
def inSubtree (which : Subtrees) (n base : GeneralName) : Option (Except CertificateFault Bool) :=
  match n, base with
  | .dns presented, .dns constraint => some (hostMatches .constraint presented constraint)
  | .directory, .directory => some (.ok (which == .excluded))
  | .address presented, .address constraint => some (addressMatches presented constraint)
  | .other a, .other b => if a = b then some (.error .nameConstraintViolated) else none
  | _, _ => none

def baseOf (v : DerValue) : Except CertificateFault GeneralName :=
  if v.tag ≠ Der.sequenceTag then .error .badEncoding
  else
    match Der.read Certificate.maxLength v.content with
    | some (name, []) => ofValue name
    | _ => .error .badEncoding

def basesIn (b : Bytes) : List (Except CertificateFault GeneralName) :=
  if b = [] then []
  else
    match _h : Der.read Certificate.maxLength b with
    | none => [.error .badEncoding]
    | some (v, rest) => baseOf v :: basesIn rest
termination_by b.length
decreasing_by exact Der.length_read (by assumption)

/-- Compares a name with the subtrees of a list, spending `budget`. The flags tell whether one
matched and whether one of its kind did not. -/
def checkBases (which : Subtrees) (n : GeneralName) :
    List (Except CertificateFault GeneralName) → (budget : Nat) → (matched missed : Bool) →
    Except CertificateFault Unit × Nat
  | [], budget, matched, missed =>
    (if which = .permitted ∧ missed ∧ !matched then .error .nameConstraintViolated else .ok (),
      budget)
  | _ :: _, 0, _, _ => (.error .comparisonBudgetExceeded, 0)
  | .error f :: _, budget + 1, _, _ => (.error f, budget)
  | .ok base :: rest, budget + 1, matched, missed =>
    match inSubtree which n base with
    | none => checkBases which n rest budget matched missed
    | some (.error f) => (.error f, budget)
    | some (.ok true) =>
      if which = .excluded then (.error .nameConstraintViolated, budget)
      else checkBases which n rest budget true missed
    | some (.ok false) => checkBases which n rest budget matched true

structure Constraint where
  permitted : List (Except CertificateFault GeneralName)
  excluded : List (Except CertificateFault GeneralName)

def optionalList (tag : UInt8) (b : Bytes) : Except CertificateFault (Bytes × Bytes) :=
  if b.head? = some tag then Certificate.expect tag b else .ok ([], b)

def readConstraint (b : Bytes) : Except CertificateFault (Constraint × Bytes) := do
  let (permitted, rest) ← optionalList (Der.contextTag 0) b
  let (excluded, rest) ← optionalList (Der.contextTag 1) rest
  .ok (⟨basesIn permitted, basesIn excluded⟩, rest)

def checkName (k : Constraint) (n : GeneralName) (budget : Nat) :
    Except CertificateFault Unit × Nat :=
  match checkBases .permitted n k.permitted budget false false with
  | (.error f, budget) => (.error f, budget)
  | (.ok (), budget) => checkBases .excluded n k.excluded budget false false

def checkNames (k : Constraint) : List (Except CertificateFault GeneralName) → (budget : Nat) →
    Except CertificateFault Unit × Nat
  | [], budget => (.ok (), budget)
  | .error f :: _, budget => (.error f, budget)
  | .ok n :: rest, budget =>
    match checkName k n budget with
    | (.error f, budget) => (.error f, budget)
    | (.ok (), budget) => checkNames k rest budget

def checkConstraint (constraint : Option Bytes) (below : List Certificate) (budget : Nat) :
    Except CertificateFault Unit × Nat :=
  match constraint with
  | none => (.ok (), budget)
  | some b =>
    match readConstraint b with
    | .error f => (.error f, budget)
    | .ok (k, rest) =>
      match checkNames k (below.flatMap allNames) budget with
      | (.error f, budget) => (.error f, budget)
      | (.ok (), budget) => (Certificate.refuseRest rest, budget)

end TlsEndpoint.NameMatch
