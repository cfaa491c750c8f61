import TlsEndpoint.Certificate
import TlsEndpoint.Material
import TlsEndpoint.Verification.Signature
import TlsEndpoint.Verification.NameMatch

/-! # Certificate chains

A certificate is valid for a time. An instant is the number that the digits of its year, month, day,
hour, minute and second write, so that instants compare as numbers. -/
namespace TlsEndpoint

abbrev Instant := Nat

namespace Instant

def isLeap (year : Nat) : Bool := year % 4 == 0 && (year % 100 != 0 || year % 400 == 0)

def daysIn (year month : Nat) : Nat :=
  if month = 2 then (if isLeap year then 29 else 28)
  else if month = 4 ∨ month = 6 ∨ month = 9 ∨ month = 11 then 30
  else 31

def twoDigits? (least most : Nat) : Bytes → Option (Nat × Bytes)
  | a :: b :: r =>
    if 48 ≤ a ∧ a ≤ 57 ∧ 48 ≤ b ∧ b ≤ 57 then
      let n := (a.toNat - 48) * 10 + (b.toNat - 48)
      if least ≤ n ∧ n ≤ most then some (n, r) else none
    else none
  | _ => none

def year? (isShort : Bool) (b : Bytes) : Option (Nat × Bytes) := do
  let (first, r) ← twoDigits? 0 99 b
  if isShort then some ((if 50 ≤ first then 1900 else 2000) + first, r)
  else do
    let (second, r) ← twoDigits? 0 99 r
    some (first * 100 + second, r)

def read? (isShort : Bool) (b : Bytes) : Option (Instant × Bytes) := do
  let (year, r) ← year? isShort b
  let (month, r) ← twoDigits? 1 12 r
  let (day, r) ← twoDigits? 1 (daysIn year month) r
  let (hour, r) ← twoDigits? 0 23 r
  let (minute, r) ← twoDigits? 0 59 r
  let (second, r) ← twoDigits? 0 59 r
  if r.head? = some 0x5a ∧ 1970 ≤ year then
    let date := (year * 100 + month) * 100 + day
    some (((date * 100 + hour) * 100 + minute) * 100 + second, r.tail)
  else none

def expect (b : Bytes) : Except CertificateFault (Instant × Bytes) := do
  let isShort := b.head? == some Der.utcTimeTag
  let (content, rest) ←
    Certificate.expect (if isShort then Der.utcTimeTag else Der.generalizedTimeTag) b
  match read? isShort content with
  | none => .error .badTime
  | some (t, extra) => if extra = [] then .ok (t, rest) else .error .badEncoding

end Instant

end TlsEndpoint

/-! ## Paths

A chain is verified by building a path from its first certificate up to a trust anchor, through
those of its other certificates that fit. Every certificate on the path has to be valid by itself;
when an anchor is reached, all signatures are checked from the anchor down, and then the name
constraints. The search is bounded in depth and by budgets. -/
namespace TlsEndpoint.Chain

inductive Role where
  | endEntity
  | issuer
  deriving DecidableEq, Repr

def verifyValidity (b : Bytes) (now : Instant) : Except CertificateFault Unit := do
  let (notBefore, rest) ← Instant.expect b
  let (notAfter, rest) ← Instant.expect rest
  if notAfter < notBefore then .error .emptyValidity
  else if now < notBefore then .error .notYetValid
  else if notAfter < now then .error .expired
  else Certificate.refuseRest rest

def optionalFlag (b : Bytes) : Except CertificateFault (Bool × Bytes) :=
  if b.head? = some Der.booleanTag then do
    let (content, rest) ← Certificate.expect Der.booleanTag b
    if content = [0xff] then .ok (true, rest)
    else if content = [0x00] then .ok (false, rest)
    else .error .badEncoding
  else .ok (false, b)

def optionalLimit (b : Bytes) : Except CertificateFault (Option Nat × Bytes) :=
  if b = [] then .ok (none, [])
  else do
    let (content, rest) ← Certificate.expect Der.integerTag b
    match Der.natural? content with
    | some n => if n < 256 then .ok (some n, rest) else .error .badEncoding
    | none => .error .badEncoding

def verifyRole (role : Role) (below : Nat) (isAuthority : Bool) (limit : Option Nat) :
    Except CertificateFault Unit :=
  match role with
  | .endEntity => if isAuthority then .error .authorityAsEndEntity else .ok ()
  | .issuer =>
    if !isAuthority then .error .endEntityAsAuthority
    else
      match limit with
      | some n => if n < below then .error .pathTooLong else .ok ()
      | none => .ok ()

/-- `below` is the number of issuers below this certificate. -/
def verifyBasicConstraints (constraints : Option Bytes) (role : Role) (below : Nat) :
    Except CertificateFault Unit :=
  match constraints with
  | none => verifyRole role below false none
  | some b => do
    let (isAuthority, rest) ← optionalFlag b
    let (limit, rest) ← optionalLimit rest
    verifyRole role below isAuthority limit
    Certificate.refuseRest rest

/-- The numbers of an object identifier's content, collected from groups of seven bits. Every
further octet of a number shifts it by a whole octet. -/
def arcsFrom : (isFirst : Bool) → (value : Nat) → Bytes → List Nat
  | _, _, [] => []
  | isFirst, value, b :: r =>
    let value := (value * 256 + b.toNat % 128) % Nat.pow 2 64
    if 128 ≤ b then arcsFrom isFirst value r
    else if isFirst then
      let root := if value < 40 then 0 else if value < 80 then 1 else 2
      root :: (value - root * 40) :: arcsFrom false 0 r
    else value :: arcsFrom false 0 r

def purposeOf (content : Bytes) : Purpose := ⟨arcsFrom true 0 content⟩

def findPurpose (required : Purpose) (b : Bytes) (seen : List Purpose) :
    Except CertificateFault Unit :=
  match _h : Der.read Certificate.maxLength b with
  | none => .error .badEncoding
  | some (v, rest) =>
    if v.tag ≠ Der.objectTag then .error .badEncoding
    else
      let purpose := purposeOf v.content
      if purpose = required then .ok ()
      else if rest = [] then .error (.wrongPurpose required (seen ++ [purpose]))
      else findPurpose required rest (seen ++ [purpose])
termination_by b.length
decreasing_by exact Der.length_read (by assumption)

/-- A certificate that states no purposes has them all. -/
def verifyPurpose (required : Purpose) : Option Bytes → Except CertificateFault Unit
  | none => .ok ()
  | some b => findPurpose required b []

def verifyAlone (c : Certificate) (now : Instant) (purpose : Purpose) (role : Role) (below : Nat) :
    Except CertificateFault Unit := do
  verifyValidity c.validity now
  verifyBasicConstraints c.extensions.basicConstraints role below
  verifyPurpose purpose c.extensions.extendedKeyUsage

structure Budget where
  signatures : Nat
  builds : Nat
  comparisons : Nat
  deriving DecidableEq, Repr

def Budget.start : Budget := ⟨100, 200000, 250000⟩

def maxIntermediates : Nat := 6

abbrev Search (α : Type) := Except CertificateFault α × Budget

def verifySignatures : (keyInfo : Bytes) → (path : List Certificate) → Budget → Search Unit
  | _, [], budget => (.ok (), budget)
  | keyInfo, c :: below, budget =>
    match budget.signatures with
    | 0 => (.error .signatureBudgetExceeded, budget)
    | left + 1 =>
      let budget := { budget with signatures := left }
      match Signature.verify c keyInfo with
      | .error f => (.error f, budget)
      | .ok () => verifySignatures c.keyInfo below budget

/-- Checks the constraints of the anchor and of every certificate on all that is below it. -/
def verifyConstraints : (constraint : Option Bytes) → (path : List Certificate) → Budget →
    Search Unit
  | _, [], budget => (.ok (), budget)
  | constraint, c :: below, budget =>
    match NameMatch.checkConstraint constraint (c :: below) budget.comparisons with
    | (.error f, left) => (.error f, { budget with comparisons := left })
    | (.ok (), left) =>
      verifyConstraints c.extensions.nameConstraints below { budget with comparisons := left }

def tryAnchor (anchor : TrustAnchor) (path : List Certificate) (budget : Budget) :
    Search TrustAnchor :=
  match path with
  | [] => (.error .unknownIssuer, budget)
  | top :: _ =>
    if top.issuer ≠ anchor.subject then (.error .unknownIssuer, budget)
    else
      match verifySignatures anchor.keyInfo path budget with
      | (.error f, budget) => (.error f, budget)
      | (.ok (), budget) =>
        match verifyConstraints anchor.nameConstraints path budget with
        | (.error f, budget) => (.error f, budget)
        | (.ok (), budget) => (.ok anchor, budget)

/-- Tries one thing after the other until one succeeds or a fault is fatal. Of the other faults the
worst is kept, beginning with that of earlier tries. -/
def tryEach {α β : Type} (attempt : α → Budget → Search β) : CertificateFault → List α → Budget →
    Search β
  | fault, [], budget => (.error fault, budget)
  | fault, a :: rest, budget =>
    match attempt a budget with
    | (.ok b, budget) => (.ok b, budget)
    | (.error f, budget) =>
      if f.isFatal then (.error f, budget)
      else tryEach attempt (fault.worse f) rest budget

structure Goal where
  anchors : Anchors
  intermediates : List Bytes
  now : Instant
  purpose : Purpose

def isOnPath (c : Certificate) (path : List Certificate) : Bool :=
  path.any fun p => p.keyInfo == c.keyInfo && p.subject == c.subject

/-- One certificate further up: the candidate has to be the issuer of the top, and not on the path.
`further` goes on from the longer path. -/
def tryIssuer (further : List Certificate → Budget → Search TrustAnchor)
    (path : List Certificate) (candidate : Bytes) (budget : Budget) : Search TrustAnchor :=
  match Certificate.parse .verification candidate with
  | .error f => (.error f, budget)
  | .ok c =>
    if path.head?.map Certificate.issuer ≠ some c.subject ∨ isOnPath c path then
      (.error .unknownIssuer, budget)
    else
      match budget.builds with
      | 0 => (.error .buildBudgetExceeded, budget)
      | left + 1 => further (c :: path) { budget with builds := left }

/-- The search from a path of which only the top has not been checked. -/
def extend (goal : Goal) (further : List Certificate → Budget → Search TrustAnchor)
    (path : List Certificate) (budget : Budget) : Search TrustAnchor :=
  match path with
  | [] => (.error .unknownIssuer, budget)
  | top :: below =>
    let role := if below = [] then Role.endEntity else Role.issuer
    match verifyAlone top goal.now goal.purpose role (below.length - 1) with
    | .error f => (.error f, budget)
    | .ok () =>
      match tryEach (fun a budget => tryAnchor a path budget) .unknownIssuer goal.anchors budget with
      | (.ok anchor, budget) => (.ok anchor, budget)
      | (.error f, budget) =>
        if f.isFatal then (.error f, budget)
        else tryEach (tryIssuer further path) f goal.intermediates budget

def search (goal : Goal) : (room : Nat) → List Certificate → Budget → Search TrustAnchor
  | 0 => extend goal fun _ budget => (.error .depthExceeded, budget)
  | room + 1 => extend goal (search goal room)

def verify (goal : Goal) (leaf : Certificate) : Except CertificateFault TrustAnchor :=
  (search goal maxIntermediates [leaf] Budget.start).1

end TlsEndpoint.Chain
