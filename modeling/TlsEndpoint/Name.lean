import TlsEndpoint.Text

/-! # Names and addresses

Certificates carry names of several kinds, and a client asks for a host name or an address. An
address is its four or sixteen octets. Reading accepts the dotted form without leading zeros
and the colon form with at most one gap, whose end may be dotted. -/
namespace TlsEndpoint.Name

def isDigit (c : Char) : Bool := '0' ≤ c && c ≤ '9'

def digitValue? (c : Char) : Option Nat :=
  if isDigit c then some (c.toNat - 48)
  else if 'a' ≤ c ∧ c ≤ 'f' then some (c.toNat - 87)
  else if 'A' ≤ c ∧ c ≤ 'F' then some (c.toNat - 55)
  else none

def isDigitOf (radix : Nat) (c : Char) : Bool :=
  match digitValue? c with
  | some d => d < radix
  | none => false

def readNumber (radix most : Nat) (zeroLead : Bool) (cs : List Char) : Option (Nat × List Char) :=
  let digits := cs.takeWhile (isDigitOf radix)
  let value := digits.foldl (fun n c => n * radix + (digitValue? c).getD 0) 0
  if digits.isEmpty || most < digits.length then none
  else if !zeroLead && digits.head? == some '0' && 1 < digits.length then none
  else some (value, cs.drop digits.length)

def readChar (c : Char) : List Char → Option (List Char)
  | [] => none
  | x :: r => if x = c then some r else none

def readOctet (cs : List Char) : Option (UInt8 × List Char) := do
  let (n, r) ← readNumber 10 3 false cs
  if n < 256 then some (UInt8.ofNat n, r) else none

def readDotted (cs : List Char) : Option (Bytes × List Char) := do
  let (a, r) ← readOctet cs
  let (b, r) ← readOctet (← readChar '.' r)
  let (c, r) ← readOctet (← readChar '.' r)
  let (d, r) ← readOctet (← readChar '.' r)
  some ([a, b, c, d], r)

def afterColon (first : Bool) (cs : List Char) : Option (List Char) :=
  if first then some cs else readChar ':' cs

/-- Up to `limit` groups of two octets, the last two of which may be dotted; whether they were is
the second result. -/
def readGroups : (limit : Nat) → (first : Bool) → List Char → Bytes × Bool × List Char
  | 0, _, cs => ([], false, cs)
  | limit + 1, first, cs =>
    let dotted := if 1 ≤ limit then (afterColon first cs).bind readDotted else none
    match dotted with
    | some (octets, r) => (octets, true, r)
    | none =>
      match (afterColon first cs).bind (readNumber 16 4 true) with
      | none => ([], false, cs)
      | some (n, r) =>
        let (rest, ended, r) := readGroups limit false r
        (Bytes.ofNat 2 n ++ rest, ended, r)

def readColons (cs : List Char) : Option (Bytes × List Char) :=
  let (head, dotted, r) := readGroups 8 true cs
  if head.length = 16 then some (head, r)
  else if dotted then none
  else do
    let r ← readChar ':' r
    let r ← readChar ':' r
    let (tail, _, r) := readGroups (7 - head.length / 2) true r
    some (head ++ List.replicate (16 - head.length - tail.length) 0 ++ tail, r)

def parseAddress (s : String) : Option Bytes :=
  match (readDotted s.toList).orElse fun _ => readColons s.toList with
  | some (octets, []) => some octets
  | _ => none

def pairs : Bytes → List (UInt8 × UInt8)
  | a :: b :: r => (a, b) :: pairs r
  | _ => []

def groups (b : Bytes) : List Nat := (pairs b).map fun p => p.1.toNat * 256 + p.2.toNat

def dottedText (b : Bytes) : String := ".".intercalate (b.map fun x => toString x.toNat)

def groupsText (gs : List Nat) : String :=
  ":".intercalate (gs.map fun g => String.ofList (Text.hexNumber g))

def longestRun : (i : Nat) → (run best : Nat × Nat) → List Nat → Nat × Nat
  | _, _, best, [] => best
  | i, run, best, g :: r =>
    if g = 0 then
      let run := (if run.2 = 0 then i else run.1, run.2 + 1)
      longestRun (i + 1) run (if best.2 < run.2 then run else best) r
    else longestRun (i + 1) (0, 0) best r

/-- The usual text of an address: the longest run of two or more zero groups is a gap. -/
def addressText (b : Bytes) : String :=
  if b.length = 4 then dottedText b
  else if b.take 12 = List.replicate 10 0 ++ [0xff, 0xff] then "::ffff:" ++ dottedText (b.drop 12)
  else
    let gs := groups b
    let (gap, width) := longestRun 0 (0, 0) (0, 0) gs
    if 1 < width then groupsText (gs.take gap) ++ "::" ++ groupsText (gs.drop (gap + width))
    else groupsText gs

/-- The text of a group inside a certificate's names: no zero leads, and a low octet after a high
one takes two digits. -/
def compactGroup (p : UInt8 × UInt8) : String :=
  if p.1 = 0 then String.ofList (Text.hexNumber p.2.toNat)
  else String.ofList (Text.hexNumber p.1.toNat) ++ Text.hex [p.2]

/-- Later groups that are zero are left out, each stretch of them as a gap before what follows. -/
def compactGroups : (skipping : Bool) → List (UInt8 × UInt8) → String
  | _, [] => ""
  | skipping, p :: r =>
    if p = (0, 0) then compactGroups true r
    else (if skipping then "::" else ":") ++ compactGroup p ++ compactGroups false r

def certifiedAddressText (b : Bytes) : String :=
  if b.length = 4 then dottedText b
  else if b.length = 16 then
    match pairs b with
    | [] => ""
    | p :: r => compactGroup p ++ compactGroups false r
  else "[invalid: " ++ ", ".intercalate (b.map fun x => Text.hex [x]) ++ "]"

end TlsEndpoint.Name

/-! ## Names that certificates carry

The alternative names of a certificate and the subtrees of a name constraint are general names.
Kinds that play no part in verification are kept by their tag. -/
namespace TlsEndpoint

inductive GeneralName where
  | dns (octets : Bytes)
  | directory
  | address (octets : Bytes)
  | uri (octets : Bytes)
  | other (tag : UInt8)
  deriving DecidableEq, Repr

namespace GeneralName

def text : GeneralName → String
  | .dns b => "DnsName(\"" ++ Text.ofUtf8Lossy b ++ "\")"
  | .directory => "DirectoryName"
  | .address b => "IpAddress(" ++ Name.certifiedAddressText b ++ ")"
  | .uri b => "UniformResourceIdentifier(\"" ++ Text.ofUtf8Lossy b ++ "\")"
  | .other tag => "Unsupported(0x" ++ Text.hex [tag] ++ ")"

end GeneralName

/-! ## The name a client asks for

A host name is made of labels of letters, digits, underscores and inner hyphens; its last label
holds more than digits, so no address is a host name. -/

inductive ServerName where
  | dns (name : String)
  | address (octets : Bytes)
  deriving DecidableEq, Repr

namespace Name

inductive LabelState where
  | start
  | next
  | nextAfterDigits
  | digits (length : Nat)
  | word (length : Nat)
  | hyphen (length : Nat)
  deriving DecidableEq, Repr

def maxLabel : Nat := 63
def maxName : Nat := 253

def isWordStart (x : UInt8) : Bool :=
  (97 ≤ x && x ≤ 122) || (65 ≤ x && x ≤ 90) || x == 95

def isDigitOctet (x : UInt8) : Bool := 48 ≤ x && x ≤ 57

def LabelState.openLength? : LabelState → Option Nat
  | .digits n | .word n | .hyphen n => some n
  | _ => none

def LabelState.step (s : LabelState) (x : UInt8) : Option LabelState :=
  if x = 46 then
    match s with
    | .word _ => some .next
    | .digits _ => some .nextAfterDigits
    | _ => none
  else
    match s.openLength? with
    | none =>
      if isDigitOctet x then some (.digits 1)
      else if isWordStart x then some (.word 1)
      else none
    | some n =>
      if maxLabel ≤ n then none
      else if x = 45 then some (.hyphen (n + 1))
      else if isDigitOctet x then
        match s with
        | .digits _ => some (.digits (n + 1))
        | _ => some (.word (n + 1))
      else if isWordStart x then some (.word (n + 1))
      else none

def LabelState.canEnd : LabelState → Bool
  | .next | .word _ => true
  | _ => false

def isHostName (b : Bytes) : Bool :=
  b.length ≤ maxName &&
    match b.foldlM LabelState.step .start with
    | some s => s.canEnd
    | none => false

end Name

namespace ServerName

def parse? (s : String) : Option ServerName :=
  if Name.isHostName (Bytes.ofText s) then some (.dns s)
  else (Name.parseAddress s).map .address

def text : ServerName → String
  | .dns name => name
  | .address octets => Name.addressText octets

/-- What a client tells the server about the name: host names only, in lower case and without the
final point. -/
def indication? : ServerName → Option String
  | .address _ => none
  | .dns name =>
    let lower := name.toList.map Char.toLower
    some (String.ofList (if lower.getLast? = some '.' then lower.dropLast else lower))

end ServerName

end TlsEndpoint
