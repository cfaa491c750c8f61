import TlsEndpoint.Bytes
import TlsEndpoint.Error.Io

/-! # Text files with encoded sections

A section is Base64 between two lines of dashes. White space is skipped there, padding is optional,
and unused bits at the end are ignored. Symbols are decoded in groups of eight: a group with padding
may only be the last one. -/
namespace TlsEndpoint.Base64

inductive Symbol where
  | sextet (value : Nat)
  | padding
  deriving DecidableEq, Repr

inductive DecodeError where
  | invalidCharacter (octet : UInt8)
  | prematurePadding
  | invalidTrailingPadding
  deriving DecidableEq, Repr

def DecodeError.message : DecodeError → String
  | .invalidCharacter b => "InvalidCharacter(" ++ toString b.toNat ++ ")"
  | .prematurePadding => "PrematurePadding"
  | .invalidTrailingPadding => "InvalidTrailingPadding"

def Symbol.ofOctet? (b : UInt8) : Option Symbol :=
  if 65 ≤ b ∧ b ≤ 90 then some (.sextet (b.toNat - 65))
  else if 97 ≤ b ∧ b ≤ 122 then some (.sextet (b.toNat - 71))
  else if 48 ≤ b ∧ b ≤ 57 then some (.sextet (b.toNat + 4))
  else if b = 43 then some (.sextet 62)
  else if b = 47 then some (.sextet 63)
  else if b = 61 then some .padding
  else none

def isBlank (b : UInt8) : Bool := (9 ≤ b && b ≤ 13) || b == 32

def quantum (a b c d : Nat) : Bytes :=
  let n := ((a * 64 + b) * 64 + c) * 64 + d
  Bytes.ofNat 3 n

/-- Four symbols that more symbols follow. -/
def innerQuantum : List Symbol → Except DecodeError Bytes
  | [.sextet a, .sextet b, .sextet c, .sextet d] => .ok (quantum a b c d)
  | _ => .error .prematurePadding

def lastQuantum : List Symbol → Except DecodeError Bytes
  | [] => .ok []
  | [.sextet a, .sextet b, .sextet c, .sextet d] => .ok (quantum a b c d)
  | [.sextet a, .sextet b, .sextet c, .padding] => .ok ((quantum a b c 0).take 2)
  | [.sextet a, .sextet b, .padding, .padding] => .ok ((quantum a b 0 0).take 1)
  | [.sextet a, .sextet b, .sextet c] => .ok ((quantum a b c 0).take 2)
  | [.sextet a, .sextet b] => .ok ((quantum a b 0 0).take 1)
  | _ => .error .invalidTrailingPadding

/-- A group of eight that another symbol follows. -/
def fullGroup (g : List Symbol) : Except DecodeError Bytes := do
  let head ← innerQuantum (g.take 4)
  let tail ← innerQuantum (g.drop 4)
  .ok (head ++ tail)

def lastGroup (g : List Symbol) : Except DecodeError Bytes :=
  if g.length ≤ 4 then lastQuantum g
  else do
    let head ← innerQuantum (g.take 4)
    let tail ← lastQuantum (g.drop 4)
    .ok (head ++ tail)

/-- Decodes after the symbols of an unfinished group. -/
def decodeFrom : (group : List Symbol) → Bytes → Except DecodeError Bytes
  | group, [] => lastGroup group
  | group, b :: r =>
    if isBlank b then decodeFrom group r
    else
      match Symbol.ofOctet? b with
      | none => .error (.invalidCharacter b)
      | some s =>
        if group.length < 8 then decodeFrom (group ++ [s]) r
        else do
          let head ← fullGroup group
          let rest ← decodeFrom [s] r
          .ok (head ++ rest)

def decode (b : Bytes) : Except DecodeError Bytes := decodeFrom [] b

end TlsEndpoint.Base64

/-! ## Sections

A file is read line by line into a list of sections and faults. After a fault reading goes on with
the next line as if nothing had come before. Whoever uses the list decides how far to read: the
private key of a file is its first key, and nothing behind it matters; certificates are read to the
end, and the first fault spoils them all. -/
namespace TlsEndpoint

inductive KeyFormat where
  | pkcs8
  | sec1
  | pkcs1
  deriving DecidableEq, Repr

structure EncodedKey where
  format : KeyFormat
  der : Bytes
  deriving DecidableEq, Repr

namespace Pem

inductive Section where
  | certificate (der : Bytes)
  | key (key : EncodedKey)
  | other (der : Bytes)
  deriving DecidableEq, Repr

inductive PemError where
  | illegalStart (line : Bytes)
  | missingEnd (label : Bytes)
  | badBase64 (cause : Base64.DecodeError)
  deriving DecidableEq, Repr

def PemError.message : PemError → String
  | .illegalStart line => "illegal section start: " ++ Text.quoted (Text.ofUtf8Lossy line)
  | .missingEnd label => "section end " ++ Text.quoted (Text.ofUtf8Lossy label) ++ " missing"
  | .badBase64 e => e.message

def PemError.ioError (e : PemError) : IoError := .custom .invalidData e.message

/-- Lines with their ends; every line feed and every carriage return ends one. -/
def lines : Bytes → List Bytes
  | [] => []
  | b :: r =>
    if b = 10 ∨ b = 13 then [b] :: lines r
    else
      match lines r with
      | [] => [[b]]
      | l :: ls => (b :: l) :: ls

def startMark : Bytes := Bytes.ofText "-----BEGIN "
def endMark (label : Bytes) : Bytes :=
  Bytes.ofText "-----END " ++ label ++ Bytes.ofText "-----"

def dash : UInt8 := 45

def isLineFiller (b : UInt8) : Bool := b == dash || b == 32 || b == 10 || b == 13

/-- The label of a starting line: what stands between the mark and five final dashes, which blanks
and line ends may interrupt. -/
def labelOf? (line : Bytes) : Option Bytes :=
  let filler := (line.reverse.takeWhile isLineFiller).reverse
  let fromDash := filler.dropWhile (· != dash)
  if (filler.filter (· == dash)).length = 5 then
    some ((line.take (line.length - fromDash.length)).drop startMark.length)
  else none

def sectionOf? (label der : Bytes) : Option Section :=
  if label = Bytes.ofText "CERTIFICATE" then some (.certificate der)
  else if label = Bytes.ofText "PRIVATE KEY" then some (.key ⟨.pkcs8, der⟩)
  else if label = Bytes.ofText "RSA PRIVATE KEY" then some (.key ⟨.pkcs1, der⟩)
  else if label = Bytes.ofText "EC PRIVATE KEY" then some (.key ⟨.sec1, der⟩)
  else if label = Bytes.ofText "PUBLIC KEY" ∨ label = Bytes.ofText "X509 CRL"
      ∨ label = Bytes.ofText "CERTIFICATE REQUEST" ∨ label = Bytes.ofText "ECHCONFIG" then
    some (.other der)
  else none

def isKnown (label : Bytes) : Bool := (sectionOf? label []).isSome

/-- What a finished section holds. A section of an unknown kind holds nothing, whatever its text. -/
def finish (label body : Bytes) : Option (Except PemError Section) :=
  if isKnown label then
    match Base64.decode body with
    | .error e => some (.error (.badBase64 e))
    | .ok der => (sectionOf? label der).map .ok
  else none

/-- Reads lines with the label and the text of the section that is open. A new start inside a
section renames it and keeps its text. -/
def scan : (label : Option Bytes) → (body : Bytes) → List Bytes → List (Except PemError Section)
  | none, _, [] => []
  | some label, _, [] => [.error (.missingEnd label)]
  | label, body, line :: rest =>
    if startMark.isPrefixOf line then
      match labelOf? line with
      | none => .error (.illegalStart line) :: scan none [] rest
      | some l => scan (some l) body rest
    else
      match label with
      | none => scan none [] rest
      | some l =>
        if (endMark l).isPrefixOf line then
          match finish l body with
          | some item => item :: scan none [] rest
          | none => scan none [] rest
        else scan (some l) (body ++ line) rest

def sections (file : Bytes) : List (Except PemError Section) := scan none [] (lines file)

def firstKeyOf : List (Except PemError Section) → Except PemError (Option EncodedKey)
  | [] => .ok none
  | .error e :: _ => .error e
  | .ok (.key k) :: _ => .ok (some k)
  | .ok _ :: rest => firstKeyOf rest

/-- The first private key, if no fault comes before it. -/
def firstKey (file : Bytes) : Except PemError (Option EncodedKey) := firstKeyOf (sections file)

def Section.certificate? : Section → Option Bytes
  | .certificate der => some der
  | _ => none

def certificates (file : Bytes) : Except PemError (List Bytes) := do
  let all ← (sections file).mapM id
  .ok (all.filterMap Section.certificate?)

def readableCertificates (file : Bytes) : List Bytes :=
  (sections file).filterMap fun s =>
    match s with
    | .ok s => s.certificate?
    | .error _ => none

end Pem

end TlsEndpoint
