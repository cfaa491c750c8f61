import TlsEndpoint.Configuration
import TlsEndpoint.Text

/-! # Command lines

Four flags describe a configuration backed by files. A flag's value is attached with an equals sign
or is the next word. Each flag is given at most once, and a key needs a certificate just as a
certificate needs a key. Words are read from left to right, and the first complaint ends the
reading; a flag that still waits for its value complains when the next one begins. -/
namespace TlsEndpoint

inductive Flag where
  | protocol
  | key
  | certificates
  | anchors
  deriving DecidableEq, Repr

def Flag.all : List Flag := [.protocol, .key, .certificates, .anchors]

def Flag.name : Flag → String
  | .protocol => "tls-protocol"
  | .key => "key-path"
  | .certificates => "cert-path"
  | .anchors => "cacert"

def Flag.placeholder : Flag → String
  | .protocol => "TLS_PROTOCOL"
  | .key => "KEY_PATH"
  | .certificates => "CERT_PATH"
  | .anchors => "CACERT"

def Flag.usage (f : Flag) : String := "--" ++ f.name ++ " <" ++ f.placeholder ++ ">"

def Flag.ofName? (name : Bytes) : Option Flag :=
  Flag.all.find? fun f => Bytes.ofText f.name == name

inductive ArgumentError where
  | unknown (word : String)
  | missingValue (flag : Flag)
  | repeated (flag : Flag)
  | notText
  | valueForHelp (value : String)
  | requires (flag : Flag)
  /-- No complaint: help was asked for. -/
  | help
  deriving DecidableEq, Repr

structure Arguments where
  protocol : Option String
  key : Option Path
  certificates : Option Path
  anchors : Option Path
  deriving Repr

namespace Arguments

def empty : Arguments := ⟨none, none, none, none⟩

def has (a : Arguments) : Flag → Bool
  | .protocol => a.protocol.isSome
  | .key => a.key.isSome
  | .certificates => a.certificates.isSome
  | .anchors => a.anchors.isSome

def path (flag : Flag) (value : Bytes) : Except ArgumentError Path :=
  if value = [] then .error (.missingValue flag) else .ok ⟨value⟩

/-- Gives a flag its value; only a protocol has to be text, and only a path has to be nonempty. -/
def set (a : Arguments) (flag : Flag) (value : Bytes) : Except ArgumentError Arguments :=
  if a.has flag then .error (.repeated flag)
  else
    match flag with
    | .protocol =>
      match Text.ofUtf8? value with
      | some s => .ok { a with protocol := some s }
      | none => .error .notText
    | .key => (path .key value).map fun p => { a with key := some p }
    | .certificates => (path .certificates value).map fun p => { a with certificates := some p }
    | .anchors => (path .anchors value).map fun p => { a with anchors := some p }

def paired (a : Arguments) : Except ArgumentError Arguments :=
  if a.key.isSome && a.certificates.isNone then .error (.requires .certificates)
  else if a.certificates.isSome && a.key.isNone then .error (.requires .key)
  else .ok a

def configuration (a : Arguments) : FileConfiguration :=
  let identity :=
    match a.key, a.certificates with
    | some k, some c => some (KeyStore.mk k c)
    | _, _ => none
  Configuration.ofParts (a.protocol.map Protocol.mk) identity (a.anchors.map TrustStore.mk)

def structural (a : Arguments) : String :=
  "Args \x7b tls_protocol: " ++ optionStructural Text.quoted a.protocol ++ ", key_path: "
    ++ optionStructural Path.structural a.key ++ ", cert_path: "
    ++ optionStructural Path.structural a.certificates ++ ", cacert: "
    ++ optionStructural Path.structural a.anchors ++ " \x7d"

end Arguments

/-- How a word looks, before it is known which flags there are. -/
inductive Word where
  | endOfFlags
  | long (name : Bytes) (value : Option Bytes)
  | short (letters : Bytes)
  | plain
  deriving DecidableEq, Repr

namespace Word

def dash : UInt8 := 45
def equalsSign : UInt8 := 61

def splitValue : Bytes → Bytes × Option Bytes
  | [] => ([], none)
  | b :: r =>
    if b = equalsSign then ([], some r)
    else ((b :: (splitValue r).1), (splitValue r).2)

def ofBytes : Bytes → Word
  | a :: b :: r =>
    if a = dash ∧ b = dash then
      if r = [] then .endOfFlags else .long (splitValue r).1 (splitValue r).2
    else if a = dash then .short (b :: r)
    else .plain
  | _ => .plain

end Word

/-- The state of reading: what is settled, the flag begun last with its value if that has come, and
whether flags have ended. -/
structure ArgumentScan where
  settled : Arguments
  pending : Option (Flag × Option Bytes)
  flagsEnded : Bool

namespace ArgumentScan

def start : ArgumentScan := ⟨Arguments.empty, none, false⟩

/-- Settles the flag begun last. -/
def settle (s : ArgumentScan) : Except ArgumentError ArgumentScan :=
  match s.pending with
  | none => .ok s
  | some (flag, none) => .error (.missingValue flag)
  | some (flag, some value) =>
    (s.settled.set flag value).map fun a => { s with settled := a, pending := none }

def plain (s : ArgumentScan) (word : Bytes) : Except ArgumentError ArgumentScan :=
  match s.pending with
  | some (flag, none) => .ok { s with pending := some (flag, some word) }
  | _ => .error (.unknown (Text.ofUtf8Lossy word))

def long (s : ArgumentScan) (name : Bytes) (value : Option Bytes) :
    Except ArgumentError ArgumentScan :=
  if name = Bytes.ofText "help" then
    match value with
    | some v => .error (.valueForHelp (Text.ofUtf8Lossy v))
    | none => do
      let _ ← s.settle
      .error .help
  else
    match Flag.ofName? name with
    | none => .error (.unknown ("--" ++ Text.ofUtf8Lossy name))
    | some flag => do
      let s ← s.settle
      match value with
      | none => .ok { s with pending := some (flag, none) }
      | some v => (s.settled.set flag v).map fun a => { s with settled := a }

def short (s : ArgumentScan) (letters : Bytes) : Except ArgumentError ArgumentScan :=
  match Text.decode letters with
  | .char 'h' :: _ => do
    let _ ← s.settle
    .error .help
  | .char c :: _ => .error (.unknown (String.ofList ['-', c]))
  | _ => .error (.unknown ("-" ++ Text.ofUtf8Lossy letters))

def step (s : ArgumentScan) (word : Bytes) : Except ArgumentError ArgumentScan :=
  if s.flagsEnded then .error (.unknown (Text.ofUtf8Lossy word))
  else
    match Word.ofBytes word with
    | .endOfFlags => .ok { s with flagsEnded := true }
    | .long name value => s.long name value
    | .short letters => s.short letters
    | .plain => s.plain word

end ArgumentScan

namespace Arguments

def parse (words : List Bytes) : Except ArgumentError Arguments := do
  let s ← words.foldlM ArgumentScan.step ArgumentScan.start
  let s ← s.settle
  s.settled.paired

end Arguments

namespace ArgumentError

def name : ArgumentError → String
  | .unknown _ => "UnknownArgument"
  | .missingValue _ => "InvalidValue"
  | .repeated _ => "ArgumentConflict"
  | .notText => "InvalidUtf8"
  | .valueForHelp _ => "TooManyValues"
  | .requires _ => "MissingRequiredArgument"
  | .help => "DisplayHelp"

def helpText : String :=
  "Command line arguments describing a [`FilesConfiguration`]. These are all optional\n\n"
  ++ "Usage: cmd [OPTIONS]\n\nOptions:\n"
  ++ "      --tls-protocol <TLS_PROTOCOL>  "
  ++ "TLS protocol to negotiate: TLS, TLSv1.2 or TLSv1.3. Defaults to TLS.\n"
  ++ "      --key-path <KEY_PATH>          "
  ++ "Path to TLS key in PEM format. If unset, no identity is presented to peers.\n"
  ++ "      --cert-path <CERT_PATH>        "
  ++ "Path to TLS certificate in PEM format. If unset, no identity is presented to peers.\n"
  ++ "      --cacert <CACERT>              "
  ++ "Path to TLS root certificate for verifying peers, in PEM format. "
  ++ "If unset, the system roots are used.\n"
  ++ "  -h, --help                         Print help"

def firstParagraph : List Char → List Char
  | '\n' :: '\n' :: _ => []
  | c :: r => c :: firstParagraph r
  | [] => []

def isBlank (c : Char) : Bool := c == ' ' || c == '\n' || c == '\t' || c == '\r' || c == '\x0c'

def headline (s : String) : String :=
  String.ofList ((firstParagraph s.toList).reverse.dropWhile isBlank).reverse

/-- The complaint without the advice that follows it, or the help itself. -/
def message : ArgumentError → String
  | .unknown word => headline ("error: unexpected argument '" ++ Text.shown word ++ "' found")
  | .missingValue f =>
    "error: a value is required for '" ++ f.usage ++ "' but none was supplied"
  | .repeated f => "error: the argument '" ++ f.usage ++ "' cannot be used multiple times"
  | .notText => "error: invalid UTF-8 was detected in one or more arguments"
  | .valueForHelp v =>
    headline ("error: unexpected value '" ++ Text.shown v ++ "' for '--help' found; no more were expected")
  | .requires f => "error: the following required arguments were not provided:\n  " ++ f.usage
  | .help => helpText

end ArgumentError

end TlsEndpoint
