import TlsEndpoint.Configuration
import TlsEndpoint.Context

/-! # Resolution

A configuration is resolved by asking collaborators: a platform for a provider and for default
trust, and the configured sources for identity and trust. Every answer may differ from call to
call, so a collaborator is the function from the number of earlier calls of its kind to its answer,
and a resolution keeps the list of calls it has made. At most three attempts are made:

* configured identity and configured trust, always;
* after a trust problem, configured identity and default trust;
* after an identity problem, no identity and configured trust;
* if the second attempt fails too, no identity, default trust and default versions.

Each resolution makes one record of how it went. -/
namespace TlsEndpoint

inductive Call where
  | provider
  | identity
  | trust
  | defaultTrust
  deriving DecidableEq, Repr

def Call.name : Call → String
  | .provider => "provider"
  | .identity => "identity"
  | .trust => "trust"
  | .defaultTrust => "default_trust"

/-- What the platform answers to its `n`-th calls, counted from zero. -/
structure Platform where
  provider : Nat → Option Provider
  defaultTrust : Nat → Except TrustError Anchors

/-- What the sources answer to their `n`-th calls. An identity is interpreted by a provider. -/
structure Sources (ι τ : Type) where
  identity : ι → Nat → Provider → Except IdentityError Identity
  trust : τ → Nat → Except TrustError Anchors

inductive Half where
  | configured
  | default
  deriving DecidableEq, Repr

inductive LogLevel where
  | debug
  | error
  deriving DecidableEq, Repr

def LogLevel.name : LogLevel → String
  | .debug => "DEBUG"
  | .error => "ERROR"

structure LogRecord where
  level : LogLevel
  message : String
  deriving DecidableEq, Repr

structure Resolution where
  context : Context
  records : List LogRecord
  calls : List Call

/-- The result of a part of a resolution, with all calls made until then. -/
abbrev Stage (ε α : Type) := Except ε α × List Call

section Attempt

variable {ι τ : Type}

def askProvider (platform : Platform) (calls : List Call) : Stage TrustError Provider :=
  match platform.provider (calls.count .provider) with
  | none => (.error (.engine .noCryptoProvider), calls ++ [.provider])
  | some p => (.ok p, calls ++ [.provider])

def askDefaultTrust (platform : Platform) (calls : List Call) : Stage TrustError Anchors :=
  (platform.defaultTrust (calls.count .defaultTrust), calls ++ [.defaultTrust])

def askIdentity (sources : Sources ι τ) (config : Configuration ι τ) (half : Half)
    (provider : Provider) (calls : List Call) : Stage IdentityError (Option Identity) :=
  match half, config.identity with
  | .default, _ => (.ok none, calls)
  | .configured, none => (.error .missing, calls)
  | .configured, some source =>
    ((sources.identity source (calls.count .identity) provider).map some, calls ++ [.identity])

def askTrust (platform : Platform) (sources : Sources ι τ) (config : Configuration ι τ)
    (half : Half) (calls : List Call) : Stage TrustError Anchors :=
  match half, config.trust with
  | .default, _ => askDefaultTrust platform calls
  | .configured, none => (.error .missing, calls)
  | .configured, some source =>
    (sources.trust source (calls.count .trust), calls ++ [.trust])

/-- One attempt: provider, versions, identity, trust, engine. A problem of the engine counts as a
problem of trust. -/
def attempt (platform : Platform) (sources : Sources ι τ) (config : Configuration ι τ)
    (identityHalf trustHalf : Half) (calls : List Call) : Stage MaterialError Engine :=
  match askProvider platform calls with
  | (.error e, calls) => (.error (.trust e), calls)
  | (.ok provider, calls) =>
    match config.protocol.versions with
    | .error e => (.error (.trust (.engine e)), calls)
    | .ok versions =>
      match askIdentity sources config identityHalf provider calls with
      | (.error e, calls) => (.error (.identity e), calls)
      | (.ok identity, calls) =>
        match askTrust platform sources config trustHalf calls with
        | (.error e, calls) => (.error (.trust e), calls)
        | (.ok anchors, calls) =>
          ((Engine.build provider versions identity anchors).mapError .trust, calls)

def defaultEngine (platform : Platform) (calls : List Call) : Stage TrustError Engine :=
  match askProvider platform calls with
  | (.error e, calls) => (.error e, calls)
  | (.ok provider, calls) =>
    match askDefaultTrust platform calls with
    | (.error e, calls) => (.error e, calls)
    | (.ok anchors, calls) => (Engine.build provider Version.defaults none anchors, calls)

end Attempt

namespace Resolution

variable {ι τ : Type}

def configuredMessage : String := "Creating TLS context with the given parameters"

def defaultTrustStoreMessage (cause : TrustError) : String :=
  "Creating TLS context with default truststore: " ++ cause.message

def defaultKeyStoreMessage (cause : IdentityError) : String :=
  "Creating TLS context with default keystore: " ++ cause.message

def platformDefaultMessage (reason : String) : String :=
  "Creating TLS context with default configuration: " ++ reason

def unusableMessage (cause : TrustError) : String :=
  "Failed to create a TLS context with default configuration: " ++ cause.message

def reason (cause : String) (retry : MaterialError) : String := cause ++ "; then " ++ retry.message

def succeed (engine : Engine) (outcome : Outcome) (message : String) (calls : List Call) :
    Resolution :=
  ⟨⟨some engine, outcome⟩, [⟨.debug, message⟩], calls⟩

/-- The last step, after the calls made so far. -/
def platformDefault (platform : Platform) (reason : String) (calls : List Call) : Resolution :=
  match defaultEngine platform calls with
  | (.ok engine, calls) => succeed engine .platformDefault (platformDefaultMessage reason) calls
  | (.error e, calls) => ⟨Context.unusable, [⟨.error, unusableMessage e⟩], calls⟩

end Resolution

def resolve {ι τ : Type} (platform : Platform) (sources : Sources ι τ)
    (config : Configuration ι τ) : Resolution :=
  match attempt platform sources config .configured .configured [] with
  | (.ok engine, calls) =>
    Resolution.succeed engine .configured Resolution.configuredMessage calls
  | (.error (.trust cause), calls) =>
    match attempt platform sources config .configured .default calls with
    | (.ok engine, calls) =>
      Resolution.succeed engine .defaultTrustStore
        (Resolution.defaultTrustStoreMessage cause) calls
    | (.error retry, calls) =>
      Resolution.platformDefault platform (Resolution.reason cause.message retry) calls
  | (.error (.identity cause), calls) =>
    match attempt platform sources config .default .configured calls with
    | (.ok engine, calls) =>
      Resolution.succeed engine .defaultKeyStore (Resolution.defaultKeyStoreMessage cause) calls
    | (.error retry, calls) =>
      Resolution.platformDefault platform (Resolution.reason cause.message retry) calls

/-! ## The running machine as a platform

The provider is the one that was installed for the process, or else the built-in one. Default trust
is what the certificate store of the operating system yields, or a root program that is built in
if the store yields nothing. It is determined when it is first asked for. -/

def octetsLe : Bytes → Bytes → Bool
  | [], _ => true
  | _ :: _, [] => false
  | a :: as, b :: bs => if a = b then octetsLe as bs else a < b

/-- Default trust as a process holds it: nothing until it is first asked for. -/
structure TrustCell where
  held : Option Anchors
  reads : Nat

def TrustCell.fresh : TrustCell := ⟨none, 0⟩

structure Machine where
  installed : Option Provider
  /-- What the certificate store yields when it is read for the `n`-th time. -/
  native : Nat → List Bytes
  rootProgram : Anchors

namespace Machine

def certificatesOfFile (text : Bytes) : List Bytes :=
  ((Pem.readableCertificates text).mergeSort octetsLe).eraseDups

def provider (m : Machine) : Provider := m.installed.getD Provider.default

/-- The anchors of the certificates that make one, or those of the root program. -/
def roots (rootProgram : Anchors) (native : List Bytes) : Anchors :=
  match Anchors.ofReadable native with
  | [] => rootProgram
  | anchors => anchors

/-- Default trust is asked for: the store is read unless something is held already. -/
def askTrust (m : Machine) (cell : TrustCell) : Anchors × TrustCell :=
  match cell.held with
  | some anchors => (anchors, cell)
  | none =>
    let anchors := roots m.rootProgram (m.native cell.reads)
    (anchors, ⟨some anchors, cell.reads + 1⟩)

def cellAfter (m : Machine) : Nat → TrustCell
  | 0 => .fresh
  | n + 1 => (m.askTrust (m.cellAfter n)).2

def platform (m : Machine) : Platform where
  provider := fun _ => some m.provider
  defaultTrust := fun n => .ok (m.askTrust (m.cellAfter n)).1

def structural : String := "TlsContextResolver \x7b platform: SystemPlatform \x7d"

end Machine

end TlsEndpoint
