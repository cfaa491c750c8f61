import TlsEndpoint.Material
import TlsEndpoint.Name

/-! # Contexts

A context is what a resolution ends in: an engine with the way it came about, or a placeholder
whose sockets refuse to work.

An engine is a client and a server configuration built from the same parts. Building one never looks
at the identity: it fails exactly when no suite fits the versions, when there are no groups, or when
there are no anchors, and in that order. Whether the groups fit the suites is not asked, since all
of them do: see the providers. -/
namespace TlsEndpoint

structure Hello where
  serverName : Option String
  signatureSchemes : List String
  deriving DecidableEq, Repr

structure ClientConfig where
  provider : Provider
  versions : List Version
  anchors : Anchors
  identity : Option Identity

structure ServerConfig where
  provider : Provider
  versions : List Version
  anchors : Anchors
  identity : Option Identity

structure Engine where
  client : ClientConfig
  server : ServerConfig
  versions : List Version

namespace ClientConfig

/-- The identity for a server with these issuer hints and schemes: the same for all. -/
def present (c : ClientConfig) (_issuers : List Bytes) (_schemes : List String) :
    Option Identity :=
  c.identity

def hasIdentity (c : ClientConfig) : Bool := c.identity.isSome

end ClientConfig

def ServerConfig.present (c : ServerConfig) (_hello : Hello) : Option Identity := c.identity

namespace Engine

/-- A provider serves versions if it has a suite of one of them and some group. -/
def checkVersions (provider : Provider) (versions : List Version) : Except EngineError Unit :=
  if !provider.hasSuiteOf versions then
    .error (.rejected (.general "no usable cipher suites configured"))
  else if provider.groups = [] then .error (.rejected (.general "no kx groups configured"))
  else .ok ()

def buildClient (provider : Provider) (versions : List Version) (anchors : Anchors)
    (identity : Option Identity) : Except EngineError ClientConfig :=
  (checkVersions provider versions).map fun () => ⟨provider, versions, anchors, identity⟩

def verifier (anchors : Anchors) : Except EngineError Anchors :=
  if anchors = [] then .error .noAnchors else .ok anchors

def buildServer (provider : Provider) (versions : List Version) (anchors : Anchors)
    (identity : Option Identity) : Except EngineError ServerConfig :=
  (checkVersions provider versions).map fun () => ⟨provider, versions, anchors, identity⟩

def build (provider : Provider) (versions : List Version) (identity : Option Identity)
    (anchors : Anchors) : Except TrustError Engine :=
  match buildClient provider versions anchors identity with
  | .error e => .error (.engine e)
  | .ok client =>
    match verifier anchors with
    | .error e => .error (.engine e)
    | .ok verified =>
      match buildServer provider versions verified identity with
      | .error e => .error (.engine e)
      | .ok server => .ok ⟨client, server, versions⟩

end Engine

/-- Where the parts of an engine came from. There is no default key store: in its place an endpoint
goes without an identity. -/
inductive Outcome where
  | configured
  | defaultTrustStore
  | defaultKeyStore
  | platformDefault
  | unusable
  deriving DecidableEq, Repr

def Outcome.name : Outcome → String
  | .configured => "Configured"
  | .defaultTrustStore => "DefaultTrustStore"
  | .defaultKeyStore => "DefaultKeyStore"
  | .platformDefault => "PlatformDefault"
  | .unusable => "Unusable"

structure Context where
  engine : Option Engine
  outcome : Outcome

namespace Context

def unusable : Context := ⟨none, .unusable⟩

def isUsable (c : Context) : Bool := c.engine.isSome

def versions (c : Context) : List Version :=
  match c.engine with
  | some e => e.versions
  | none => []

def client (c : Context) : Option ClientConfig := c.engine.map Engine.client

def server (c : Context) : Option ServerConfig := c.engine.map Engine.server

def unusableError : IoError :=
  .custom .other "TLS context is unusable: no default TLS configuration is available"

end Context

/-! ## Sockets

A context hands out a factory for each side of connections, and all that it hands out wrap the same
engine. A factory of an unusable context is empty: it has no connector and no acceptor, and it
refuses a stream without touching it. -/

inductive HandshakeError where
  | tls (cause : TlsError)
  | closed
  | unusable
  deriving DecidableEq, Repr

def HandshakeError.ioError : HandshakeError → IoError
  | .tls cause => .custom .invalidData cause.message
  | .closed => .custom .unexpectedEof "tls handshake eof"
  | .unusable => Context.unusableError

structure Connector where
  config : ClientConfig

structure Acceptor where
  config : ServerConfig

structure ClientSockets where
  config : Option ClientConfig

structure ServerSockets where
  config : Option ServerConfig

section Streams

variable {σ α : Type}

def ClientSockets.connector (sockets : ClientSockets) : Option Connector :=
  sockets.config.map Connector.mk

/-- A stream has a state in `σ`, and `shake` is what a connector's handshake does with it. -/
def ClientSockets.connect (sockets : ClientSockets)
    (shake : Connector → ServerName → σ → Except HandshakeError α × σ) (name : ServerName)
    (stream : σ) : Except HandshakeError α × σ :=
  match sockets.connector with
  | some connector => shake connector name stream
  | none => (.error .unusable, stream)

def ServerSockets.acceptor (sockets : ServerSockets) : Option Acceptor :=
  sockets.config.map Acceptor.mk

def ServerSockets.accept (sockets : ServerSockets)
    (shake : Acceptor → σ → Except HandshakeError α × σ) (stream : σ) :
    Except HandshakeError α × σ :=
  match sockets.acceptor with
  | some acceptor => shake acceptor stream
  | none => (.error .unusable, stream)

end Streams

def Context.clientSockets (c : Context) : ClientSockets := ⟨c.client⟩

def Context.serverSockets (c : Context) : ServerSockets := ⟨c.server⟩

end TlsEndpoint
