import TlsEndpoint.Context
import TlsEndpoint.Verification.Chain

/-! # Handshakes

A client and a server are joined by a pipe. The server answers the client's hello with a version, a
group, a suite and its certificate chain; the client verifies the chain, the name it asked for and
that the server holds the key; if the client presents an identity the server does the same. After
its handshake the client sends a payload, which the server sends back. In the newer version a client
is finished before the server has judged it, so that it learns of a refusal only afterwards. -/
namespace TlsEndpoint

/-- What one side has after its handshake. The echo is what came back, or for a server what came. -/
structure Session where
  version : Version
  peer : Option (List Bytes)
  echo : Except HandshakeError Bytes

structure Handshake where
  client : Except HandshakeError Session
  server : Except HandshakeError (Session × Option String)

namespace Handshake

/-- A version is negotiated only if it is enabled and there is a suite of it. -/
def supports (provider : Provider) (versions : List Version) (v : Version) : Bool :=
  versions.contains v && provider.suites.any fun s => s.version == v

def shared (client : ClientConfig) (server : ServerConfig) (v : Version) : Bool :=
  supports client.provider client.versions v && supports server.provider server.versions v

def version? (client : ClientConfig) (server : ServerConfig) : Option Version :=
  if shared client server .tls13 then some .tls13
  else if shared client server .tls12 then some .tls12
  else none

def isUsableGroup (v : Version) (g : ExchangeGroup) : Bool := v == .tls13 || g.isClassic

def hasSharedGroup (v : Version) (client server : Provider) : Bool :=
  server.groups.any fun g =>
    isUsableGroup v g && client.groups.any fun h => h.name == g.name

def suits (keys : SuiteKeys) (algorithm : KeyAlgorithm) : Bool :=
  match keys with
  | .any => true
  | .ellipticCurve => algorithm != .rsa
  | .rsa => algorithm == .rsa

def hasSharedSuite (v : Version) (client server : Provider) (algorithm : KeyAlgorithm) : Bool :=
  server.suites.any fun s =>
    s.version == v && suits s.keys algorithm && client.suites.any fun t => t.name == s.name

def refusal? (client : ClientConfig) (server : ServerConfig) (v : Version) (key : SigningKey) :
    Option (TlsError × Alert) :=
  if !hasSharedGroup v client.provider server.provider then
    some (.peerIncompatible .noSharedGroup, .handshakeFailure)
  else if !hasSharedSuite v client.provider server.provider key.algorithm then
    some (.peerIncompatible .noSharedSuite, .handshakeFailure)
  else none

def answer (client : ClientConfig) (server : ServerConfig) (hello : Hello) :
    Except (TlsError × Alert) (Version × Identity) :=
  match version? client server with
  | none => .error (.peerIncompatible .olderVersionNotOffered, .protocolVersion)
  | some v =>
    match server.present hello with
    | none => .error (.general "no server certificate chain resolved", .accessDenied)
    | some identity =>
      match refusal? client server v identity.key with
      | some r => .error r
      | none => .ok (v, identity)

/-- Verifies a chain and that the peer holds the key of its first certificate. `andName` is checked
in between. -/
def verifyPeer (anchors : Anchors) (purpose : Purpose) (v : Version) (now : Instant)
    (peer : Identity) (andName : Certificate → Except CertificateFault Unit) :
    Except TlsError Unit :=
  match peer.chain with
  | [] => .error .noCertificatesPresented
  | first :: intermediates =>
    let result : Except CertificateFault Unit := do
      let leaf ← Certificate.parse .verification first
      let _ ← Chain.verify ⟨anchors, intermediates, now, purpose⟩ leaf
      andName leaf
      Signature.provesPossession v peer.key leaf.keyInfo
    result.mapError .invalidCertificate

def verifyServer (client : ClientConfig) (v : Version) (now : Instant) (name : ServerName)
    (peer : Identity) : Except TlsError Unit :=
  verifyPeer client.anchors .serverAuthentication v now peer fun leaf =>
    NameMatch.verifyName leaf name

/-- An empty chain counts as none, but then the proof that follows it is out of place. -/
def verifyClient (server : ServerConfig) (v : Version) (now : Instant) (peer : Identity) :
    Except TlsError Unit :=
  if peer.chain = [] then
    .error (if v = .tls13 then .proofWithoutCertificate else .proofBeforeCipher)
  else verifyPeer server.anchors .clientAuthentication v now peer fun _ => .ok ()

/-- The alert that goes with a refusal of the peer; none is sent for a chain that is missing. -/
def alertFor : TlsError → Option Alert
  | .invalidCertificate f => some f.alert
  | .proofWithoutCertificate | .proofBeforeCipher => some .unexpectedMessage
  | _ => none

def seen : Option Alert → HandshakeError
  | some a => .tls (.alertReceived a)
  | none => .closed

def finish (client : ClientConfig) (server : ServerConfig) (v : Version) (now : Instant)
    (hello : Hello) (serverIdentity : Identity) (payload : Bytes) : Handshake :=
  let presented := client.present [] hello.signatureSchemes
  let done (echo : Except HandshakeError Bytes) : Session := ⟨v, some serverIdentity.chain, echo⟩
  let verdict : Except TlsError Unit :=
    match presented with
    | none => .ok ()
    | some identity => verifyClient server v now identity
  match verdict with
  | .ok () =>
    ⟨.ok (done (.ok payload)),
      .ok (⟨v, presented.map Identity.chain, .ok payload⟩, hello.serverName)⟩
  | .error e =>
    let learned := seen (alertFor e)
    match v with
    | .tls13 => ⟨.ok (done (.error learned)), .error (.tls e)⟩
    | .tls12 => ⟨.error learned, .error (.tls e)⟩

def perform (client : ClientConfig) (server : ServerConfig) (name : ServerName) (now : Instant)
    (payload : Bytes) : Handshake :=
  let hello : Hello := ⟨name.indication?, []⟩
  match answer client server hello with
  | .error (e, alert) => ⟨.error (.tls (.alertReceived alert)), .error (.tls e)⟩
  | .ok (v, identity) =>
    match verifyServer client v now name identity with
    | .error e => ⟨.error (.tls e), .error (seen (alertFor e))⟩
    | .ok () => finish client server v now hello identity payload

/-- The client side over a pipe. The state of the stream is who holds its other end. -/
def toServer (now : Instant) (payload : Bytes) (connector : Connector) (name : ServerName)
    (peer : Option Acceptor) : Except HandshakeError Session × Option Acceptor :=
  match peer with
  | some acceptor => ((perform connector.config acceptor.config name now payload).client, peer)
  | none => (.error .closed, peer)

def toClient (name : ServerName) (now : Instant) (payload : Bytes) (acceptor : Acceptor)
    (peer : Option Connector) :
    Except HandshakeError (Session × Option String) × Option Connector :=
  match peer with
  | some connector => ((perform connector.config acceptor.config name now payload).server, peer)
  | none => (.error .closed, peer)

end Handshake

/-- Joins the client side of one context with the server side of another. A side that is unusable
fails at once, and the other finds the pipe closed. -/
def Context.handshake (client server : Context) (name : ServerName) (now : Instant)
    (payload : Bytes) : Handshake :=
  let near := client.clientSockets
  let far := server.serverSockets
  ⟨(near.connect (Handshake.toServer now payload) name far.acceptor).1,
    (far.accept (Handshake.toClient name now payload) near.connector).1⟩

end TlsEndpoint
