import TlsEndpoint.Handshake
import TlsEndpoint.Proofs.CertifiedPaths
import TlsEndpoint.Proofs.ContextParts
import TlsEndpoint.Proofs.Related

/-! # What a completed handshake guarantees

Both sides have come to one version that both enable; the client has verified the server's identity
for the name it asked for, under its own anchors; and if the client presented an identity, the
server has verified that under the anchors of its own. What the two contexts were resolved with
tells whose identities and anchors these are. -/
namespace TlsEndpoint

/-- The chain begins with this certificate and leads to one of the anchors. -/
def Certifies (anchors : Anchors) (now : Instant) (purpose : Purpose) (chain : List Bytes)
    (leaf : Certificate) : Prop :=
  ∃ first intermediates anchor path, chain = first :: intermediates ∧
    Certificate.parse .verification first = .ok leaf ∧
    Chain.Certified ⟨anchors, intermediates, now, purpose⟩ leaf anchor path

namespace Handshake

theorem verify_peer_ok {anchors : Anchors} {purpose : Purpose} {v : Version} {now : Instant}
    {peer : Identity} {andName : Certificate → Except CertificateFault Unit}
    (h : verifyPeer anchors purpose v now peer andName = .ok ()) :
    ∃ leaf, Certifies anchors now purpose peer.chain leaf ∧ andName leaf = .ok () := by
  unfold verifyPeer at h
  split at h
  · cases h
  · next first intermediates chain =>
    obtain ⟨leaf, parsed, checked⟩ := except_bind_ok_iff.mp (except_map_error_ok_iff.mp h)
    obtain ⟨anchor, verified, checked⟩ := except_bind_ok_iff.mp checked
    obtain ⟨⟨⟩, named, -⟩ := except_bind_ok_iff.mp checked
    obtain ⟨path, certified⟩ := Chain.certified_of_verify verified
    exact ⟨leaf, ⟨first, intermediates, anchor, path, chain, parsed, certified⟩, named⟩

theorem answer_ok {client : ClientConfig} {server : ServerConfig} {hello : Hello} {v : Version}
    {i : Identity} (h : answer client server hello = .ok (v, i)) :
    version? client server = some v ∧ server.identity = some i := by
  unfold answer at h
  split at h
  · cases h
  · next shared =>
    split at h
    · cases h
    · next presented =>
      split at h
      · cases h
      · cases h
        exact ⟨shared, presented⟩

theorem verify_client_ok {server : ServerConfig} {v : Version} {now : Instant} {peer : Identity}
    (h : verifyClient server v now peer = .ok ()) :
    ∃ leaf, Certifies server.anchors now .clientAuthentication peer.chain leaf := by
  unfold verifyClient at h
  split at h
  · cases h
  · obtain ⟨leaf, certifies, -⟩ := verify_peer_ok h
    exact ⟨leaf, certifies⟩

section Sides

variable {client : ClientConfig} {server : ServerConfig} {name : ServerName} {now : Instant}
  {payload : Bytes} {near far : Session} {asked : Option String}

theorem finish_ok {v : Version} {hello : Hello} {i : Identity}
    (hc : (finish client server v now hello i payload).client = .ok near)
    (hs : (finish client server v now hello i payload).server = .ok (far, asked)) :
    near.version = v ∧ near.peer = some i.chain ∧ far.version = v ∧
      far.peer = client.identity.map Identity.chain ∧
      ∀ j, client.identity = some j → verifyClient server v now j = .ok () := by
  unfold finish ClientConfig.present at hc hs
  dsimp only at hc hs
  cases presented : client.identity with
  | none =>
    rw [presented] at hc hs
    cases hc
    cases hs
    exact ⟨rfl, rfl, rfl, rfl, nofun⟩
  | some j =>
    rw [presented] at hc hs
    dsimp only at hc hs
    cases verdict : verifyClient server v now j with
    | error e =>
      rw [verdict] at hs
      cases v <;> cases hs
    | ok =>
      rw [verdict] at hc hs
      cases hc
      cases hs
      refine ⟨rfl, rfl, rfl, rfl, ?_⟩
      rintro _ ⟨⟩
      exact verdict

structure Completed (client : ClientConfig) (server : ServerConfig) (name : ServerName)
    (now : Instant) (near far : Session) : Prop where
  sameVersion : near.version = far.version
  negotiated : shared client server near.version = true
  serverVerified : ∃ i leaf, server.identity = some i ∧ near.peer = some i.chain ∧
    Certifies client.anchors now .serverAuthentication i.chain leaf ∧
    NameMatch.verifyName leaf name = .ok ()
  clientVerified : far.peer = none ∨ ∃ i leaf, client.identity = some i ∧
    far.peer = some i.chain ∧ Certifies server.anchors now .clientAuthentication i.chain leaf

theorem perform_completed
    (hc : (perform client server name now payload).client = .ok near)
    (hs : (perform client server name now payload).server = .ok (far, asked)) :
    Completed client server name now near far := by
  unfold perform at hc hs
  dsimp only at hc hs
  cases answered : answer client server ⟨name.indication?, []⟩ with
  | error refused =>
    rw [answered] at hc
    cases hc
  | ok agreed =>
    obtain ⟨v, i⟩ := agreed
    rw [answered] at hc hs
    dsimp only at hc hs
    cases verified : verifyServer client v now name i with
    | error e =>
      rw [verified] at hc
      cases hc
    | ok =>
      rw [verified] at hc hs
      obtain ⟨version, identity⟩ := answer_ok answered
      obtain ⟨leaf, certifies, named⟩ := verify_peer_ok verified
      obtain ⟨rfl, nearPeer, sameVersion, farPeer, judged⟩ := finish_ok hc hs
      refine ⟨sameVersion.symm, shared_of_version version,
        ⟨i, leaf, identity, nearPeer, certifies, named⟩, ?_⟩
      cases presented : client.identity with
      | none => exact Or.inl (farPeer.trans (by rw [presented]; rfl))
      | some j =>
        obtain ⟨leaf, certifies⟩ := verify_client_ok (judged j presented)
        exact Or.inr ⟨j, leaf, rfl, farPeer.trans (by rw [presented]; rfl), certifies⟩

theorem version_enabled {v : Version} (h : shared client server v = true) :
    v ∈ client.versions ∧ v ∈ server.versions := by
  rw [shared, Bool.and_eq_true] at h
  exact ⟨(supports_iff.mp h.1).1, (supports_iff.mp h.2).1⟩

end Sides

end Handshake

namespace Context

variable {c d : Context}

theorem handshake_completed {name : ServerName} {now : Instant} {payload : Bytes}
    {near far : Session} {asked : Option String}
    (hc : (c.handshake d name now payload).client = .ok near)
    (hs : (c.handshake d name now payload).server = .ok (far, asked)) :
    ∃ e f, c.engine = some e ∧ d.engine = some f ∧
      Handshake.Completed e.client f.server name now near far := by
  obtain ⟨_ | e, _⟩ := c
  · cases hc
  · obtain ⟨_ | f, _⟩ := d
    · cases hc
    · exact ⟨e, f, rfl, rfl, Handshake.perform_completed hc hs⟩

section Unusable

variable {σ α : Type} (stream : σ) (h : c.isUsable = false)
include h

theorem engine_none_of_unusable : c.engine = none := by
  rw [isUsable] at h
  exact Option.not_isSome_iff_eq_none.mp (Bool.eq_false_iff.mp h)

theorem connect_unusable (shake : Connector → ServerName → σ → Except HandshakeError α × σ)
    (name : ServerName) :
    c.clientSockets.connect shake name stream = (.error .unusable, stream) := by
  rw [ClientSockets.connect, ClientSockets.connector, clientSockets, client,
    engine_none_of_unusable h]
  rfl

theorem accept_unusable (shake : Acceptor → σ → Except HandshakeError α × σ) :
    c.serverSockets.accept shake stream = (.error .unusable, stream) := by
  rw [ServerSockets.accept, ServerSockets.acceptor, serverSockets, server,
    engine_none_of_unusable h]
  rfl

end Unusable

end Context

/-- `near` and `far` are what the client and the server have when both are done. -/
theorem completed_handshake_guarantees {ι τ ι' τ' : Type} (platform platform' : Platform)
    (sources : Sources ι τ) (sources' : Sources ι' τ') (config : Configuration ι τ)
    (config' : Configuration ι' τ') (name : ServerName) (now : Instant) (payload : Bytes) :
    let client := resolve platform sources config
    let server := resolve platform' sources' config'
    let h := client.context.handshake server.context name now payload
    (∀ near far asked, h.client = .ok near → h.server = .ok (far, asked) →
      client.context.isUsable = true ∧ server.context.isUsable = true ∧
      (server.context.outcome = .configured ∨ server.context.outcome = .defaultTrustStore) ∧
      near.version = far.version ∧
      near.version ∈ client.context.versions ∧ near.version ∈ server.context.versions ∧
      (∃ p i anchors leaf, LastIdentity platform' sources' config' server.calls p i ∧
        TrustFrom platform sources config client.calls client.context.outcome.trustHalf anchors ∧
        near.peer = some i.chain ∧
        Certifies anchors now .serverAuthentication i.chain leaf ∧
        NameMatch.verifyName leaf name = .ok ()) ∧
      (far.peer = none ∨
        (client.context.outcome = .configured ∨ client.context.outcome = .defaultTrustStore) ∧
        ∃ p i anchors leaf, LastIdentity platform sources config client.calls p i ∧
          TrustFrom platform' sources' config' server.calls server.context.outcome.trustHalf
            anchors ∧
          far.peer = some i.chain ∧
          Certifies anchors now .clientAuthentication i.chain leaf)) ∧
    (client.context.isUsable = false → h.client = .error .unusable ∧
      ∀ (σ α : Type) (shake : Connector → ServerName → σ → Except HandshakeError α × σ)
        (name : ServerName) (stream : σ),
        client.context.clientSockets.connect shake name stream = (.error .unusable, stream)) ∧
    (server.context.isUsable = false → h.server = .error .unusable ∧
      ∀ (σ α : Type) (shake : Acceptor → σ → Except HandshakeError α × σ) (stream : σ),
        server.context.serverSockets.accept shake stream = (.error .unusable, stream)) := by
  intro client server h
  refine ⟨?_, ?_, ?_⟩
  · intro near far asked hc hs
    obtain ⟨e, f, present, present', completed⟩ := Context.handshake_completed hc hs
    obtain ⟨p, vs, i, a, explained⟩ :=
      (resolve_cascade platform sources config).explained_of_engine present
    obtain ⟨p', vs', i', a', explained'⟩ :=
      (resolve_cascade platform' sources' config').explained_of_engine present'
    obtain ⟨sameVersion, negotiated, ⟨j, leaf, identity, peer, certifies, named⟩, judged⟩ :=
      completed
    obtain ⟨enabled, enabled'⟩ := Handshake.version_enabled negotiated
    rw [explained.made.client] at enabled certifies judged
    rw [explained'.made.server] at enabled' identity judged
    cases identity
    obtain ⟨configured, last⟩ := explained'.configured_identity
    refine ⟨Context.usable_of_engine present, Context.usable_of_engine present', configured,
      sameVersion, ?_, ?_, ⟨p', j, a, leaf, last, explained.trust, peer, certifies, named⟩, ?_⟩
    · rwa [Context.versions_of_engine present, explained.made.versions]
    · rwa [Context.versions_of_engine present', explained'.made.versions]
    · refine judged.imp_right ?_
      rintro ⟨k, theirs, presented, shown, approved⟩
      cases presented
      obtain ⟨configured, last⟩ := explained.configured_identity
      exact ⟨configured, p, k, a', theirs, last, explained'.trust, shown, approved⟩
  · intro unusable
    exact ⟨congrArg Prod.fst (Context.connect_unusable _ unusable _ _),
      fun _ _ shake name stream => Context.connect_unusable stream unusable shake name⟩
  · intro unusable
    exact ⟨congrArg Prod.fst (Context.accept_unusable _ unusable _),
      fun _ _ shake stream => Context.accept_unusable stream unusable shake⟩

-- An issuer whose modulus is the product of two primes, and what it has signed for one host.
def issuerOfHost : TrustAnchor :=
  ⟨Bytes.ofNat 13 0x310b300906035504030c026361,
    Bytes.ofNat 29 0x300d06092a864886f70d01010105000382010d00308201080282010100
      ++ Bytes.ofNat 256 ((Nat.pow 2 1024 - 179) * (Nat.pow 2 1024 - 1397))
      ++ [0x02, 0x01, 0x03], none⟩

def certificateOfHost : Bytes :=
  [0x308201a0308189a003020102020101300d06092a864886f70d01010b0500300d,
    0x310b300906035504030c026361301e170d3235303130313030303030305a170d,
    0x3439313233313233353935395a3000302a300506032b6570032100eadfad5998,
    0x29e820d4da8867448d6cc82197274b64668e9b9a3a572ed38ba482a313301130,
    0x0f0603551d11040830068204686f7374300d06092a864886f70d01010b050003,
    0x82010100a75b1ff984ca11f1f53094c8a5b719bacaa3221fd633efad31d354a6,
    0x231b3c7a5953896e50c39d923cade2cfac0036a3e87e901822642d5273346a84,
    0x85a7af9ec084d221bc2806f2d988d63bc34025d3bea25a2c0951d2e28e75f5e8,
    0x2e76b0b28df7b6ed89bed308e06770d8e2587d1468fc0f65c5fa68624e25892d,
    0xa5d5118a600696eed284a109abe01bbaf5841e279fd5a33916f9ba0a3e5e725d,
    0xcf8dbc3ad7d8d1f8b004131167f5e39b9c3c786d02177f50cfb1300f9b9642cc,
    0x504ae7d5aa2a8d0d97ffda644d257493f7b6bd94dba1a5d70920073a22bcba57,
    0x11eca107bf096f99fbc4306666acfc23a50a471bb144313d8e1c398e3c15a584].flatMap (Bytes.ofNat 32)
    ++ [0x5f, 0x85, 0x0f, 0x2b]

def identityOfHost : Identity :=
  ⟨[certificateOfHost], .ed25519 (Bytes.ofNat 32
    0xeadfad599829e820d4da8867448d6cc82197274b64668e9b9a3a572ed38ba482), false⟩

set_option maxRecDepth 100000 in
/-- The host speaks to itself, so that each side sees the other's certificate. -/
theorem host_handshake_completes :
    let platform : Platform := ⟨fun _ => some .default, fun _ => .ok [issuerOfHost]⟩
    let sources : Sources Identity Anchors := ⟨fun i _ _ => .ok i, fun a _ => .ok a⟩
    let config : Configuration Identity Anchors := ⟨.default, some identityOfHost, none⟩
    let now : Instant := 20260101000000
    let r := resolve platform sources config
    let h := r.context.handshake r.context (.dns "host") now []
    ∃ near far asked, h.client = .ok near ∧ h.server = .ok (far, asked) ∧
      near.version = far.version ∧ near.peer = some [certificateOfHost] ∧
      ∃ p i anchors leaf, LastIdentity platform sources config r.calls p i ∧
        TrustFrom platform sources config r.calls r.context.outcome.trustHalf anchors ∧
        far.peer = some i.chain ∧ Certifies anchors now .clientAuthentication i.chain leaf := by
  intro platform sources config now r h
  have seen : h.client.toOption.map Session.peer = some (some [certificateOfHost]) ∧
      h.server.toOption.map (fun s => s.1.peer) = some (some [certificateOfHost]) := by
    decide +kernel
  obtain ⟨near, client, nearPeer⟩ := Option.map_eq_some_iff.mp seen.1
  obtain ⟨⟨far, asked⟩, server, farPeer⟩ := Option.map_eq_some_iff.mp seen.2
  have hc : h.client = .ok near := except_ok_of_to_option client
  have hs : h.server = .ok (far, asked) := except_ok_of_to_option server
  obtain ⟨-, -, -, version, -, -, -, judged⟩ := (completed_handshake_guarantees platform platform
    sources sources config config (.dns "host") now []).1 near far asked hc hs
  refine ⟨near, far, asked, hc, hs, version, nearPeer, ?_⟩
  rcases judged with absent | ⟨-, approved⟩
  · cases absent.symm.trans farPeer
  · exact approved

end TlsEndpoint
