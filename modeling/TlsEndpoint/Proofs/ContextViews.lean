import TlsEndpoint.Context
import TlsEndpoint.Proofs.ContextParts

/-! # The views of a context agree

Usable is what an outcome, a list of versions, a configuration, a connector or an acceptor can all
tell, and they tell the same. An engine around no anchors is never built, even though only the side
of the server objects to them: the whole attempt fails, and the resolution moves on. -/
namespace TlsEndpoint

namespace Context

variable {c : Context}

theorem connector_is_some : c.clientSockets.connector.isSome = c.isUsable := by
  simp [clientSockets, ClientSockets.connector, client, isUsable]

theorem acceptor_is_some : c.serverSockets.acceptor.isSome = c.isUsable := by
  simp [serverSockets, ServerSockets.acceptor, server, isUsable]

theorem client_config_is_some : c.clientSockets.config.isSome = c.isUsable := by
  simp [clientSockets, client, isUsable]

theorem server_config_is_some : c.serverSockets.config.isSome = c.isUsable := by
  simp [serverSockets, server, isUsable]

end Context

theorem context_views_agree {ι τ : Type} (platform : Platform) (sources : Sources ι τ)
    (config : Configuration ι τ) :
    let c := (resolve platform sources config).context
    (c.isUsable = true ↔ c.outcome ≠ .unusable) ∧
    (c.isUsable = true ↔ c.versions ≠ []) ∧
    (c.isUsable = true ↔ c.clientSockets.config.isSome = true) ∧
    (c.isUsable = true ↔ c.clientSockets.connector.isSome = true) ∧
    (c.isUsable = true ↔ c.serverSockets.config.isSome = true) ∧
    (c.isUsable = true ↔ c.serverSockets.acceptor.isSome = true) ∧
    ∀ connector acceptor, c.clientSockets.connector = some connector →
      c.serverSockets.acceptor = some acceptor →
      connector.config.anchors ≠ [] ∧ acceptor.config.anchors ≠ [] ∧
      ∃ i : Option Identity,
        (∀ issuers schemes, connector.config.present issuers schemes = i) ∧
        (∀ hello, acceptor.config.present hello = i) ∧
        (connector.config.hasIdentity = true ↔ i.isSome = true) ∧
        (i.isSome = true ↔ c.outcome = .configured ∨ c.outcome = .defaultTrustStore) := by
  intro c
  rw [Context.client_config_is_some, Context.connector_is_some,
    Context.server_config_is_some, Context.acceptor_is_some]
  rcases (resolve_cascade platform sources config).engine_explained with
    ⟨absent, ho⟩ | ⟨e, p, vs, i, a, present, ho, explained⟩
  · have unusable : c.isUsable ≠ true := by
      rw [Context.isUsable, absent]
      exact Bool.false_ne_true
    refine ⟨iff_of_false unusable (not_not_intro ho), iff_of_false unusable ?_, Iff.rfl, Iff.rfl,
      Iff.rfl, Iff.rfl, fun connector _ hc _ => ?_⟩
    · rw [Context.versions, absent]
      exact not_not_intro rfl
    · rw [Context.clientSockets, Context.client, absent] at hc
      cases hc
  · have usable : c.isUsable = true := Context.usable_of_engine present
    refine ⟨iff_of_true usable ho, iff_of_true usable ?_, Iff.rfl, Iff.rfl, Iff.rfl, Iff.rfl, ?_⟩
    · rw [Context.versions_of_engine present, explained.made.versions]
      exact explained.versions_ne_nil
    · intro connector acceptor hc hs
      rw [Context.clientSockets, Context.client, present] at hc
      rw [Context.serverSockets, Context.server, present] at hs
      cases hc
      cases hs
      have client := explained.made.client
      have server := explained.made.server
      refine ⟨?_, ?_, i, ?_, ?_, ?_, explained.identity_is_some_iff⟩
      · rw [client]
        exact explained.anchors_ne_nil
      · rw [server]
        exact explained.anchors_ne_nil
      · intro issuers schemes
        rw [ClientConfig.present, client]
      · intro hello
        rw [ServerConfig.present, server]
      · rw [client, ClientConfig.hasIdentity]

/-- The configured store of anchors is empty, and is passed over. -/
theorem empty_anchors_passed_over :
    let platform : Platform := ⟨fun _ => some .default, fun _ => .ok [⟨[1], [2], none⟩]⟩
    let sources : Sources Identity Anchors := ⟨fun i _ _ => .ok i, fun a _ => .ok a⟩
    let config : Configuration Identity Anchors :=
      ⟨.default, some ⟨[], ⟨.ed25519 [], false⟩⟩, some []⟩
    let c := (resolve platform sources config).context
    c.outcome = .defaultTrustStore ∧ ∃ connector acceptor,
      c.clientSockets.connector = some connector ∧ c.serverSockets.acceptor = some acceptor ∧
      connector.config.anchors ≠ [] ∧ acceptor.config.anchors ≠ [] ∧
      connector.config.hasIdentity = true := by
  intro platform sources config c
  have outcome : c.outcome = .defaultTrustStore := by decide
  obtain ⟨usable, -, -, connects, -, accepts, general⟩ :=
    context_views_agree platform sources config
  have served : c.isUsable = true := usable.mpr (by rw [outcome]; decide)
  obtain ⟨connector, hc⟩ := Option.isSome_iff_exists.mp (connects.mp served)
  obtain ⟨acceptor, hs⟩ := Option.isSome_iff_exists.mp (accepts.mp served)
  obtain ⟨near, far, i, -, -, has, configured⟩ := general connector acceptor hc hs
  exact ⟨outcome, connector, acceptor, hc, hs, near, far, has.mpr (configured.mpr (Or.inr outcome))⟩

end TlsEndpoint
