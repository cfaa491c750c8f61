import TlsEndpoint.Handshake
import TlsEndpoint.Proofs.Attempt
import TlsEndpoint.Proofs.Cascade

/-! # Reported and negotiated versions

A context reports the versions that its step of the resolution enabled. A handshake comes only to
those of them that the provider has a suite of. An engine needs a suite of one version, not of each,
so a context may report more than it negotiates; it never reports less. -/
namespace TlsEndpoint

namespace Handshake

theorem supports_iff {p : Provider} {vs : List Version} {v : Version} :
    supports p vs v = true ↔ v ∈ vs ∧ ∃ s ∈ p.suites, s.version = v := by
  simp [supports]

theorem shared_of_version {client : ClientConfig} {server : ServerConfig} {v : Version}
    (h : version? client server = some v) : shared client server v = true := by
  unfold version? at h
  split_ifs at h with h₁ h₂
  · cases h
    exact h₁
  · cases h
    exact h₂

theorem version_of_only_shared {client : ClientConfig} {server : ServerConfig} {v : Version}
    (h : shared client server v = true) (only : ∀ w, w ≠ v → shared client server w = false) :
    version? client server = some v := by
  cases v with
  | tls13 => simp [version?, h]
  | tls12 => simp [version?, h, only .tls13 (by decide)]

theorem supports_one {p : Provider} {vs : List Version} {v : Version}
    (h : supports p vs v = true) :
    supports p [v] v = true ∧ ∀ w, w ≠ v → supports p [v] w = false := by
  refine ⟨supports_iff.mpr ⟨List.mem_singleton_self v, (supports_iff.mp h).2⟩, fun w hw => ?_⟩
  simp [supports, hw]

/-- A peer that enables nothing else brings a client to any version it supports. -/
theorem client_version_iff {client : ClientConfig} {v : Version} :
    (∃ server, version? client server = some v) ↔
      supports client.provider client.versions v = true := by
  constructor
  · rintro ⟨server, h⟩
    have hs := shared_of_version h
    rw [shared, Bool.and_eq_true] at hs
    exact hs.1
  · intro h
    obtain ⟨one, only⟩ := supports_one h
    refine ⟨⟨client.provider, [v], [], none⟩, version_of_only_shared ?_ fun w hw => ?_⟩
    · rw [shared, h, one, Bool.and_self]
    · rw [shared, only w hw, Bool.and_false]

theorem server_version_iff {server : ServerConfig} {v : Version} :
    (∃ client, version? client server = some v) ↔
      supports server.provider server.versions v = true := by
  constructor
  · rintro ⟨client, h⟩
    have hs := shared_of_version h
    rw [shared, Bool.and_eq_true] at hs
    exact hs.2
  · intro h
    obtain ⟨one, only⟩ := supports_one h
    refine ⟨⟨server.provider, [v], [], none⟩, version_of_only_shared ?_ fun w hw => ?_⟩
    · rw [shared, h, one, Bool.and_self]
    · rw [shared, only w hw, Bool.false_and]

end Handshake

/-- There are peers with which either side of the engine comes to this version. -/
def Engine.Negotiates (e : Engine) (v : Version) : Prop :=
  (∃ peer, Handshake.version? e.client peer = some v) ∧
    ∃ peer, Handshake.version? peer e.server = some v

def Outcome.enabled (protocol : Protocol) : Outcome → Except EngineError (List Version)
  | .platformDefault => .ok Version.defaults
  | _ => protocol.versions

/-- The engine is for these versions throughout, and its provider serves them. -/
structure Engine.IsFor (e : Engine) (versions : List Version) : Prop where
  reported : e.versions = versions
  client : e.client.versions = versions
  server : e.server.versions = versions
  provider : e.server.provider = e.client.provider
  suite : e.client.provider.hasSuiteOf versions = true

namespace Engine.IsFor

variable {e : Engine} {vs : List Version}

theorem negotiates_iff (h : e.IsFor vs) (v : Version) :
    e.Negotiates v ↔ v ∈ vs ∧ ∃ s ∈ e.client.provider.suites, s.version = v := by
  rw [Engine.Negotiates, Handshake.client_version_iff, Handshake.server_version_iff, h.provider,
    h.client, h.server, and_self, Handshake.supports_iff]

theorem negotiates_some (h : e.IsFor vs) : ∃ v ∈ vs, e.Negotiates v := by
  obtain ⟨s, hm, hv⟩ := Provider.has_suite_of_iff.mp h.suite
  exact ⟨s.version, hv, (h.negotiates_iff _).mpr ⟨hv, s, hm, rfl⟩⟩

end Engine.IsFor

section Course

variable {ι τ : Type} {platform : Platform} {sources : Sources ι τ} {config : Configuration ι τ}
  {enabled : Except EngineError (List Version)} {identityHalf trustHalf : Half}
  {before calls : List Call} {engine : Engine}

theorem Course.engine_is_for
    (h : Course platform sources config enabled identityHalf trustHalf before (.ok engine, calls)) :
    ∃ vs, enabled = .ok vs ∧ engine.IsFor vs := by
  cases h with
  | @built p vs i a _ supported _ _ accepted =>
    exact ⟨vs, supported, rfl, rfl, rfl, rfl, (Engine.objection_none_iff.mp accepted).1⟩

theorem Cascade.engine_is_for {r : Resolution} (h : Cascade platform sources config r) :
    (r.context.engine = none ∧ r.context.outcome = .unusable) ∨
      ∃ e vs, r.context.engine = some e ∧ r.context.outcome ≠ .unusable ∧
        r.context.outcome.enabled config.protocol = .ok vs ∧ e.IsFor vs := by
  cases h with
  | configured first =>
    obtain ⟨vs, hv, hf⟩ := (attempt_course first).engine_is_for
    exact Or.inr ⟨_, vs, rfl, nofun, hv, hf⟩
  | defaultTrustStore first second =>
    obtain ⟨vs, hv, hf⟩ := (attempt_course second).engine_is_for
    exact Or.inr ⟨_, vs, rfl, nofun, hv, hf⟩
  | defaultKeyStore first second =>
    obtain ⟨vs, hv, hf⟩ := (attempt_course second).engine_is_for
    exact Or.inr ⟨_, vs, rfl, nofun, hv, hf⟩
  | platformDefault first second last =>
    obtain ⟨vs, hv, hf⟩ := (default_engine_course sources config last).engine_is_for
    exact Or.inr ⟨_, vs, rfl, nofun, hv, hf⟩
  | unusable => exact Or.inl ⟨rfl, rfl⟩

end Course

/-- The report is right exactly when no enabled version is without a suite. -/
theorem reported_versions_negotiated_iff {ι τ : Type} (platform : Platform)
    (sources : Sources ι τ) (config : Configuration ι τ) :
    let context := (resolve platform sources config).context
    (context.versions = [] ↔ context.outcome = .unusable) ∧
    ∀ e, context.engine = some e →
      context.outcome.enabled config.protocol = .ok context.versions ∧
      (∃ v ∈ context.versions, e.Negotiates v) ∧
      (∀ v, e.Negotiates v ↔
        v ∈ context.versions ∧ ∃ s ∈ e.client.provider.suites, s.version = v) ∧
      ((∀ v, v ∈ context.versions ↔ e.Negotiates v) ↔
        ∀ v ∈ context.versions, ∃ s ∈ e.client.provider.suites, s.version = v) := by
  intro context
  rcases (resolve_cascade platform sources config).engine_is_for with
    ⟨hn, ho⟩ | ⟨e, vs, he, ho, hv, hf⟩
  · have versions_eq : context.versions = [] := by
      rw [Context.versions, hn]
    refine ⟨iff_of_true versions_eq ho, fun e he => ?_⟩
    rw [hn] at he
    cases he
  · have versions_eq : context.versions = vs := by
      rw [Context.versions, he]
      exact hf.reported
    rw [versions_eq]
    constructor
    · obtain ⟨v, hm, -⟩ := hf.negotiates_some
      exact iff_of_false (List.ne_nil_of_mem hm) ho
    · intro e' he'
      rw [he] at he'
      cases he'
      refine ⟨hv, hf.negotiates_some, hf.negotiates_iff, ?_⟩
      simp only [hf.negotiates_iff, iff_self_and]

/-- A version that is enabled without any suite of it is reported all the same. -/
theorem suiteless_version_reported :
    let provider : Provider := ⟨[⟨"TLS13_AES_128_GCM_SHA256", .tls13, .any⟩], [⟨"X25519", true⟩],
      KeyPolicy.load.apply⟩
    let platform : Platform := ⟨fun _ => some provider, fun _ => .ok [⟨[1], [2], none⟩]⟩
    let sources : Sources Identity Anchors := ⟨fun i _ _ => .ok i, fun a _ => .ok a⟩
    let config : Configuration Identity Anchors := ⟨.default, none, none⟩
    let context := (resolve platform sources config).context
    context.outcome = .platformDefault ∧ Version.tls12 ∈ context.versions ∧
      ∃ e, context.engine = some e ∧ ¬ e.Negotiates .tls12 := by
  intro provider platform sources config context
  have suites : context.engine.map (fun e => e.client.provider.suites) = some provider.suites := by
    decide
  obtain ⟨e, he, hs⟩ := Option.map_eq_some_iff.mp suites
  refine ⟨by decide, by decide, e, he, ?_⟩
  rintro ⟨hc, -⟩
  obtain ⟨-, s, hm, hv⟩ := Handshake.supports_iff.mp (Handshake.client_version_iff.mp hc)
  rw [hs, List.mem_singleton] at hm
  subst hm
  cases hv

end TlsEndpoint
