import TlsEndpoint.Proofs.Negotiation
import TlsEndpoint.Proofs.Provenance

/-! # What a usable context is made of

The outcome of a resolution tells for each half whether the engine has the configured one or the
default. One description of the engine holds for all four usable outcomes. -/
namespace TlsEndpoint

namespace Outcome

def identityHalf : Outcome → Half
  | .configured | .defaultTrustStore => .configured
  | .defaultKeyStore | .platformDefault | .unusable => .default

def trustHalf : Outcome → Half
  | .configured | .defaultKeyStore => .configured
  | .defaultTrustStore | .platformDefault | .unusable => .default

theorem identity_half_configured_iff {o : Outcome} :
    o.identityHalf = .configured ↔ o = .configured ∨ o = .defaultTrustStore := by
  cases o <;> decide

end Outcome

namespace Context

variable {c : Context} {e : Engine}

theorem usable_of_engine (h : c.engine = some e) : c.isUsable = true := by
  rw [isUsable, h]
  rfl

theorem versions_of_engine (h : c.engine = some e) : c.versions = e.versions := by
  rw [versions, h]

end Context

section Parts

variable {ι τ : Type} (platform : Platform) (sources : Sources ι τ) (config : Configuration ι τ)

/-- The engine of a resolution with this outcome and these calls, part by part. -/
structure Engine.Explained (outcome : Outcome) (calls : List Call) (e : Engine) (p : Provider)
    (vs : List Version) (i : Option Identity) (a : Anchors) : Prop where
  made : e.MadeOf p vs i a
  provider : LastProvider platform calls p
  enabled : outcome.enabled config.protocol = .ok vs
  identity : IdentityFrom platform sources config calls p outcome.identityHalf i
  trust : TrustFrom platform sources config calls outcome.trustHalf a
  accepted : objection? p vs a = none

variable {platform sources config}

theorem Course.explained (outcome : Outcome) {before calls : List Call} {engine : Engine}
    (h : Course platform sources config (outcome.enabled config.protocol) outcome.identityHalf
      outcome.trustHalf before (.ok engine, calls)) :
    ∃ p vs i a, engine.Explained platform sources config outcome calls p vs i a := by
  obtain ⟨p, vs, i, a, made, provider, supported, identity, trust⟩ := h.parts
  cases h with
  | built _ _ _ _ accepted =>
    -- Both descriptions are of the same engine, so they name the same parts.
    cases made.client
    exact ⟨_, _, _, _, made, provider, supported, identity, trust, accepted⟩

theorem Cascade.engine_explained {r : Resolution} (h : Cascade platform sources config r) :
    (r.context.engine = none ∧ r.context.outcome = .unusable) ∨
      ∃ e p vs i a, r.context.engine = some e ∧ r.context.outcome ≠ .unusable ∧
        e.Explained platform sources config r.context.outcome r.calls p vs i a := by
  cases h with
  | configured first =>
    obtain ⟨p, vs, i, a, explained⟩ := Course.explained .configured (attempt_course first)
    exact Or.inr ⟨_, p, vs, i, a, rfl, nofun, explained⟩
  | defaultTrustStore first second =>
    obtain ⟨p, vs, i, a, explained⟩ := Course.explained .defaultTrustStore (attempt_course second)
    exact Or.inr ⟨_, p, vs, i, a, rfl, nofun, explained⟩
  | defaultKeyStore first second =>
    obtain ⟨p, vs, i, a, explained⟩ := Course.explained .defaultKeyStore (attempt_course second)
    exact Or.inr ⟨_, p, vs, i, a, rfl, nofun, explained⟩
  | platformDefault first second last =>
    have course := default_engine_course sources config last
    obtain ⟨p, vs, i, a, explained⟩ := Course.explained .platformDefault course
    exact Or.inr ⟨_, p, vs, i, a, rfl, nofun, explained⟩
  | unusable => exact Or.inl ⟨rfl, rfl⟩

theorem Cascade.explained_of_engine {r : Resolution} {e : Engine}
    (h : Cascade platform sources config r) (present : r.context.engine = some e) :
    ∃ p vs i a, e.Explained platform sources config r.context.outcome r.calls p vs i a := by
  rcases h.engine_explained with ⟨absent, -⟩ | ⟨f, p, vs, i, a, found, -, explained⟩
  · rw [present] at absent
    cases absent
  · rw [present] at found
    cases found
    exact ⟨p, vs, i, a, explained⟩

namespace Engine.Explained

variable {outcome : Outcome} {calls : List Call} {e : Engine} {p : Provider} {vs : List Version}
  {i : Option Identity} {a : Anchors}

theorem anchors_ne_nil (h : e.Explained platform sources config outcome calls p vs i a) :
    a ≠ [] :=
  (objection_none_iff.mp h.accepted).2.2

theorem versions_ne_nil (h : e.Explained platform sources config outcome calls p vs i a) :
    vs ≠ [] := by
  rintro rfl
  have served := (objection_none_iff.mp h.accepted).1
  simp [Provider.hasSuiteOf] at served

theorem identity_is_some_iff (h : e.Explained platform sources config outcome calls p vs i a) :
    i.isSome ↔ outcome = .configured ∨ outcome = .defaultTrustStore := by
  rw [← Outcome.identity_half_configured_iff]
  have found := h.identity
  cases half : outcome.identityHalf with
  | configured =>
    rw [half] at found
    obtain ⟨j, rfl, -⟩ := found
    exact iff_of_true rfl rfl
  | default =>
    rw [half] at found
    cases found
    exact iff_of_false nofun nofun

theorem configured_identity {j : Identity}
    (h : e.Explained platform sources config outcome calls p vs (some j) a) :
    (outcome = .configured ∨ outcome = .defaultTrustStore) ∧
      LastIdentity platform sources config calls p j := by
  have configured := h.identity_is_some_iff.mp rfl
  have found := h.identity
  rw [Outcome.identity_half_configured_iff.mpr configured] at found
  obtain ⟨_, same, last⟩ := found
  cases same
  exact ⟨configured, last⟩

end Engine.Explained

end Parts

end TlsEndpoint
