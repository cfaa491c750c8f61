import Mathlib.Order.Defs.PartialOrder
import TlsEndpoint.Proofs.DecisionTable

/-! # Better circumstances, no worse outcome

Outcomes are ordered by how much of what was configured they keep. Losing the configured trust and
losing the configured identity do not compare. Mending one part of a configuration, or enlarging
the provider, never leads to a lesser outcome, although it may lead along another path. -/
namespace TlsEndpoint

namespace Outcome

def rank : Outcome → Nat
  | .unusable => 0
  | .platformDefault => 1
  | .defaultTrustStore | .defaultKeyStore => 2
  | .configured => 3

/-- Different outcomes of one rank do not compare. -/
instance : PartialOrder Outcome where
  le o o' := o = o' ∨ o.rank < o'.rank
  le_refl o := Or.inl rfl
  le_trans := by
    rintro o o' o'' (rfl | h) (rfl | h')
    · exact Or.inl rfl
    · exact Or.inr h'
    · exact Or.inr h
    · exact Or.inr (Nat.lt_trans h h')
  le_antisymm := by
    rintro o o' (rfl | h) (h' | h')
    · rfl
    · rfl
    · exact h'.symm
    · exact absurd h' (Nat.lt_asymm h)

instance (o o' : Outcome) : Decidable (o ≤ o') :=
  inferInstanceAs (Decidable (o = o' ∨ o.rank < o'.rank))

example : ¬ defaultTrustStore ≤ defaultKeyStore ∧ ¬ defaultKeyStore ≤ defaultTrustStore := by
  decide

theorem unusable_le (o : Outcome) : unusable ≤ o := by
  cases o <;> decide

theorem platform_default_le {o : Outcome} (h : o ≠ .unusable) : platformDefault ≤ o := by
  cases o with
  | unusable => exact absurd rfl h
  | _ => decide

end Outcome

variable {ι ι' τ τ' : Type}

/-- Each part that is of use on the one side is of use on the other. -/
structure NoWorse (platform platform' : Platform) (sources : Sources ι τ)
    (sources' : Sources ι' τ') (config : Configuration ι τ) (config' : Configuration ι' τ') :
    Prop where
  provider : ∀ p, platform.provider 0 = some p →
    ∃ p', platform'.provider 0 = some p' ∧ p.suites ⊆ p'.suites ∧ p.groups ⊆ p'.groups
  versions : ∀ vs, config.protocol.versions = .ok vs →
    ∃ vs', config'.protocol.versions = .ok vs' ∧ vs ⊆ vs'
  identity : IdentityLoads platform sources config → IdentityLoads platform' sources' config'
  trust : TrustLoads sources config → TrustLoads sources' config'
  defaultTrust : DefaultTrustLoads platform → DefaultTrustLoads platform'

variable {platform platform' : Platform} {sources : Sources ι τ} {sources' : Sources ι' τ'}
  {config : Configuration ι τ} {config' : Configuration ι' τ'}

namespace NoWorse

theorem has_suite (h : NoWorse platform platform' sources sources' config config')
    {vs vs' : List Version} (hv : vs ⊆ vs') (hs : HasSuite platform vs) :
    HasSuite platform' vs' := by
  obtain ⟨p, hp, s, hm, hs⟩ := hs
  obtain ⟨p', hp', suites, -⟩ := h.provider p hp
  exact ⟨p', hp', s, suites hm, hv hs⟩

theorem has_group (h : NoWorse platform platform' sources sources' config config')
    (hg : HasGroup platform) : HasGroup platform' := by
  obtain ⟨p, hp, g, hm⟩ := hg
  obtain ⟨p', hp', -, groups⟩ := h.provider p hp
  exact ⟨p', hp', g, groups hm⟩

theorem identity_serves (h : NoWorse platform platform' sources sources' config config')
    {half : Half} (hi : IdentityServes platform sources config half) :
    IdentityServes platform' sources' config' half := by
  cases half with
  | configured => exact h.identity hi
  | default => trivial

theorem trust_serves (h : NoWorse platform platform' sources sources' config config')
    {half : Half} (ht : TrustServes platform sources config half) :
    TrustServes platform' sources' config' half := by
  cases half with
  | configured => exact h.trust ht
  | default => exact h.defaultTrust ht

theorem serves (h : NoWorse platform platform' sources sources' config config')
    {enabled enabled' : Except EngineError (List Version)}
    (hv : ∀ vs, enabled = .ok vs → ∃ vs', enabled' = .ok vs' ∧ vs ⊆ vs')
    {identityHalf trustHalf : Half}
    (hs : Serves platform sources config enabled identityHalf trustHalf) :
    Serves platform' sources' config' enabled' identityHalf trustHalf := by
  obtain ⟨p, hp⟩ := hs.provider
  obtain ⟨p', hp', -⟩ := h.provider p hp
  obtain ⟨vs, supported⟩ := hs.supported
  obtain ⟨vs', supported', hsub⟩ := hv vs supported
  have suite := hs.suite
  subst supported supported'
  exact {
    provider := ⟨p', hp'⟩
    supported := ⟨vs', rfl⟩
    suite := h.has_suite hsub suite
    group := h.has_group hs.group
    identity := h.identity_serves hs.identity
    trust := h.trust_serves hs.trust }

end NoWorse

/-- An outcome is at least any whose attempt would come off. -/
theorem Decided.outcome_le {o o' : Outcome} (h' : Decided platform' sources' config' o')
    (h : Decided platform sources config o)
    (tried : ∀ identityHalf trustHalf,
      Serves platform sources config config.protocol.versions identityHalf trustHalf →
      Serves platform' sources' config' config'.protocol.versions identityHalf trustHalf)
    (last : Serves platform sources config (.ok Version.defaults) .default .default →
      Serves platform' sources' config' (.ok Version.defaults) .default .default) :
    o ≤ o' := by
  cases o with
  | configured =>
    have full : Decided platform' sources' config' .configured := tried _ _ h
    exact Or.inl (decided_unique full h')
  | defaultTrustStore =>
    have kept := tried _ _ h.2
    cases o' with
    | configured => decide
    | defaultTrustStore => exact le_rfl
    | defaultKeyStore => exact absurd (kept.exchange h'.2) h'.1
    | platformDefault => exact absurd kept h'.2.1
    | unusable => exact absurd kept h'.2.1
  | defaultKeyStore =>
    have kept := tried _ _ h.2
    cases o' with
    | configured => decide
    | defaultTrustStore => exact absurd (h'.2.exchange kept) h'.1
    | defaultKeyStore => exact le_rfl
    | platformDefault => exact absurd kept h'.2.2.1
    | unusable => exact absurd kept h'.2.2.1
  | platformDefault =>
    refine Outcome.platform_default_le ?_
    rintro rfl
    exact h'.2.2.2 (last h.2.2.2)
  | unusable => exact Outcome.unusable_le o'

theorem outcome_mono (steady : Steady platform sources config)
    (steady' : Steady platform' sources' config')
    (better : NoWorse platform platform' sources sources' config config') :
    (resolve platform sources config).context.outcome ≤
      (resolve platform' sources' config').context.outcome := by
  refine steady'.decided.outcome_le steady.decided (fun _ _ => better.serves better.versions) ?_
  refine better.serves fun vs hv => ⟨Version.defaults, rfl, ?_⟩
  cases hv
  exact List.Subset.refl _

/-- Suites for the older version and an unrestricted name bring both halves into use. -/
theorem enlarged_provider_keeps_more :
    let old : Provider := ⟨[⟨"TLS13_AES_128_GCM_SHA256", .tls13, .any⟩], [⟨"X25519", true⟩],
      KeyPolicy.load.apply⟩
    let platform (p : Provider) : Platform := ⟨fun _ => some p, fun _ => .ok [⟨[1], [2], none⟩]⟩
    let sources : Sources Identity Anchors := ⟨fun i _ _ => .ok i, fun a _ => .ok a⟩
    let config (name : String) : Configuration Identity Anchors :=
      ⟨⟨name⟩, some ⟨[], ⟨.ed25519 [], false⟩⟩, some [⟨[1], [2], none⟩]⟩
    let outcome (p : Provider) (name : String) :=
      (resolve (platform p) sources (config name)).context.outcome
    NoWorse (platform old) (platform .default) sources sources (config "TLSv1.2")
        (config "Default") ∧
      outcome old "TLSv1.2" = .platformDefault ∧ outcome .default "Default" = .configured ∧
      outcome old "TLSv1.2" ≤ outcome .default "Default" := by
  intro old platform sources config outcome
  have steady : ∀ p name, Steady (platform p) sources (config name) :=
    fun _ _ => ⟨fun _ => rfl, fun _ _ _ _ => rfl, fun _ _ _ => rfl, fun _ => rfl⟩
  have unrestricted : (config "Default").protocol.versions = .ok Version.defaults := by
    simp [config, Protocol.versions, Protocol.recognised, Protocol.sameLetters]
  have better : NoWorse (platform old) (platform .default) sources sources (config "TLSv1.2")
      (config "Default") := by
    refine ⟨?_, fun vs _ => ⟨_, unrestricted, fun v _ => v.mem_defaults⟩, ?_, id, id⟩
    · rintro p ⟨⟩
      exact ⟨.default, rfl, by decide, by decide⟩
    · rintro ⟨source, p, i, hs, hp, hi⟩
      exact ⟨source, .default, i, hs, rfl, hi⟩
  exact ⟨better, by decide, by decide, outcome_mono (steady _ _) (steady _ _) better⟩

end TlsEndpoint
