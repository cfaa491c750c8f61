import Mathlib.Tactic.Tauto
import TlsEndpoint.Proofs.Cascade

/-! # The outcome of steady collaborators

If every collaborator answers each call as it did the first, then a few conditions on the first
answers decide the outcome. Steadiness concerns the answers only; nothing is assumed about what
they are, and a source may well answer differently to different providers. -/
namespace TlsEndpoint

variable {ι τ : Type}

/-- Each call is answered like the first of its kind. -/
structure Steady (platform : Platform) (sources : Sources ι τ) (config : Configuration ι τ) :
    Prop where
  provider : ∀ n, platform.provider n = platform.provider 0
  identity : ∀ source, config.identity = some source → ∀ n p,
    sources.identity source n p = sources.identity source 0 p
  trust : ∀ source, config.trust = some source → ∀ n,
    sources.trust source n = sources.trust source 0
  defaultTrust : ∀ n, platform.defaultTrust n = platform.defaultTrust 0

def HasProvider (platform : Platform) : Prop := ∃ p, platform.provider 0 = some p

def HasSuite (platform : Platform) (versions : List Version) : Prop :=
  ∃ p, platform.provider 0 = some p ∧ ∃ s ∈ p.suites, s.version ∈ versions

def HasGroup (platform : Platform) : Prop :=
  ∃ p, platform.provider 0 = some p ∧ ∃ g, g ∈ p.groups

def Supported (enabled : Except EngineError (List Version)) : Prop := ∃ vs, enabled = .ok vs

def versionsOf (enabled : Except EngineError (List Version)) : List Version :=
  enabled.toOption.getD []

def IdentityLoads (platform : Platform) (sources : Sources ι τ) (config : Configuration ι τ) :
    Prop :=
  ∃ source p i, config.identity = some source ∧ platform.provider 0 = some p ∧
    sources.identity source 0 p = .ok i

def TrustLoads (sources : Sources ι τ) (config : Configuration ι τ) : Prop :=
  ∃ source a, config.trust = some source ∧ sources.trust source 0 = .ok a ∧ a ≠ []

def DefaultTrustLoads (platform : Platform) : Prop :=
  ∃ a, platform.defaultTrust 0 = .ok a ∧ a ≠ []

section Attempt

variable (platform : Platform) (sources : Sources ι τ) (config : Configuration ι τ)

def IdentityServes : Half → Prop
  | .configured => IdentityLoads platform sources config
  | .default => True

def TrustServes : Half → Prop
  | .configured => TrustLoads sources config
  | .default => DefaultTrustLoads platform

/-- All that an attempt with these halves needs. -/
structure Serves (enabled : Except EngineError (List Version)) (identityHalf trustHalf : Half) :
    Prop where
  provider : HasProvider platform
  supported : Supported enabled
  suite : HasSuite platform (versionsOf enabled)
  group : HasGroup platform
  identity : IdentityServes platform sources config identityHalf
  trust : TrustServes platform sources config trustHalf

variable {platform sources config}

theorem has_suite_iff {p : Provider} {versions : List Version}
    (hp : platform.provider 0 = some p) :
    HasSuite platform versions ↔ p.hasSuiteOf versions = true := by
  simp [HasSuite, hp, Provider.has_suite_of_iff]

theorem has_group_iff {p : Provider} (hp : platform.provider 0 = some p) :
    HasGroup platform ↔ p.groups ≠ [] := by
  simp [HasGroup, hp, List.eq_nil_iff_forall_not_mem]

theorem identity_serves_iff {half : Half} {p : Provider} (hp : platform.provider 0 = some p) :
    IdentityServes platform sources config half ↔
      ∃ i, half.identity sources config 0 p = .ok i := by
  cases half with
  | default => simp [IdentityServes, Half.identity]
  | configured =>
    simp only [IdentityServes, IdentityLoads, Half.configured_identity_ok_iff, hp]
    constructor
    · rintro ⟨source, q, j, hs, hq, hj⟩
      cases hq
      exact ⟨some j, source, j, hs, hj, rfl⟩
    · rintro ⟨_, source, j, hs, hj, -⟩
      exact ⟨source, p, j, hs, rfl, hj⟩

theorem trust_serves_iff {half : Half} :
    TrustServes platform sources config half ↔
      ∃ a, half.trust platform sources config [] = .ok a ∧ a ≠ [] := by
  cases half with
  | default => simp [TrustServes, DefaultTrustLoads, Half.trust]
  | configured =>
    simp only [TrustServes, TrustLoads, Half.configured_trust_ok_iff]
    constructor
    · rintro ⟨source, a, hs, ha, hne⟩
      exact ⟨a, ⟨source, hs, ha⟩, hne⟩
    · rintro ⟨a, ⟨source, hs, ha⟩, hne⟩
      exact ⟨source, a, hs, ha, hne⟩

variable {enabled : Except EngineError (List Version)} {identityHalf trustHalf : Half}
  {before calls : List Call}

theorem Steady.identity_eq (h : Steady platform sources config) (half : Half) (n : Nat)
    (p : Provider) :
    half.identity sources config n p = half.identity sources config 0 p := by
  unfold Half.identity
  split
  · rfl
  · rfl
  · next source hs => rw [h.identity source hs n p]

theorem Steady.trust_eq (h : Steady platform sources config) (half : Half) (before : List Call) :
    half.trust platform sources config before = half.trust platform sources config [] := by
  unfold Half.trust
  split
  · rw [h.defaultTrust]; rfl
  · rfl
  · next source hs => rw [h.trust source hs]; rfl

theorem Steady.serves_of_built {engine : Engine} (h : Steady platform sources config)
    (hc : Course platform sources config enabled identityHalf trustHalf before
      (.ok engine, calls)) :
    Serves platform sources config enabled identityHalf trustHalf := by
  cases hc with
  | @built p vs i a present supported loaded trusted accepted =>
    rw [h.provider] at present
    rw [h.identity_eq] at loaded
    rw [h.trust_eq] at trusted
    obtain ⟨hs, hg, ha⟩ := Engine.objection_none_iff.mp accepted
    subst supported
    exact {
      provider := ⟨p, present⟩
      supported := ⟨vs, rfl⟩
      suite := (has_suite_iff present).mpr hs
      group := (has_group_iff present).mpr hg
      identity := (identity_serves_iff present).mpr ⟨i, loaded⟩
      trust := trust_serves_iff.mpr ⟨a, trusted, ha⟩ }

theorem Steady.identity_fails {e : IdentityError} (h : Steady platform sources config)
    (hc : Course platform sources config enabled identityHalf trustHalf before
      (.error (.identity e), calls)) :
    ¬ IdentityServes platform sources config identityHalf := by
  cases hc with
  | identityProblem present _ failed =>
    rw [h.provider] at present
    rw [h.identity_eq] at failed
    intro hi
    obtain ⟨i, hi⟩ := (identity_serves_iff present).mp hi
    rw [failed] at hi
    cases hi

/-- A problem of trust would have been met without any identity just the same. -/
theorem Steady.trust_fails {e : TrustError} (h : Steady platform sources config)
    (hc : Course platform sources config enabled identityHalf trustHalf before
      (.error (.trust e), calls)) :
    ¬ Serves platform sources config enabled .default trustHalf := by
  rintro ⟨⟨q, hq⟩, ⟨ws, hw⟩, hs, hg, -, ht⟩
  obtain ⟨b, hb, hne⟩ := trust_serves_iff.mp ht
  subst hw
  cases hc with
  | noProvider absent =>
    rw [h.provider, hq] at absent
    cases absent
  | unsupported _ unknown => cases unknown
  | trustProblem _ _ _ failed =>
    rw [h.trust_eq, hb] at failed
    cases failed
  | rejected present supported _ trusted objected =>
    rw [h.provider] at present
    rw [h.trust_eq, hb] at trusted
    cases trusted
    cases supported
    exact hne (Engine.no_anchors_of_objection ((has_suite_iff present).mp hs)
      ((has_group_iff present).mp hg) objected)

theorem serves_iff :
    Serves platform sources config enabled identityHalf trustHalf ↔
      HasProvider platform ∧ Supported enabled ∧ HasSuite platform (versionsOf enabled) ∧
        HasGroup platform ∧ IdentityServes platform sources config identityHalf ∧
        TrustServes platform sources config trustHalf := by
  constructor
  · rintro ⟨provider, supported, suite, group, identity, trust⟩
    exact ⟨provider, supported, suite, group, identity, trust⟩
  · rintro ⟨provider, supported, suite, group, identity, trust⟩
    exact ⟨provider, supported, suite, group, identity, trust⟩

theorem Serves.without_identity
    (h : Serves platform sources config enabled identityHalf trustHalf) :
    Serves platform sources config enabled .default trustHalf :=
  { h with identity := trivial }

/-- An attempt may take either half from another that would come off. -/
theorem Serves.exchange {identityHalf' trustHalf' : Half}
    (h : Serves platform sources config enabled identityHalf trustHalf')
    (h' : Serves platform sources config enabled identityHalf' trustHalf) :
    Serves platform sources config enabled identityHalf trustHalf :=
  { h with trust := h'.trust }

theorem Steady.not_serves_of_failed {f : MaterialError} (h : Steady platform sources config)
    (hc : Course platform sources config enabled identityHalf trustHalf before (.error f, calls)) :
    ¬ Serves platform sources config enabled identityHalf trustHalf := by
  intro hs
  cases f with
  | identity e => exact h.identity_fails hc hs.identity
  | trust e => exact h.trust_fails hc hs.without_identity

end Attempt

section Resolution

variable (platform : Platform) (sources : Sources ι τ) (config : Configuration ι τ)

/-- What holds of the four possible attempts when a resolution has this outcome. -/
def Decided : Outcome → Prop :=
  let tried := Serves platform sources config config.protocol.versions
  let last := Serves platform sources config (.ok Version.defaults) .default .default
  fun
  | .configured => tried .configured .configured
  | .defaultTrustStore => ¬ tried .configured .configured ∧ tried .configured .default
  | .defaultKeyStore => ¬ tried .configured .configured ∧ tried .default .configured
  | .platformDefault => ¬ tried .configured .configured ∧ ¬ tried .configured .default ∧
      ¬ tried .default .configured ∧ last
  | .unusable => ¬ tried .configured .configured ∧ ¬ tried .configured .default ∧
      ¬ tried .default .configured ∧ ¬ last

variable {platform sources config}

private theorem both_attempts_failed (h : Steady platform sources config)
    {failure retry : MaterialError} {between late : List Call}
    (first : attempt platform sources config .configured .configured [] =
      (.error failure, between))
    (second : attempt platform sources config failure.identityHalf failure.trustHalf between =
      (.error retry, late)) :
    ¬ Serves platform sources config config.protocol.versions .configured .configured ∧
    ¬ Serves platform sources config config.protocol.versions .configured .default ∧
    ¬ Serves platform sources config config.protocol.versions .default .configured := by
  have h₁ := attempt_course first
  have h₂ := h.not_serves_of_failed (attempt_course second)
  refine ⟨h.not_serves_of_failed h₁, ?_⟩
  cases failure with
  | identity e => exact ⟨fun hs => h.identity_fails h₁ hs.identity, h₂⟩
  | trust e => exact ⟨h₂, h.trust_fails h₁⟩

theorem Steady.decided (h : Steady platform sources config) :
    Decided platform sources config (resolve platform sources config).context.outcome := by
  have hc := resolve_cascade platform sources config
  generalize resolve platform sources config = r at hc
  cases hc with
  | configured first => exact h.serves_of_built (attempt_course first)
  | defaultTrustStore first second =>
    exact ⟨h.not_serves_of_failed (attempt_course first), h.serves_of_built (attempt_course second)⟩
  | defaultKeyStore first second =>
    exact ⟨h.not_serves_of_failed (attempt_course first), h.serves_of_built (attempt_course second)⟩
  | platformDefault first second last =>
    obtain ⟨h₁, h₂, h₃⟩ := both_attempts_failed h first second
    exact ⟨h₁, h₂, h₃, h.serves_of_built (default_engine_course _ _ last)⟩
  | unusable first second last =>
    obtain ⟨h₁, h₂, h₃⟩ := both_attempts_failed h first second
    exact ⟨h₁, h₂, h₃, h.not_serves_of_failed (default_engine_course _ _ last)⟩

theorem decided_unique {o o' : Outcome} (h : Decided platform sources config o)
    (h' : Decided platform sources config o') : o = o' := by
  have both : Serves platform sources config config.protocol.versions .configured .default →
      Serves platform sources config config.protocol.versions .default .configured →
      Serves platform sources config config.protocol.versions .configured .configured :=
    fun hi ht => hi.exchange ht
  cases o <;> cases o' <;> simp only [Decided] at h h' <;> tauto

theorem Steady.outcome_eq_iff (h : Steady platform sources config) (o : Outcome) :
    (resolve platform sources config).context.outcome = o ↔
      Decided platform sources config o := by
  constructor
  · rintro rfl
    exact h.decided
  · exact decided_unique h.decided

theorem outcome_decision_table (h : Steady platform sources config) :
    let outcome := (resolve platform sources config).context.outcome
    let P := HasProvider platform
    let V := Supported config.protocol.versions
    let S := HasSuite platform
    let versions := versionsOf config.protocol.versions
    let G := HasGroup platform
    let I := IdentityLoads platform sources config
    let T := TrustLoads sources config
    let D := DefaultTrustLoads platform
    let configured := P ∧ V ∧ S versions ∧ G ∧ I ∧ T
    let defaultTrustStore := P ∧ V ∧ S versions ∧ G ∧ I ∧ ¬ T ∧ D
    let defaultKeyStore := P ∧ V ∧ S versions ∧ G ∧ ¬ I ∧ T
    let platformDefault := ¬ configured ∧ ¬ defaultTrustStore ∧ ¬ defaultKeyStore ∧
      P ∧ G ∧ D ∧ S Version.defaults
    (outcome = .configured ↔ configured) ∧
    (outcome = .defaultTrustStore ↔ defaultTrustStore) ∧
    (outcome = .defaultKeyStore ↔ defaultKeyStore) ∧
    (outcome = .platformDefault ↔ platformDefault) ∧
    (outcome = .unusable ↔
      ¬ configured ∧ ¬ defaultTrustStore ∧ ¬ defaultKeyStore ∧ ¬ platformDefault) := by
  intro outcome P V S versions G I T D configured defaultTrustStore defaultKeyStore platformDefault
  have full : Serves platform sources config config.protocol.versions .configured .configured ↔
      configured := serves_iff
  have last : Serves platform sources config (.ok Version.defaults) .default .default ↔
      P ∧ G ∧ D ∧ S Version.defaults := by
    rw [serves_iff]
    constructor
    · rintro ⟨hP, -, hS, hG, -, hD⟩
      exact ⟨hP, hG, hD, hS⟩
    · rintro ⟨hP, hG, hD, hS⟩
      exact ⟨hP, ⟨_, rfl⟩, hS, hG, trivial, hD⟩
  have row₂ : ¬ Serves platform sources config config.protocol.versions .configured .configured ∧
      Serves platform sources config config.protocol.versions .configured .default ↔
      defaultTrustStore := by
    rw [full, serves_iff]
    constructor
    · rintro ⟨hn, hP, hV, hS, hG, hI, hD⟩
      exact ⟨hP, hV, hS, hG, hI, fun hT => hn ⟨hP, hV, hS, hG, hI, hT⟩, hD⟩
    · rintro ⟨hP, hV, hS, hG, hI, hT, hD⟩
      exact ⟨fun h => hT h.2.2.2.2.2, hP, hV, hS, hG, hI, hD⟩
  have row₃ : ¬ Serves platform sources config config.protocol.versions .configured .configured ∧
      Serves platform sources config config.protocol.versions .default .configured ↔
      defaultKeyStore := by
    rw [full, serves_iff]
    constructor
    · rintro ⟨hn, hP, hV, hS, hG, -, hT⟩
      exact ⟨hP, hV, hS, hG, fun hI => hn ⟨hP, hV, hS, hG, hI, hT⟩, hT⟩
    · rintro ⟨hP, hV, hS, hG, hI, hT⟩
      exact ⟨fun h => hI h.2.2.2.2.1, hP, hV, hS, hG, trivial, hT⟩
  have h₁ : outcome = .configured ↔ configured := (h.outcome_eq_iff _).trans full
  have h₂ : outcome = .defaultTrustStore ↔ defaultTrustStore := (h.outcome_eq_iff _).trans row₂
  have h₃ : outcome = .defaultKeyStore ↔ defaultKeyStore := (h.outcome_eq_iff _).trans row₃
  have h₄ : outcome = .platformDefault ↔ platformDefault := by
    refine (h.outcome_eq_iff _).trans ?_
    simp only [Decided, platformDefault, ← full, ← row₂, ← row₃, ← last]
    constructor
    · rintro ⟨hn, hi, ht, hl⟩
      exact ⟨hn, fun h => hi h.2, fun h => ht h.2, hl⟩
    · rintro ⟨hn, hi, ht, hl⟩
      exact ⟨hn, fun h => hi ⟨hn, h⟩, fun h => ht ⟨hn, h⟩, hl⟩
  refine ⟨h₁, h₂, h₃, h₄, ?_⟩
  rw [← h₁, ← h₂, ← h₃, ← h₄]
  cases outcome <;> simp

/-- Both halves load here, but the provider has no suite of the configured version. -/
theorem unserved_version_uses_defaults :
    let provider : Provider := ⟨[⟨"TLS13_AES_128_GCM_SHA256", .tls13, .any⟩],
      ExchangeGroup.defaults, KeyPolicy.load.apply⟩
    let anchors : Anchors := [⟨[1], [2], none⟩]
    let platform : Platform := ⟨fun _ => some provider, fun _ => .ok anchors⟩
    let sources : Sources Identity Anchors := ⟨fun i _ _ => .ok i, fun a _ => .ok a⟩
    let config : Configuration Identity Anchors :=
      ⟨⟨"TLSv1.2"⟩, some ⟨[], ⟨.ed25519 [], false⟩⟩, some anchors⟩
    Steady platform sources config ∧
      (resolve platform sources config).context.outcome = .platformDefault := by
  intro provider anchors platform sources config
  have steady : Steady platform sources config :=
    ⟨fun _ => rfl, fun _ _ _ _ => rfl, fun _ _ _ => rfl, fun _ => rfl⟩
  have unserved : ¬ HasSuite platform (versionsOf config.protocol.versions) := by
    rw [has_suite_iff rfl]
    decide
  refine ⟨steady, (outcome_decision_table steady).2.2.2.1.mpr ⟨?_, ?_, ?_, ?_⟩⟩
  · exact fun h => unserved h.2.2.1
  · exact fun h => unserved h.2.2.1
  · exact fun h => unserved h.2.2.1
  · refine ⟨⟨provider, rfl⟩, (has_group_iff rfl).mpr (by decide), ⟨anchors, rfl, by decide⟩, ?_⟩
    exact (has_suite_iff rfl).mpr (by decide)

end Resolution

end TlsEndpoint
