import Mathlib.Tactic.SplitIfs
import Mathlib.Tactic.ByContra
import TlsEndpoint.Resolution

/-! # The course of one attempt

An attempt stops at the first part that is missing: provider, versions, identity, anchors, engine.
`Course` lists every way this can go with the answers that led there and the calls made, so that
nothing below it opens an attempt again. The last step of a resolution is an attempt as well, with
default halves and default versions. Answers are arbitrary and may change from call to call. -/
namespace TlsEndpoint

namespace Engine

def assemble (provider : Provider) (versions : List Version) (identity : Option Identity)
    (anchors : Anchors) : Engine :=
  ⟨⟨provider, versions, anchors, identity⟩, ⟨provider, versions, anchors, identity⟩, versions⟩

/-- The first objection to a set of parts. An identity cannot be objected to. -/
def objection? (provider : Provider) (versions : List Version) (anchors : Anchors) :
    Option EngineError :=
  if !provider.hasSuiteOf versions then
    some (.rejected (.general "no usable cipher suites configured"))
  else if provider.groups = [] then some (.rejected (.general "no kx groups configured"))
  else if anchors = [] then some .noAnchors
  else none

theorem build_eq (provider : Provider) (versions : List Version) (identity : Option Identity)
    (anchors : Anchors) :
    build provider versions identity anchors =
      match objection? provider versions anchors with
      | some e => .error (.engine e)
      | none => .ok (assemble provider versions identity anchors) := by
  unfold build buildClient buildServer checkVersions verifier objection? assemble
  by_cases hs : provider.hasSuiteOf versions
  · by_cases hg : provider.groups = []
    · simp [hs, hg, Except.map]
    · by_cases ha : anchors = [] <;> simp [hs, hg, ha, Except.map]
  · simp [hs, Except.map]

theorem objection_none_iff {provider : Provider} {versions : List Version} {anchors : Anchors} :
    objection? provider versions anchors = none ↔
      provider.hasSuiteOf versions = true ∧ provider.groups ≠ [] ∧ anchors ≠ [] := by
  unfold objection?
  split_ifs with hs hg ha <;> simp_all

/-- Where the provider serves the versions, only missing anchors are left to object to. -/
theorem no_anchors_of_objection {provider : Provider} {versions : List Version}
    {anchors : Anchors} {e : EngineError} (hs : provider.hasSuiteOf versions = true)
    (hg : provider.groups ≠ []) (h : objection? provider versions anchors = some e) :
    anchors = [] := by
  by_contra ha
  rw [objection_none_iff.mpr ⟨hs, hg, ha⟩] at h
  cases h

end Engine

theorem Provider.has_suite_of_iff {p : Provider} {vs : List Version} :
    p.hasSuiteOf vs = true ↔ ∃ s ∈ p.suites, s.version ∈ vs := by
  simp only [Provider.hasSuiteOf, List.any_eq_true, List.contains_iff_mem]

theorem Provider.has_suite_mono {p : Provider} {vs ws : List Version} (h : vs ⊆ ws)
    (hs : p.hasSuiteOf vs = true) : p.hasSuiteOf ws = true := by
  obtain ⟨s, hm, hv⟩ := Provider.has_suite_of_iff.mp hs
  exact Provider.has_suite_of_iff.mpr ⟨s, hm, h hv⟩

theorem Version.mem_defaults (v : Version) : v ∈ Version.defaults := by
  cases v <;> decide

namespace Half

variable {ι τ : Type}

def identity (sources : Sources ι τ) (config : Configuration ι τ) (half : Half) (n : Nat)
    (provider : Provider) : Except IdentityError (Option Identity) :=
  match half, config.identity with
  | .default, _ => .ok none
  | .configured, none => .error .missing
  | .configured, some source => (sources.identity source n provider).map some

def identityCalls (config : Configuration ι τ) (half : Half) : List Call :=
  match half, config.identity with
  | .configured, some _ => [.identity]
  | _, _ => []

def trust (platform : Platform) (sources : Sources ι τ) (config : Configuration ι τ) (half : Half)
    (before : List Call) : Except TrustError Anchors :=
  match half, config.trust with
  | .default, _ => platform.defaultTrust (before.count .defaultTrust)
  | .configured, none => .error .missing
  | .configured, some source => sources.trust source (before.count .trust)

def trustCalls (config : Configuration ι τ) (half : Half) : List Call :=
  match half, config.trust with
  | .default, _ => [.defaultTrust]
  | .configured, none => []
  | .configured, some _ => [.trust]

theorem configured_identity_ok_iff {sources : Sources ι τ} {config : Configuration ι τ} {n : Nat}
    {provider : Provider} {i : Option Identity} :
    Half.configured.identity sources config n provider = .ok i ↔
      ∃ source j, config.identity = some source ∧
        sources.identity source n provider = .ok j ∧ i = some j := by
  unfold identity
  cases config.identity with
  | none => simp
  | some source =>
    simp only [Option.some.injEq, exists_and_left, exists_eq_left']
    cases sources.identity source n provider with
    | error e => simp [Except.map]
    | ok j => simp [Except.map, eq_comm]

theorem configured_identity_error_iff {sources : Sources ι τ} {config : Configuration ι τ} {n : Nat}
    {provider : Provider} {e : IdentityError} :
    Half.configured.identity sources config n provider = .error e ↔
      (config.identity = none ∧ e = .missing) ∨
        ∃ source, config.identity = some source ∧
          sources.identity source n provider = .error e := by
  unfold identity
  cases config.identity with
  | none => simp [eq_comm]
  | some source =>
    simp only [Option.some.injEq, exists_eq_left', reduceCtorEq, false_and, false_or]
    cases sources.identity source n provider <;> simp [Except.map]

theorem not_mem_identity_calls (config : Configuration ι τ) (half : Half) {c : Call}
    (h : c ≠ .identity) : c ∉ half.identityCalls config := by
  unfold identityCalls
  split <;> simp [h]

theorem configured_trust_eq (platform : Platform) (sources : Sources ι τ)
    {config : Configuration ι τ} {source : τ} (h : config.trust = some source)
    (before : List Call) :
    Half.configured.trust platform sources config before =
      sources.trust source (before.count .trust) := by
  simp [trust, h]

theorem configured_trust_ok_iff {platform : Platform} {sources : Sources ι τ}
    {config : Configuration ι τ} {before : List Call} {a : Anchors} :
    Half.configured.trust platform sources config before = .ok a ↔
      ∃ source, config.trust = some source ∧
        sources.trust source (before.count .trust) = .ok a := by
  unfold trust
  cases config.trust <;> simp

theorem count_after_identity (config : Configuration ι τ) (half : Half) (before : List Call)
    {c : Call} (hp : c ≠ .provider) (hi : c ≠ .identity) :
    (before ++ .provider :: half.identityCalls config).count c = before.count c := by
  have h₀ := List.count_eq_zero.mpr (not_mem_identity_calls config half hi)
  simp [h₀, hp.symm]

theorem not_mem_trust_calls (config : Configuration ι τ) (half : Half) {c : Call}
    (ht : c ≠ .trust) (hd : c ≠ .defaultTrust) : c ∉ half.trustCalls config := by
  unfold trustCalls
  split <;> simp [ht, hd]

end Half

section Course

variable {ι τ : Type} (platform : Platform) (sources : Sources ι τ) (config : Configuration ι τ)

theorem ask_identity_eq (half : Half) (provider : Provider) (calls : List Call) :
    askIdentity sources config half provider calls =
      (half.identity sources config (calls.count .identity) provider,
        calls ++ half.identityCalls config) := by
  unfold askIdentity Half.identity Half.identityCalls
  cases half <;> cases config.identity <;> simp

theorem ask_trust_eq (half : Half) (calls : List Call) :
    askTrust platform sources config half calls =
      (half.trust platform sources config calls, calls ++ half.trustCalls config) := by
  unfold askTrust askDefaultTrust Half.trust Half.trustCalls
  cases half <;> cases config.trust <;> simp

/-- How an attempt can go after the calls in `before`, given what the protocol name enables. -/
inductive Course (enabled : Except EngineError (List Version)) (identityHalf trustHalf : Half)
    (before : List Call) : Stage MaterialError Engine → Prop where
  | noProvider (absent : platform.provider (before.count .provider) = none) :
      Course enabled identityHalf trustHalf before
        (.error (.trust (.engine .noCryptoProvider)), before ++ [.provider])
  | unsupported {p e} (present : platform.provider (before.count .provider) = some p)
      (unknown : enabled = .error e) :
      Course enabled identityHalf trustHalf before
        (.error (.trust (.engine e)), before ++ [.provider])
  | identityProblem {p vs e} (present : platform.provider (before.count .provider) = some p)
      (supported : enabled = .ok vs)
      (failed : identityHalf.identity sources config (before.count .identity) p = .error e) :
      Course enabled identityHalf trustHalf before
        (.error (.identity e), before ++ .provider :: identityHalf.identityCalls config)
  | trustProblem {p vs i e} (present : platform.provider (before.count .provider) = some p)
      (supported : enabled = .ok vs)
      (loaded : identityHalf.identity sources config (before.count .identity) p = .ok i)
      (failed : trustHalf.trust platform sources config before = .error e) :
      Course enabled identityHalf trustHalf before
        (.error (.trust e), before ++
          .provider :: (identityHalf.identityCalls config ++ trustHalf.trustCalls config))
  | rejected {p vs i a e} (present : platform.provider (before.count .provider) = some p)
      (supported : enabled = .ok vs)
      (loaded : identityHalf.identity sources config (before.count .identity) p = .ok i)
      (trusted : trustHalf.trust platform sources config before = .ok a)
      (objected : Engine.objection? p vs a = some e) :
      Course enabled identityHalf trustHalf before
        (.error (.trust (.engine e)), before ++
          .provider :: (identityHalf.identityCalls config ++ trustHalf.trustCalls config))
  | built {p vs i a} (present : platform.provider (before.count .provider) = some p)
      (supported : enabled = .ok vs)
      (loaded : identityHalf.identity sources config (before.count .identity) p = .ok i)
      (trusted : trustHalf.trust platform sources config before = .ok a)
      (accepted : Engine.objection? p vs a = none) :
      Course enabled identityHalf trustHalf before
        (.ok (Engine.assemble p vs i a), before ++
          .provider :: (identityHalf.identityCalls config ++ trustHalf.trustCalls config))

variable {platform sources config}

private theorem trust_after_identity (identityHalf trustHalf : Half) (before : List Call) :
    trustHalf.trust platform sources config
        (before ++ .provider :: identityHalf.identityCalls config) =
      trustHalf.trust platform sources config before := by
  unfold Half.trust
  rw [Half.count_after_identity config identityHalf before (by decide) (by decide),
    Half.count_after_identity config identityHalf before (by decide) (by decide)]

theorem attempt_course {identityHalf trustHalf : Half} {before : List Call}
    {s : Stage MaterialError Engine}
    (h : attempt platform sources config identityHalf trustHalf before = s) :
    Course platform sources config config.protocol.versions identityHalf trustHalf before s := by
  subst h
  unfold attempt askProvider
  cases present : platform.provider (before.count .provider) with
  | none => exact .noProvider present
  | some p =>
    dsimp only
    cases supported : config.protocol.versions with
    | error e => exact .unsupported present rfl
    | ok vs =>
      have hn : (before ++ [Call.provider]).count .identity = before.count .identity := by simp
      simp only [ask_identity_eq, hn, List.append_assoc, List.singleton_append]
      cases loaded : identityHalf.identity sources config (before.count .identity) p with
      | error e => exact .identityProblem present rfl loaded
      | ok i =>
        simp only [ask_trust_eq, trust_after_identity, List.append_assoc, List.cons_append]
        cases trusted : trustHalf.trust platform sources config before with
        | error e => exact .trustProblem present rfl loaded trusted
        | ok a =>
          simp only [Engine.build_eq]
          cases objected : Engine.objection? p vs a with
          | some e => exact .rejected present rfl loaded trusted objected
          | none => exact .built present rfl loaded trusted objected

/-- The last step as an attempt: its engine, and its failure seen as a problem of trust. -/
theorem default_engine_course (sources : Sources ι τ) (config : Configuration ι τ)
    {before calls : List Call} {r : Except TrustError Engine}
    (h : defaultEngine platform before = (r, calls)) :
    Course platform sources config (.ok Version.defaults) .default .default before
      (r.mapError .trust, calls) := by
  unfold defaultEngine askProvider at h
  cases present : platform.provider (before.count .provider) with
  | none =>
    simp only [present] at h
    cases h
    exact .noProvider present
  | some p =>
    have hd : (before ++ [Call.provider]).count .defaultTrust = before.count .defaultTrust := by
      simp
    simp only [present, askDefaultTrust, hd, List.append_assoc, List.singleton_append] at h
    cases trusted : platform.defaultTrust (before.count .defaultTrust) with
    | error e =>
      simp only [trusted] at h
      cases h
      exact .trustProblem present rfl rfl trusted
    | ok a =>
      simp only [trusted, Engine.build_eq] at h
      cases objected : Engine.objection? p Version.defaults a with
      | some e =>
        simp only [objected] at h
        cases h
        exact .rejected present rfl rfl trusted objected
      | none =>
        simp only [objected] at h
        cases h
        exact .built present rfl rfl trusted objected

/-- The last step has no use for sources, so it is also the attempt of one who has none. -/
theorem default_engine_course_alone {before calls : List Call} {r : Except TrustError Engine}
    (h : defaultEngine platform before = (r, calls)) :
    Course platform (⟨nofun, nofun⟩ : Sources Empty Empty) ⟨.default, none, none⟩
      (.ok Version.defaults) .default .default before (r.mapError .trust, calls) :=
  default_engine_course _ _ h

end Course

end TlsEndpoint
