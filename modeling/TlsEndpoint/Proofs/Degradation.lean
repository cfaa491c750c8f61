import TlsEndpoint.Proofs.Cascade

/-! # One half does not degrade the other

On a platform that serves the configured versions throughout, whatever a resolution replaces by
defaults has itself failed. Sources may fail now and work later, so a failure is always that of one
call made in this very resolution, or the source is not configured at all. -/
namespace TlsEndpoint

/-- An answer that is a failure, or no anchors at all. -/
def Unfit (answer : Except TrustError Anchors) : Prop :=
  (∃ e, answer = .error e) ∨ answer = .ok []

section Fault

variable {ι τ : Type} (sources : Sources ι τ) (config : Configuration ι τ)

/-- No trust is configured, or it was asked for among these calls and its answer was unfit. -/
def TrustAtFault (calls : List Call) : Prop :=
  config.trust = none ∨ ∃ before source, Made calls before .trust ∧
    config.trust = some source ∧ Unfit (sources.trust source (before.count .trust))

/-- No identity is configured, or it failed to load with this provider among these calls. -/
def IdentityAtFault (p : Provider) (calls : List Call) : Prop :=
  config.identity = none ∨ ∃ before source e, Made calls before .identity ∧
    config.identity = some source ∧
    sources.identity source (before.count .identity) p = .error e

variable {sources config}

theorem TrustAtFault.later {calls more : List Call} (h : TrustAtFault sources config calls) :
    TrustAtFault sources config (calls ++ more) := by
  rcases h with h | ⟨before, source, hm, hs⟩
  · exact Or.inl h
  · exact Or.inr ⟨before, source, hm.later, hs⟩

theorem IdentityAtFault.later {p : Provider} {calls more : List Call}
    (h : IdentityAtFault sources config p calls) :
    IdentityAtFault sources config p (calls ++ more) := by
  rcases h with h | ⟨before, source, e, hm, hs⟩
  · exact Or.inl h
  · exact Or.inr ⟨before, source, e, hm.later, hs⟩

end Fault

section Course

variable {ι τ : Type} {platform : Platform} {sources : Sources ι τ} {config : Configuration ι τ}
  {enabled : Except EngineError (List Version)} {identityHalf trustHalf : Half}
  {before calls : List Call} {p : Provider} {vs : List Version}

structure Served (platform : Platform) (p : Provider) (versions : List Version) : Prop where
  provider : ∀ n, platform.provider n = some p
  suite : p.hasSuiteOf versions = true
  group : p.groups ≠ []

theorem Served.defaults (h : Served platform p vs) : Served platform p Version.defaults :=
  { h with suite := Provider.has_suite_mono (fun v _ => v.mem_defaults) h.suite }

theorem Course.trust_fit {engine : Engine}
    (hc : Course platform sources config enabled identityHalf trustHalf before
      (.ok engine, calls)) :
    ¬ Unfit (trustHalf.trust platform sources config before) := by
  cases hc with
  | built _ _ _ trusted accepted =>
    have ha := (Engine.objection_none_iff.mp accepted).2.2
    rw [trusted]
    rintro (⟨e, he⟩ | he)
    · cases he
    · cases he
      exact ha rfl

/-- Where the versions are served, an attempt fails for its identity or for its anchors alone. -/
inductive ServedCourse (platform : Platform) (sources : Sources ι τ) (config : Configuration ι τ)
    (p : Provider) (identityHalf trustHalf : Half) (before : List Call) :
    Except MaterialError Engine → List Call → Prop where
  | noIdentity {e}
      (failed : identityHalf.identity sources config (before.count .identity) p = .error e) :
      ServedCourse platform sources config p identityHalf trustHalf before (.error (.identity e))
        (before ++ .provider :: identityHalf.identityCalls config)
  | noTrust {i e}
      (loaded : identityHalf.identity sources config (before.count .identity) p = .ok i)
      (unfit : Unfit (trustHalf.trust platform sources config before)) :
      ServedCourse platform sources config p identityHalf trustHalf before (.error (.trust e))
        (before ++ .provider :: (identityHalf.identityCalls config ++ trustHalf.trustCalls config))
  | built {i engine}
      (loaded : identityHalf.identity sources config (before.count .identity) p = .ok i)
      (fit : ¬ Unfit (trustHalf.trust platform sources config before)) :
      ServedCourse platform sources config p identityHalf trustHalf before (.ok engine)
        (before ++ .provider :: (identityHalf.identityCalls config ++ trustHalf.trustCalls config))

theorem Course.served {x : Except MaterialError Engine} (h : Served platform p vs)
    (hc : Course platform sources config (.ok vs) identityHalf trustHalf before (x, calls)) :
    ServedCourse platform sources config p identityHalf trustHalf before x calls := by
  have same : ∀ {q}, platform.provider (before.count .provider) = some q → q = p := by
    intro q hq
    rw [h.provider] at hq
    cases hq
    rfl
  have fit : ∀ {engine}, x = .ok engine →
      ¬ Unfit (trustHalf.trust platform sources config before) := by
    rintro engine rfl
    exact hc.trust_fit
  cases hc with
  | noProvider absent =>
    rw [h.provider] at absent
    cases absent
  | unsupported _ unknown => cases unknown
  | identityProblem present _ failed =>
    cases same present
    exact .noIdentity failed
  | trustProblem present _ loaded failed =>
    cases same present
    exact .noTrust loaded (Or.inl ⟨_, failed⟩)
  | rejected present supported loaded trusted objected =>
    cases same present
    cases supported
    rw [Engine.no_anchors_of_objection h.suite h.group objected] at trusted
    exact .noTrust loaded (Or.inr trusted)
  | built present _ loaded =>
    cases same present
    exact .built loaded (fit rfl)

theorem Course.unfit_of_trust_error {e : TrustError} (h : Served platform p vs)
    (hc : Course platform sources config (.ok vs) identityHalf trustHalf before
      (.error (.trust e), calls)) :
    Unfit (trustHalf.trust platform sources config before) ∧
      calls = before ++
        .provider :: (identityHalf.identityCalls config ++ trustHalf.trustCalls config) := by
  cases hc.served h with
  | noTrust _ unfit => exact ⟨unfit, rfl⟩

theorem Course.trust_at_fault {e : TrustError} (h : Served platform p vs)
    (hc : Course platform sources config (.ok vs) identityHalf .configured before
      (.error (.trust e), calls)) :
    TrustAtFault sources config calls := by
  obtain ⟨hu, rfl⟩ := hc.unfit_of_trust_error h
  cases hs : config.trust with
  | none => exact Or.inl hs
  | some source =>
    have made := (Half.configured_trust_last_made hs identityHalf before).made
    refine Or.inr ⟨_, source, made, hs, ?_⟩
    rw [Half.count_after_identity config identityHalf before (by decide) (by decide)]
    rwa [Half.configured_trust_eq platform sources hs] at hu

theorem Course.default_trust_at_fault {e : TrustError} (h : Served platform p vs)
    (hc : Course platform sources config (.ok vs) identityHalf .default before
      (.error (.trust e), calls)) :
    ∃ before, LastMade calls before .defaultTrust ∧
      Unfit (platform.defaultTrust (before.count .defaultTrust)) := by
  obtain ⟨hu, rfl⟩ := hc.unfit_of_trust_error h
  refine ⟨_, Half.default_trust_last_made config identityHalf before, ?_⟩
  rw [Half.count_after_identity config identityHalf before (by decide) (by decide)]
  exact hu

theorem Course.identity_at_fault {e : IdentityError} (h : Served platform p vs)
    (hc : Course platform sources config enabled identityHalf trustHalf before
      (.error (.identity e), calls)) :
    IdentityAtFault sources config p calls := by
  cases hc with
  | identityProblem present _ failed =>
    rw [h.provider] at present
    cases present
    cases identityHalf with
    | default => cases failed
    | configured =>
      rcases Half.configured_identity_error_iff.mp failed with ⟨hn, -⟩ | ⟨source, hs, he⟩
      · exact Or.inl hn
      · refine Or.inr ⟨before ++ [.provider], source, e, ⟨[], ?_⟩, hs, ?_⟩
        · simp [Half.identityCalls, hs]
        · simpa using he

theorem Course.default_trust_fit {engine : Engine}
    (hc : Course platform sources config enabled identityHalf .default before
      (.ok engine, calls)) :
    ¬ Unfit (platform.defaultTrust (before.count .defaultTrust)) :=
  hc.trust_fit

private theorem trust_at_fault_of_failures {failure retry : MaterialError}
    {between late : List Call} (h : Served platform p vs)
    (first : Course platform sources config (.ok vs) .configured .configured []
      (.error failure, between))
    (second : Course platform sources config (.ok vs) failure.identityHalf failure.trustHalf
      between (.error retry, late)) :
    TrustAtFault sources config late := by
  cases failure with
  | trust e =>
    obtain ⟨made, rfl, -⟩ := second.calls_added
    exact (first.trust_at_fault h).later
  | identity e =>
    obtain ⟨e', rfl⟩ := second.trust_error_of_default
    exact second.trust_at_fault h

/-- The second failure may also be one of default trust. -/
private theorem identity_at_fault_of_failures {failure retry : MaterialError}
    {between late : List Call} (h : Served platform p vs)
    (first : Course platform sources config (.ok vs) .configured .configured []
      (.error failure, between))
    (second : Course platform sources config (.ok vs) failure.identityHalf failure.trustHalf
      between (.error retry, late)) :
    IdentityAtFault sources config p late ∨ ∃ n, Unfit (platform.defaultTrust n) := by
  cases failure with
  | identity e =>
    obtain ⟨made, rfl, -⟩ := second.calls_added
    exact Or.inl (first.identity_at_fault h).later
  | trust e =>
    cases retry with
    | identity e' => exact Or.inl (second.identity_at_fault h)
    | trust e' =>
      obtain ⟨before, -, hu⟩ := second.default_trust_at_fault h
      exact Or.inr ⟨_, hu⟩

end Course

section Resolution

variable {ι τ : Type} {platform : Platform} {sources : Sources ι τ} {config : Configuration ι τ}
  {p : Provider} {vs : List Version}

/-- The sources and default trust may answer differently from call to call. -/
theorem replaced_half_at_fault (h : Served platform p vs)
    (supported : config.protocol.versions = .ok vs) :
    let r := resolve platform sources config
    (r.context.outcome = .defaultTrustStore ∨ r.context.outcome = .platformDefault →
      TrustAtFault sources config r.calls) ∧
    ((∀ n, platform.defaultTrust n = platform.defaultTrust 0) →
      r.context.outcome = .defaultKeyStore ∨ r.context.outcome = .platformDefault →
      IdentityAtFault sources config p r.calls) ∧
    (r.context.outcome = .unusable →
      ∃ before, LastMade r.calls before .defaultTrust ∧
        Unfit (platform.defaultTrust (before.count .defaultTrust))) := by
  intro r
  have hc : Cascade platform sources config r := resolve_cascade platform sources config
  clear_value r
  cases hc with
  | configured first => simp [Resolution.succeed]
  | defaultTrustStore first second =>
    have first := attempt_course first
    rw [supported] at first
    obtain ⟨made, hm, -⟩ := (attempt_course second).calls_added
    refine ⟨fun _ => ?_, by simp [Resolution.succeed], by simp [Resolution.succeed]⟩
    rw [Resolution.succeed, hm]
    exact (first.trust_at_fault h).later
  | defaultKeyStore first second =>
    have first := attempt_course first
    obtain ⟨made, hm, -⟩ := (attempt_course second).calls_added
    refine ⟨by simp [Resolution.succeed], fun _ _ => ?_, by simp [Resolution.succeed]⟩
    rw [Resolution.succeed, hm]
    exact (first.identity_at_fault h).later
  | platformDefault first second last =>
    have first := attempt_course first
    have second := attempt_course second
    have last := default_engine_course sources config last
    rw [supported] at first second
    obtain ⟨made, hm, -⟩ := last.calls_added
    refine ⟨fun _ => ?_, fun same _ => ?_, by simp [Resolution.succeed]⟩
    · rw [Resolution.succeed, hm]
      exact (trust_at_fault_of_failures h first second).later
    · rw [Resolution.succeed, hm]
      rcases identity_at_fault_of_failures h first second with hi | ⟨n, hu⟩
      · exact hi.later
      · rw [same] at hu
        have fit := last.default_trust_fit
        rw [same] at fit
        exact absurd hu fit
  | unusable first second last =>
    have last := default_engine_course sources config last
    refine ⟨by simp [Context.unusable], by simp [Context.unusable], fun _ => ?_⟩
    exact last.default_trust_at_fault h.defaults

/-- The identity loads at first and is lost to the second attempt, made for the lack of anchors. -/
theorem flaky_identity_at_fault :
    let platform : Platform := ⟨fun _ => some .default, fun _ => .ok [⟨[1], [2], none⟩]⟩
    let sources : Sources Identity Anchors :=
      ⟨fun i n _ => if n = 0 then .ok i else .error .missing, fun a _ => .ok a⟩
    let config : Configuration Identity Anchors :=
      ⟨.default, some ⟨[], ⟨.ed25519 [], false⟩⟩, some []⟩
    let r := resolve platform sources config
    Served platform .default Version.defaults ∧ config.protocol.versions = .ok Version.defaults ∧
      r.context.outcome = .platformDefault ∧ TrustAtFault sources config r.calls ∧
      IdentityAtFault sources config .default r.calls := by
  intro platform sources config r
  have served : Served platform .default Version.defaults := ⟨fun _ => rfl, by decide, by decide⟩
  have supported : config.protocol.versions = .ok Version.defaults := by
    simp [config, Protocol.versions, Protocol.recognised, Protocol.sameLetters, Protocol.default]
  have outcome : r.context.outcome = .platformDefault := by decide
  refine ⟨served, supported, outcome, ?_, ?_⟩
  · exact (replaced_half_at_fault served supported).1 (Or.inr outcome)
  · exact (replaced_half_at_fault served supported).2.1 (fun _ => rfl) (Or.inr outcome)

end Resolution

end TlsEndpoint
