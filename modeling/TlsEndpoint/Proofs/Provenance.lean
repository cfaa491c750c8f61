import TlsEndpoint.Proofs.Cascade

/-! # Where the parts of an engine come from

Answers may change from call to call, so it matters whose answer went into an engine. A call is
found by what was called before it, and a source is asked with the provider that was answered last
before it. Nothing is said here about when a resolution ends in which outcome. -/
namespace TlsEndpoint

structure Engine.MadeOf (e : Engine) (provider : Provider) (versions : List Version)
    (identity : Option Identity) (anchors : Anchors) : Prop where
  client : e.client = ⟨provider, versions, anchors, identity⟩
  server : e.server = ⟨provider, versions, anchors, identity⟩
  versions : e.versions = versions

theorem Engine.assemble_made_of (provider : Provider) (versions : List Version)
    (identity : Option Identity) (anchors : Anchors) :
    (assemble provider versions identity anchors).MadeOf provider versions identity anchors :=
  ⟨rfl, rfl, rfl⟩

section Answers

variable {ι τ : Type} (platform : Platform) (sources : Sources ι τ) (config : Configuration ι τ)
  (calls : List Call)

def LastProvider (p : Provider) : Prop :=
  ∃ before, LastMade calls before .provider ∧
    platform.provider (before.count .provider) = some p

/-- The last identity call was made with this provider and answered with this identity. -/
def LastIdentity (p : Provider) (i : Identity) : Prop :=
  ∃ before source, LastMade calls before .identity ∧ LastProvider platform before p ∧
    config.identity = some source ∧
    sources.identity source (before.count .identity) p = .ok i

def LastTrust (a : Anchors) : Prop :=
  ∃ before source, LastMade calls before .trust ∧ config.trust = some source ∧
    sources.trust source (before.count .trust) = .ok a

def LastDefaultTrust (a : Anchors) : Prop :=
  ∃ before, LastMade calls before .defaultTrust ∧
    platform.defaultTrust (before.count .defaultTrust) = .ok a

/-- The outcome tells whose answers the engine is made of. -/
def Truthful (r : Resolution) : Prop :=
  match r.context.outcome with
  | .configured => ∃ e p vs i a, r.context.engine = some e ∧ e.MadeOf p vs (some i) a ∧
      LastProvider platform r.calls p ∧ config.protocol.versions = .ok vs ∧
      LastIdentity platform sources config r.calls p i ∧ r.calls.count .identity = 1 ∧
      LastTrust sources config r.calls a ∧ r.calls.count .trust = 1
  | .defaultTrustStore => ∃ e p vs i a, r.context.engine = some e ∧ e.MadeOf p vs (some i) a ∧
      LastProvider platform r.calls p ∧ config.protocol.versions = .ok vs ∧
      LastIdentity platform sources config r.calls p i ∧ LastDefaultTrust platform r.calls a
  | .defaultKeyStore => ∃ e p vs a, r.context.engine = some e ∧ e.MadeOf p vs none a ∧
      LastProvider platform r.calls p ∧ config.protocol.versions = .ok vs ∧
      LastTrust sources config r.calls a ∧ r.calls.count .trust = 1
  | .platformDefault => ∃ e p a, r.context.engine = some e ∧ e.MadeOf p Version.defaults none a ∧
      LastProvider platform r.calls p ∧ LastDefaultTrust platform r.calls a
  | .unusable => r.context.engine = none

end Answers

section Course

variable {ι τ : Type} {platform : Platform} {sources : Sources ι τ} {config : Configuration ι τ}
  {enabled : Except EngineError (List Version)} {identityHalf trustHalf : Half}
  {before calls : List Call} {engine : Engine}

/-- An attempt that fails for its identity has not come to ask for trust. -/
theorem Course.no_trust_call {e : IdentityError}
    (h : Course platform sources config enabled identityHalf trustHalf before
      (.error (.identity e), calls)) :
    calls.count .trust = before.count .trust := by
  cases h with
  | identityProblem =>
    exact Half.count_after_identity config identityHalf before (by decide) (by decide)

theorem LastIdentity.called {p : Provider} {i : Identity}
    (h : LastIdentity platform sources config calls p i) : 0 < calls.count .identity := by
  obtain ⟨_, _, h, _⟩ := h
  exact h.count_pos

theorem LastTrust.called {a : Anchors} (h : LastTrust sources config calls a) :
    0 < calls.count .trust := by
  obtain ⟨_, _, h, _⟩ := h
  exact h.count_pos

def IdentityFrom (platform : Platform) (sources : Sources ι τ) (config : Configuration ι τ)
    (calls : List Call) (p : Provider) : Half → Option Identity → Prop
  | .configured, i => ∃ j, i = some j ∧ LastIdentity platform sources config calls p j
  | .default, i => i = none

def TrustFrom (platform : Platform) (sources : Sources ι τ) (config : Configuration ι τ)
    (calls : List Call) : Half → Anchors → Prop
  | .configured, a => LastTrust sources config calls a
  | .default, a => LastDefaultTrust platform calls a

private theorem last_provider_of_attempt {p : Provider}
    (present : platform.provider (before.count .provider) = some p) :
    LastProvider platform
      (before ++ .provider :: (identityHalf.identityCalls config ++ trustHalf.trustCalls config))
      p := by
  refine ⟨before, ⟨_, rfl, ?_⟩, present⟩
  rw [List.mem_append, not_or]
  exact ⟨Half.not_mem_identity_calls config identityHalf (by decide),
    Half.not_mem_trust_calls config trustHalf (by decide) (by decide)⟩

private theorem identity_from_attempt {p : Provider} {i : Option Identity}
    (present : platform.provider (before.count .provider) = some p)
    (loaded : identityHalf.identity sources config (before.count .identity) p = .ok i) :
    IdentityFrom platform sources config
      (before ++ .provider :: (identityHalf.identityCalls config ++ trustHalf.trustCalls config))
      p identityHalf i := by
  cases identityHalf with
  | default =>
    cases loaded
    rfl
  | configured =>
    obtain ⟨source, j, hs, hj, rfl⟩ := Half.configured_identity_ok_iff.mp loaded
    refine ⟨j, rfl, before ++ [.provider], source, ⟨trustHalf.trustCalls config, ?_, ?_⟩, ?_, hs, ?_⟩
    · simp [Half.identityCalls, hs]
    · exact Half.not_mem_trust_calls config trustHalf (by decide) (by decide)
    · exact ⟨before, ⟨[], rfl, List.not_mem_nil⟩, present⟩
    · simpa using hj

private theorem trust_from_attempt {a : Anchors}
    (trusted : trustHalf.trust platform sources config before = .ok a) :
    TrustFrom platform sources config
      (before ++ .provider :: (identityHalf.identityCalls config ++ trustHalf.trustCalls config))
      trustHalf a := by
  cases trustHalf with
  | default =>
    refine ⟨_, Half.default_trust_last_made config identityHalf before, ?_⟩
    rw [Half.count_after_identity config identityHalf before (by decide) (by decide)]
    exact trusted
  | configured =>
    obtain ⟨source, hs, ha⟩ := Half.configured_trust_ok_iff.mp trusted
    refine ⟨_, source, Half.configured_trust_last_made hs identityHalf before, hs, ?_⟩
    rw [Half.count_after_identity config identityHalf before (by decide) (by decide)]
    exact ha

theorem Course.parts
    (h : Course platform sources config enabled identityHalf trustHalf before (.ok engine, calls)) :
    ∃ p vs i a, engine.MadeOf p vs i a ∧ LastProvider platform calls p ∧ enabled = .ok vs ∧
      IdentityFrom platform sources config calls p identityHalf i ∧
      TrustFrom platform sources config calls trustHalf a := by
  cases h with
  | @built p vs i a present supported loaded trusted accepted =>
    exact ⟨p, vs, i, a, Engine.assemble_made_of p vs i a, last_provider_of_attempt present,
      supported, identity_from_attempt present loaded, trust_from_attempt trusted⟩

end Course

section Resolution

variable {ι τ : Type} (platform : Platform) (sources : Sources ι τ) (config : Configuration ι τ)

/-- Answers need not be the same from call to call. -/
theorem outcome_label_truthful :
    Truthful platform sources config (resolve platform sources config) := by
  have hc := resolve_cascade platform sources config
  generalize resolve platform sources config = r at hc
  cases hc with
  | configured first =>
    have h := attempt_course first
    obtain ⟨p, vs, i, a, hm, hp, hv, ⟨j, rfl, hi⟩, ht⟩ := h.parts
    exact ⟨_, p, vs, j, a, rfl, hm, hp, hv, hi, Nat.le_antisymm (h.count_le _) hi.called, ht,
      Nat.le_antisymm (h.count_le _) ht.called⟩
  | defaultTrustStore first second =>
    obtain ⟨p, vs, i, a, hm, hp, hv, ⟨j, rfl, hi⟩, ht⟩ := (attempt_course second).parts
    exact ⟨_, p, vs, j, a, rfl, hm, hp, hv, hi, ht⟩
  | defaultKeyStore first second =>
    have h := attempt_course second
    obtain ⟨p, vs, i, a, hm, hp, hv, rfl, ht⟩ := h.parts
    refine ⟨_, p, vs, a, rfl, hm, hp, hv, ht, Nat.le_antisymm ?_ ht.called⟩
    have h₀ := (attempt_course first).no_trust_call
    have h₁ := h.count_le .trust
    rwa [h₀] at h₁
  | platformDefault first second last =>
    have h := default_engine_course sources config last
    obtain ⟨p, vs, i, a, hm, hp, hv, rfl, ht⟩ := h.parts
    cases hv
    exact ⟨_, p, a, rfl, hm, hp, ht⟩
  | unusable first second last => rfl

end Resolution

end TlsEndpoint
