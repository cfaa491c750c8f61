import TlsEndpoint.Proofs.Provenance

/-! # The last step as an attempt

The last step of a resolution does not go by way of an attempt. It is all the same the attempt that
does without an identity, takes default trust and has the default name: it makes the same calls,
builds the same engine, and fails for the same reason, which an attempt reports as a problem of
trust. The configured name plays no part in it. -/
namespace TlsEndpoint

section Parts

variable {ι τ : Type} {platform : Platform} {sources : Sources ι τ} {config : Configuration ι τ}

theorem attempt_default_eq (enabled : config.protocol.versions = .ok Version.defaults)
    (before : List Call) :
    attempt platform sources config .default .default before =
      ((defaultEngine platform before).1.mapError .trust, (defaultEngine platform before).2) := by
  unfold attempt defaultEngine
  rw [enabled]
  rcases askProvider platform before with ⟨e | p, asked⟩
  · rfl
  · dsimp only [askIdentity, askTrust]
    rcases askDefaultTrust platform asked with ⟨e | a, late⟩
    · rfl
    · rfl

theorem default_engine_parts {before calls : List Call} {engine : Engine}
    (h : defaultEngine platform before = (.ok engine, calls)) :
    ∃ p a, platform.provider (before.count .provider) = some p ∧
      platform.defaultTrust (before.count .defaultTrust) = .ok a ∧
      engine.MadeOf p Version.defaults none a := by
  have course := default_engine_course_alone h
  change Course _ _ _ _ _ _ _ (.ok engine, calls) at course
  cases course with
  | @built p vs i a present supported loaded trusted =>
    cases supported
    cases loaded
    exact ⟨p, a, present, trusted, Engine.assemble_made_of p _ none a⟩

theorem default_name_enables : Protocol.default.versions = .ok Version.defaults := by
  simp [Protocol.versions, Protocol.recognised, Protocol.sameLetters, Protocol.default]

end Parts

structure SameStep (platform : Platform) (before : List Call)
    (tried : Stage MaterialError Engine) (last : Resolution) : Prop where
  calls : last.calls = tried.2
  usable : last.context.isUsable = true ↔ ∃ engine, tried.1 = .ok engine
  engine : ∀ engine, tried.1 = .ok engine → last.context.engine = some engine ∧
    ∃ p a, platform.provider (before.count .provider) = some p ∧
      platform.defaultTrust (before.count .defaultTrust) = .ok a ∧
      engine.MadeOf p Version.defaults none a
  failure : ∀ f, tried.1 = .error f → ∃ e, f = .trust e ∧
    defaultEngine platform before = (.error e, last.calls) ∧
    last.records = [⟨.error,
      "Failed to create a TLS context with default configuration: " ++ e.message⟩]

theorem default_step_same (platform : Platform) (reason : String) (before : List Call) :
    SameStep platform before
      ((defaultEngine platform before).1.mapError .trust, (defaultEngine platform before).2)
      (Resolution.platformDefault platform reason before) := by
  unfold Resolution.platformDefault
  rcases made : defaultEngine platform before with ⟨e | engine, calls⟩
  · refine ⟨rfl, ?_, ?_, ?_⟩
    · simp [Context.unusable, Context.isUsable, Except.mapError]
    · rintro engine ⟨⟩
    · rintro f ⟨⟩
      exact ⟨e, rfl, made, rfl⟩
  · refine ⟨rfl, ?_, ?_, ?_⟩
    · simp [Resolution.succeed, Context.isUsable, Except.mapError]
    · rintro engine ⟨⟩
      exact ⟨rfl, default_engine_parts made⟩
    · rintro f ⟨⟩

/-- In the second and the third part any name may be configured. -/
theorem default_step_is_attempt {ι τ : Type} (platform : Platform) (sources : Sources ι τ)
    (config : Configuration ι τ) :
    let named : Configuration ι τ := { config with protocol := .default }
    (config.protocol.versions = .ok Version.defaults → ∀ reason before,
      SameStep platform before (attempt platform sources config .default .default before)
        (Resolution.platformDefault platform reason before)) ∧
    (∀ reason before,
      SameStep platform before (attempt platform sources named .default .default before)
        (Resolution.platformDefault platform reason before)) ∧
    ∀ failure retry between late,
      attempt platform sources config .configured .configured [] = (.error failure, between) →
      attempt platform sources config failure.identityHalf failure.trustHalf between =
        (.error retry, late) →
      SameStep platform late (attempt platform sources named .default .default late)
        (resolve platform sources config) := by
  intro named
  have named_same : ∀ reason before, SameStep platform before
      (attempt platform sources named .default .default before)
      (Resolution.platformDefault platform reason before) := by
    intro reason before
    rw [attempt_default_eq default_name_enables]
    exact default_step_same platform reason before
  refine ⟨fun enabled reason before => ?_, named_same, ?_⟩
  · rw [attempt_default_eq enabled]
    exact default_step_same platform reason before
  · intro failure retry between late first second
    rw [resolve_of_failures first second]
    exact named_same _ late

/-- Under a retired name both attempts end before any material is asked for. The last step then does
what an attempt under the default name does, as it does at once under another name for the default
versions. -/
theorem retired_name_ends_as_default_attempt :
    let platform : Platform := ⟨fun _ => some .default, fun _ => .ok [⟨[1], [2], none⟩]⟩
    let sources : Sources Identity Anchors := ⟨fun i _ _ => .ok i, fun a _ => .ok a⟩
    let config (name : String) : Configuration Identity Anchors :=
      ⟨⟨name⟩, some ⟨[], ⟨.ed25519 [], false⟩⟩, some [⟨[3], [4], none⟩]⟩
    let retired : MaterialError := .trust (.engine (.unsupportedProtocol "SSLv3"))
    let r := resolve platform sources (config "SSLv3")
    (config "ssl").protocol.versions = .ok Version.defaults ∧
      SameStep platform [] (attempt platform sources (config "ssl") .default .default [])
        (Resolution.platformDefault platform "" []) ∧
      attempt platform sources (config "SSLv3") .configured .configured [] =
        (.error retired, [.provider]) ∧
      attempt platform sources (config "SSLv3") .configured .default [.provider] =
        (.error retired, [.provider, .provider]) ∧
      SameStep platform [.provider, .provider]
        (attempt platform sources (config "TLS") .default .default [.provider, .provider]) r ∧
      r.calls = [.provider, .provider, .provider, .defaultTrust] ∧ r.context.isUsable = true := by
  intro platform sources config retired r
  have enabled : (config "ssl").protocol.versions = .ok Version.defaults := by
    simp [config, Protocol.versions, Protocol.recognised, Protocol.sameLetters]
  have unknown : (config "SSLv3").protocol.versions = .error (.unsupportedProtocol "SSLv3") := by
    simp [config, Protocol.versions, Protocol.recognised, Protocol.sameLetters]
  have first : attempt platform sources (config "SSLv3") .configured .configured [] =
      (.error retired, [.provider]) := by
    unfold attempt
    rw [unknown]
    rfl
  have second : attempt platform sources (config "SSLv3") .configured .default [.provider] =
      (.error retired, [.provider, .provider]) := by
    unfold attempt
    rw [unknown]
    rfl
  have atOnce := (default_step_is_attempt platform sources (config "ssl")).1 enabled "" []
  have resolved := (default_step_is_attempt platform sources (config "SSLv3")).2.2 _ _ _ _ first
    second
  have tried : attempt platform sources (config "TLS") .default .default [.provider, .provider] =
      (.ok (.assemble .default Version.defaults none [⟨[1], [2], none⟩]),
        [.provider, .provider, .provider, .defaultTrust]) := by
    rw [attempt_default_eq default_name_enables]
    rfl
  refine ⟨enabled, atOnce, first, second, resolved, ?_, ?_⟩
  · rw [resolved.calls]
    exact congrArg Prod.snd tried
  · exact resolved.usable.mpr ⟨_, congrArg Prod.fst tried⟩

end TlsEndpoint
