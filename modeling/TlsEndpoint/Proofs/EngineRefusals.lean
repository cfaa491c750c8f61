import TlsEndpoint.Proofs.Cascade

/-! # What an engine is refused for

Building an engine looks at suites, groups and anchors, in this order, and never at the identity. An
engine that was refused is therefore not to be had by giving the identity up, and a resolution that
begins with a refusal replaces its anchors and not its identity. -/
namespace TlsEndpoint

namespace Engine

inductive Refusal (provider : Provider) (versions : List Version) (anchors : Anchors) :
    EngineError → Prop where
  | noSuite (unserved : ∀ s ∈ provider.suites, s.version ∉ versions) :
      Refusal provider versions anchors
        (.rejected (.general "no usable cipher suites configured"))
  | noGroup (served : ∃ s ∈ provider.suites, s.version ∈ versions)
      (ungrouped : provider.groups = []) :
      Refusal provider versions anchors (.rejected (.general "no kx groups configured"))
  | noAnchor (served : ∃ s ∈ provider.suites, s.version ∈ versions)
      (grouped : provider.groups ≠ []) (unanchored : anchors = []) :
      Refusal provider versions anchors .noAnchors

variable {p q : Provider} {vs ws : List Version} {i j : Option Identity} {a : Anchors}

theorem refusal_of_objection {e : EngineError} (h : objection? p vs a = some e) :
    Refusal p vs a e := by
  unfold objection? at h
  split_ifs at h with hs hg ha
  · cases h
    refine .noSuite fun s hm hv => ?_
    rw [Provider.has_suite_of_iff.mpr ⟨s, hm, hv⟩] at hs
    cases hs
  · cases h
    simp only [Bool.not_eq_true', Bool.not_eq_false] at hs
    exact .noGroup (Provider.has_suite_of_iff.mp hs) hg
  · cases h
    simp only [Bool.not_eq_true', Bool.not_eq_false] at hs
    exact .noAnchor (Provider.has_suite_of_iff.mp hs) hg ha

theorem Refusal.objection_eq {e : EngineError} (h : Refusal p vs a e) :
    objection? p vs a = some e := by
  unfold objection?
  cases h with
  | noSuite unserved =>
    have hs : ¬ p.hasSuiteOf vs = true := by
      rw [Provider.has_suite_of_iff]
      rintro ⟨s, hm, hv⟩
      exact unserved s hm hv
    simp [hs]
  | noGroup served ungrouped =>
    have hs := Provider.has_suite_of_iff.mpr served
    simp [hs, ungrouped]
  | noAnchor served grouped unanchored =>
    have hs := Provider.has_suite_of_iff.mpr served
    simp [hs, grouped, unanchored]

theorem built_iff : (∃ e, build p vs i a = .ok e) ↔
    (∃ s ∈ p.suites, s.version ∈ vs) ∧ p.groups ≠ [] ∧ a ≠ [] := by
  rw [← Provider.has_suite_of_iff, ← objection_none_iff, build_eq]
  cases objection? p vs a <;> simp

theorem refused_iff {f : TrustError} :
    build p vs i a = .error f ↔ ∃ e, f = .engine e ∧ Refusal p vs a e := by
  rw [build_eq]
  cases objected : objection? p vs a with
  | none =>
    simp only [reduceCtorEq, false_iff]
    rintro ⟨e, -, refusal⟩
    rw [refusal.objection_eq] at objected
    cases objected
  | some e =>
    constructor
    · intro h
      cases h
      exact ⟨e, rfl, refusal_of_objection objected⟩
    · rintro ⟨e', rfl, refusal⟩
      rw [refusal.objection_eq] at objected
      cases objected
      rfl

theorem built_mono (hv : vs ⊆ ws) (suites : p.suites ⊆ q.suites) (groups : p.groups ⊆ q.groups)
    (h : ∃ e, build p vs i a = .ok e) : ∃ e, build q ws j a = .ok e := by
  obtain ⟨⟨s, hm, served⟩, grouped, anchored⟩ := built_iff.mp h
  obtain ⟨g, hg⟩ := List.exists_mem_of_ne_nil _ grouped
  exact built_iff.mpr ⟨⟨s, suites hm, hv served⟩, List.ne_nil_of_mem (groups hg), anchored⟩

end Engine

section Attempts

variable {ι τ : Type} (platform : Platform) (sources : Sources ι τ) (config : Configuration ι τ)

/-- An attempt after these calls comes to build its engine, and builds it of these parts. -/
structure ComesToBuild (identityHalf trustHalf : Half) (before : List Call) (p : Provider)
    (vs : List Version) (i : Option Identity) (a : Anchors) : Prop where
  provider : platform.provider (before.count .provider) = some p
  versions : config.protocol.versions = .ok vs
  identity : identityHalf.identity sources config (before.count .identity) p = .ok i
  anchors : trustHalf.trust platform sources config before = .ok a

variable {platform sources config} {identityHalf trustHalf : Half} {before : List Call}
  {p : Provider} {vs : List Version} {i : Option Identity} {a : Anchors}

theorem ComesToBuild.attempt_eq
    (h : ComesToBuild platform sources config identityHalf trustHalf before p vs i a) :
    (attempt platform sources config identityHalf trustHalf before).1 =
      (Engine.build p vs i a).mapError .trust := by
  have course : Course platform sources config config.protocol.versions identityHalf trustHalf before
      (attempt platform sources config identityHalf trustHalf before) := attempt_course rfl
  generalize attempt platform sources config identityHalf trustHalf before = s at course ⊢
  rw [Engine.build_eq]
  cases course with
  | noProvider absent => cases h.provider.symm.trans absent
  | unsupported _ unknown => cases h.versions.symm.trans unknown
  | identityProblem present _ failed =>
    cases h.provider.symm.trans present
    cases h.identity.symm.trans failed
  | trustProblem _ _ _ failed => cases h.anchors.symm.trans failed
  | rejected present supported _ trusted objected =>
    cases h.provider.symm.trans present
    cases h.versions.symm.trans supported
    cases h.anchors.symm.trans trusted
    rw [objected]
    rfl
  | built present supported loaded trusted accepted =>
    cases h.provider.symm.trans present
    cases h.versions.symm.trans supported
    cases h.identity.symm.trans loaded
    cases h.anchors.symm.trans trusted
    rw [accepted]
    rfl

/-- Without an identity a later attempt with the same anchors comes to the same refusal. -/
theorem ComesToBuild.refused_without_identity {f : TrustError}
    (same : ∀ n, platform.provider n = platform.provider 0)
    (h : ComesToBuild platform sources config identityHalf trustHalf before p vs i a)
    (refused : Engine.build p vs i a = .error f) {half : Half} {later : List Call}
    (anchors : half.trust platform sources config later = .ok a) :
    (attempt platform sources config .default half later).1 = .error (.trust f) := by
  have again : ComesToBuild platform sources config .default half later p vs none a := by
    refine ⟨?_, h.versions, rfl, anchors⟩
    rw [same, ← h.provider, same (before.count .provider)]
  -- What is missing is told without the identity, so it is missing without one, too.
  rw [again.attempt_eq, Engine.refused_iff.mpr (Engine.refused_iff.mp refused)]
  rfl

theorem identity_kept_of_trust_error {e : TrustError} {calls : List Call}
    (failed : attempt platform sources config .configured .configured [] =
      (.error (.trust e), calls)) :
    (resolve platform sources config).context.outcome ≠ .defaultKeyStore := by
  have hc := resolve_cascade platform sources config
  generalize resolve platform sources config = r at hc
  cases hc with
  | defaultKeyStore first =>
    rw [failed] at first
    cases first
  | configured => exact nofun
  | defaultTrustStore => exact nofun
  | platformDefault => exact nofun
  | unusable => exact nofun

end Attempts

/-- Whoever builds an engine is refused for want of a suite, a group or an anchor, never for an
identity. -/
theorem refusal_independent_of_identity {ι τ : Type} (platform : Platform) (sources : Sources ι τ)
    (config : Configuration ι τ) :
    (∀ (p : Provider) (vs : List Version) (a : Anchors) (i j : Option Identity),
      ((∃ e, Engine.build p vs i a = .ok e) ↔ ∃ e, Engine.build p vs j a = .ok e) ∧
      (∀ f, Engine.build p vs i a = .error f ↔ Engine.build p vs j a = .error f) ∧
      ((∃ e, Engine.build p vs i a = .ok e) ↔
        (∃ s ∈ p.suites, s.version ∈ vs) ∧ (∃ g, g ∈ p.groups) ∧ ∃ t, t ∈ a) ∧
      (∀ f, Engine.build p vs i a = .error f ↔ ∃ e, f = .engine e ∧ Engine.Refusal p vs a e) ∧
      ∀ (q : Provider) (ws : List Version), vs ⊆ ws → p.suites ⊆ q.suites → p.groups ⊆ q.groups →
        (∃ e, Engine.build p vs i a = .ok e) → ∃ e, Engine.build q ws j a = .ok e) ∧
    EngineError.noAnchors.message = "no root trust anchors were provided" ∧
    (∀ identityHalf trustHalf before p vs i a f,
      ComesToBuild platform sources config identityHalf trustHalf before p vs i a →
      Engine.build p vs i a = .error f →
      (attempt platform sources config identityHalf trustHalf before).1 = .error (.trust f) ∧
      ((∀ n, platform.provider n = platform.provider 0) →
        ∀ half later, Half.trust platform sources config half later = .ok a →
          (attempt platform sources config .default half later).1 = .error (.trust f))) ∧
    ∀ e, (attempt platform sources config .configured .configured []).1 =
        .error (.trust (.engine e)) →
      (resolve platform sources config).context.outcome ≠ .defaultKeyStore := by
  refine ⟨fun p vs a i j => ⟨?_, fun f => ?_, ?_, fun f => Engine.refused_iff, ?_⟩, rfl, ?_, ?_⟩
  · rw [Engine.built_iff, Engine.built_iff]
  · rw [Engine.refused_iff, Engine.refused_iff]
  · simp only [Engine.built_iff, ne_eq, List.eq_nil_iff_forall_not_mem, not_forall, not_not]
  · exact fun q ws => Engine.built_mono
  · intro identityHalf trustHalf before p vs i a f h refused
    refine ⟨?_, fun same half later => h.refused_without_identity same refused⟩
    rw [h.attempt_eq, refused]
    rfl
  · intro e failed
    exact identity_kept_of_trust_error (Prod.ext failed rfl)

/-- A provider without suites of the configured version serves the other one, and a larger provider
serves both. -/
theorem unserved_version_refused_without_identity :
    let p : Provider := ⟨[⟨"TLS13_AES_128_GCM_SHA256", .tls13, .any⟩], [⟨"X25519", true⟩],
      KeyPolicy.load.apply⟩
    let anchors : Anchors := [⟨[1], [2], none⟩]
    let i : Identity := ⟨[], ⟨.ed25519 [], false⟩⟩
    let platform : Platform := ⟨fun _ => some p, fun _ => .ok anchors⟩
    let sources : Sources Identity Anchors := ⟨fun i _ _ => .ok i, fun a _ => .ok a⟩
    let config : Configuration Identity Anchors := ⟨⟨"TLSv1.2"⟩, some i, some anchors⟩
    let later : List Call := [.provider, .identity, .trust]
    let noSuite : EngineError := .rejected (.general "no usable cipher suites configured")
    ComesToBuild platform sources config .configured .configured [] p [.tls12] (some i) anchors ∧
      Engine.build p [.tls12] (some i) anchors = .error (.engine noSuite) ∧
      (attempt platform sources config .default .configured later).1 =
        .error (.trust (.engine noSuite)) ∧
      (resolve platform sources config).context.outcome ≠ .defaultKeyStore ∧
      (∃ e, Engine.build p [.tls13] (some i) anchors = .ok e) ∧
      ∃ e, Engine.build .default [.tls12, .tls13] none anchors = .ok e := by
  intro p anchors i platform sources config later noSuite
  obtain ⟨building, -, dropping, resolving⟩ :=
    refusal_independent_of_identity platform sources config
  have older := building p [.tls12] anchors (some i) none
  have newer := building p [.tls13] anchors (some i) none
  have comes : ComesToBuild platform sources config .configured .configured [] p [.tls12] (some i)
      anchors := by
    refine ⟨rfl, ?_, rfl, rfl⟩
    simp [config, Protocol.versions, Protocol.recognised, Protocol.sameLetters]
  have refused : Engine.build p [.tls12] (some i) anchors = .error (.engine noSuite) :=
    (older.2.2.2.1 _).mpr ⟨noSuite, rfl, .noSuite (by decide)⟩
  have built : ∃ e, Engine.build p [.tls13] (some i) anchors = .ok e :=
    newer.2.2.1.mpr ⟨by decide, ⟨_, List.mem_singleton_self _⟩, ⟨_, List.mem_singleton_self _⟩⟩
  obtain ⟨failed, dropped⟩ := dropping _ _ _ _ _ _ _ _ comes refused
  exact ⟨comes, refused, dropped (fun _ => rfl) .configured later rfl, resolving _ failed, built,
    newer.2.2.2.2 .default [.tls12, .tls13] (by decide) (by decide) (by decide) built⟩

end TlsEndpoint
