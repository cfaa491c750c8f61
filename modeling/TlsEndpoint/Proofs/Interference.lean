import TlsEndpoint.Proofs.Likeness

/-! # What failures and material do not influence

What a failure says goes nowhere but into the record: two resolutions whose collaborators give the
same values, and fail at the same calls in whatever way, make the same calls and end in the same
context. What is loaded, in turn, never gets into the record: two resolutions whose collaborators
fail at the same calls in the same way leave the same record, whatever keys, chains and anchors
they are given. -/
namespace TlsEndpoint

inductive SameAnswer {ε α : Type} : Except ε α → Except ε α → Prop where
  | ok (a : α) : SameAnswer (.ok a) (.ok a)
  | error (e e' : ε) : SameAnswer (.error e) (.error e')

theorem SameAnswer.refl {ε α : Type} (x : Except ε α) : SameAnswer x x := by
  cases x with
  | error e => exact .error e e
  | ok a => exact .ok a

theorem SameAnswer.ok_or_error {ε α : Type} {x y : Except ε α} (h : SameAnswer x y) :
    (∃ a, x = .ok a ∧ y = .ok a) ∨ ∃ e e', x = .error e ∧ y = .error e' := by
  cases h with
  | ok a => exact Or.inl ⟨a, rfl, rfl⟩
  | error e e' => exact Or.inr ⟨e, e', rfl, rfl⟩

theorem SameAnswer.rel {ε α : Type} {x y : Except ε α} (h : SameAnswer x y) :
    ExceptRel (fun _ _ => True) Eq x y := by
  cases h with
  | ok a => exact .ok rfl
  | error e e' => exact .error trivial

theorem Engine.objection_eq (p : Provider) (vs : List Version) (a : Anchors) :
    objection? p vs a =
      match checkVersions p vs with
      | .error e => some e
      | .ok () => if a = [] then some .noAnchors else none := by
  unfold objection? checkVersions
  by_cases hs : p.hasSuiteOf vs
  · by_cases hg : p.groups = [] <;> simp [hs, hg]
  · simp [hs]

namespace Likeness

def values : Likeness where
  provider := Eq
  identity := Eq
  anchors := Eq
  identityError _ _ := True
  trustError _ _ := True

/-- The same failures; values may be any that an engine finds fault with in the same way. -/
def failures : Likeness where
  provider p p' := ∀ vs, Engine.checkVersions p vs = Engine.checkVersions p' vs
  identity _ _ := True
  anchors a a' := a = [] ↔ a' = []
  identityError := Eq
  trustError := Eq

theorem values_lawful : values.Lawful where
  objection := by
    rintro p _ a _ rfl rfl vs
    rfl
  identityError _ := trivial
  trustError _ := trivial

theorem failures_lawful : failures.Lawful where
  objection := by
    intro p p' a a' hp ha vs
    have versions : Engine.checkVersions p vs = Engine.checkVersions p' vs := hp vs
    have anchors : (a = []) = (a' = []) := propext ha
    simp only [Engine.objection_eq, versions, anchors]
  identityError _ := rfl
  trustError _ := rfl

theorem failures_same : failures.SameFailures := ⟨fun _ _ h => h, fun _ _ h => h⟩

theorem engine_eq_of_values {e e' : Engine} (h : values.Engines e e') : e = e' := by
  cases h with
  | assemble vs hp hi ha =>
    cases hp
    cases ha
    cases hi with
    | none => rfl
    | some hi =>
      cases hi
      rfl

theorem context_eq_of_values {r r' : Resolution} (h : values.Resolutions r r') :
    r.context = r'.context := by
  have hengine := h.engine
  have houtcome := h.outcome
  rcases r with ⟨⟨engine, outcome⟩, _, _⟩
  rcases r' with ⟨⟨engine', outcome'⟩, _, _⟩
  cases houtcome
  cases hengine with
  | none => rfl
  | some he => rw [engine_eq_of_values he]

end Likeness

section Agreement

variable {ι ι' τ τ' : Type}

/-- Two resolutions of the same shape whose collaborators answer alike on each call. -/
structure AnswersAgree (platform platform' : Platform) (sources : Sources ι τ)
    (sources' : Sources ι' τ') (config : Configuration ι τ) (config' : Configuration ι' τ') :
    Prop where
  protocol : config.protocol = config'.protocol
  provider : ∀ n, platform.provider n = platform'.provider n
  identity : Option.Rel (fun source source' => ∀ n p,
    SameAnswer (sources.identity source n p) (sources'.identity source' n p))
    config.identity config'.identity
  trust : Option.Rel (fun source source' => ∀ n,
    SameAnswer (sources.trust source n) (sources'.trust source' n)) config.trust config'.trust
  defaultTrust : ∀ n, SameAnswer (platform.defaultTrust n) (platform'.defaultTrust n)

variable {platform platform' : Platform} {sources : Sources ι τ} {sources' : Sources ι' τ'}
  {config : Configuration ι τ} {config' : Configuration ι' τ'}

theorem AnswersAgree.agree
    (h : AnswersAgree platform platform' sources sources' config config') :
    Likeness.values.Agree platform platform' sources sources' config config' where
  protocol := h.protocol
  provider := by
    intro n
    rw [← h.provider n]
    cases platform.provider n with
    | none => exact .none
    | some p => exact .some rfl
  identity := by
    refine option_rel_mono (fun source source' hs m n p p' hp hp' => ?_) h.identity
    rw [← h.provider m, hp] at hp'
    cases hp'
    exact (hs n p).rel
  trust := option_rel_mono (fun _ _ hs n => (hs n).rel) h.trust
  defaultTrust n := (h.defaultTrust n).rel

theorem AnswersAgree.resolve_same
    (h : AnswersAgree platform platform' sources sources' config config') :
    (resolve platform sources config).context =
        (resolve platform' sources' config').context ∧
      (resolve platform sources config).calls =
        (resolve platform' sources' config').calls := by
  have like := h.agree.resolutions Likeness.values_lawful
  exact ⟨Likeness.context_eq_of_values like, like.calls⟩

/-- Failures influence nothing but the message; what is loaded influences no call, no outcome and
no record. -/
theorem failures_and_material_confined (platform platform' : Platform) (sources : Sources ι τ)
    (sources' : Sources ι' τ') (config : Configuration ι τ) (config' : Configuration ι' τ') :
    let r := resolve platform sources config
    let r' := resolve platform' sources' config'
    (Likeness.values.Agree platform platform' sources sources' config config' →
      r.context = r'.context ∧ r.calls = r'.calls ∧
      ∃ level message message', r.records = [⟨level, message⟩] ∧
        r'.records = [⟨level, message'⟩]) ∧
    (Likeness.failures.Agree platform platform' sources sources' config config' →
      r.context.outcome = r'.context.outcome ∧ r.calls = r'.calls ∧ r.records = r'.records) := by
  intro r r'
  constructor
  · intro agree
    have like : Likeness.values.Resolutions r r' := agree.resolutions Likeness.values_lawful
    obtain ⟨level, message, message', hm, hm', -⟩ := like.records
    exact ⟨Likeness.context_eq_of_values like, like.calls, level, message, message', hm, hm'⟩
  · intro agree
    have like : Likeness.failures.Resolutions r r' := agree.resolutions Likeness.failures_lawful
    obtain ⟨level, message, message', hm, hm', same⟩ := like.records
    refine ⟨like.outcome, like.calls, ?_⟩
    rw [hm, hm', same Likeness.failures_same]

end Agreement

/-- A trust source that calls its failure one of the engine's is treated like any other, and the
record does not tell one key from another. -/
theorem swapped_failure_and_key_confined :
    let platform : Platform := ⟨fun _ => some .default, fun _ => .ok [⟨[1], [2], none⟩]⟩
    let config (seed : UInt8) : Configuration Identity Anchors :=
      ⟨.default, some ⟨[[seed]], ⟨.ed25519 [seed], false⟩⟩, some []⟩
    let failing (e : TrustError) : Sources Identity Anchors :=
      ⟨fun i _ _ => .ok i, fun _ _ => .error e⟩
    let resolved (e : TrustError) (seed : UInt8) := resolve platform (failing e) (config seed)
    Likeness.values.Agree platform platform (failing .missing) (failing (.engine .noAnchors))
      (config 1) (config 1) ∧
    Likeness.failures.Agree platform platform (failing .missing) (failing .missing)
      (config 1) (config 2) ∧
    (resolved .missing 1).context = (resolved (.engine .noAnchors) 1).context ∧
      (resolved .missing 1).records ≠ (resolved (.engine .noAnchors) 1).records ∧
      (resolved .missing 1).records = (resolved .missing 2).records ∧
      (resolved .missing 1).context.client.map (·.identity) ≠
        (resolved .missing 2).context.client.map (·.identity) := by
  intro platform config failing resolved
  have values_agree : Likeness.values.Agree platform platform (failing .missing)
      (failing (.engine .noAnchors)) (config 1) (config 1) :=
    ⟨rfl, fun _ => .some rfl, .some fun _ _ _ _ _ _ => .ok rfl, .some fun _ => .error trivial,
      fun _ => .ok rfl⟩
  have failures_agree : Likeness.failures.Agree platform platform (failing .missing)
      (failing .missing) (config 1) (config 2) :=
    ⟨rfl, fun _ => .some fun _ => rfl, .some fun _ _ _ _ _ _ => .ok trivial,
      .some fun _ => .error rfl, fun _ => .ok Iff.rfl⟩
  have swapped_failure := (failures_and_material_confined _ _ _ _ _ _).1 values_agree
  have swapped_key := (failures_and_material_confined _ _ _ _ _ _).2 failures_agree
  exact ⟨values_agree, failures_agree, swapped_failure.1, by decide, swapped_key.2.2, by decide⟩

end TlsEndpoint
