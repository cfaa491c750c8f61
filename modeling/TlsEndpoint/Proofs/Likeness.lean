import TlsEndpoint.Proofs.Attempt
import TlsEndpoint.Proofs.Related

/-! # Two resolutions side by side

Two resolutions of the same shape are compared answer by answer. What has to agree of two answers
is a parameter, a relation for each kind of value and for the failures of each half. As long as the
engine cannot tell related parts from each other, the two runs stay in step: the same calls, the
same outcome, and engines of related parts. -/
namespace TlsEndpoint

/-- What has to agree of the answers that two resolutions are given. -/
structure Likeness where
  provider : Provider → Provider → Prop
  identity : Identity → Identity → Prop
  anchors : Anchors → Anchors → Prop
  identityError : IdentityError → IdentityError → Prop
  trustError : TrustError → TrustError → Prop

namespace Likeness

variable (L : Likeness)

/-- Related parts meet the same objection, and a failure is related to itself. -/
structure Lawful : Prop where
  objection : ∀ {p p' a a'}, L.provider p p' → L.anchors a a' → ∀ vs,
    Engine.objection? p vs a = Engine.objection? p' vs a'
  identityError : ∀ e, L.identityError e e
  trustError : ∀ e, L.trustError e e

def SameFailures : Prop :=
  (∀ e e', L.identityError e e' → e = e') ∧ ∀ e e', L.trustError e e' → e = e'

inductive MaterialErrors : MaterialError → MaterialError → Prop where
  | identity {e e'} (h : L.identityError e e') : MaterialErrors (.identity e) (.identity e')
  | trust {e e'} (h : L.trustError e e') : MaterialErrors (.trust e) (.trust e')

inductive Engines : Engine → Engine → Prop where
  | assemble {p p' i i' a a'} (vs : List Version) (provider : L.provider p p')
      (identity : Option.Rel L.identity i i') (anchors : L.anchors a a') :
      Engines (.assemble p vs i a) (.assemble p' vs i' a')

/-- The two runs went the same way; their messages may differ where their failures do. -/
structure Resolutions (r r' : Resolution) : Prop where
  outcome : r.context.outcome = r'.context.outcome
  engine : Option.Rel L.Engines r.context.engine r'.context.engine
  calls : r.calls = r'.calls
  records : ∃ level message message', r.records = [⟨level, message⟩] ∧
    r'.records = [⟨level, message'⟩] ∧ (L.SameFailures → message = message')

/-- Two resolutions of the same shape whose `n`-th answers are related. An identity is compared as
each platform's providers interpret it. -/
structure Agree {ι ι' τ τ' : Type} (platform platform' : Platform) (sources : Sources ι τ)
    (sources' : Sources ι' τ') (config : Configuration ι τ) (config' : Configuration ι' τ') :
    Prop where
  protocol : config.protocol = config'.protocol
  provider : ∀ n, Option.Rel L.provider (platform.provider n) (platform'.provider n)
  identity : Option.Rel (fun source source' => ∀ m n p p', platform.provider m = some p →
    platform'.provider m = some p' → ExceptRel L.identityError L.identity
      (sources.identity source n p) (sources'.identity source' n p'))
    config.identity config'.identity
  trust : Option.Rel (fun source source' => ∀ n, ExceptRel L.trustError L.anchors
    (sources.trust source n) (sources'.trust source' n)) config.trust config'.trust
  defaultTrust : ∀ n, ExceptRel L.trustError L.anchors (platform.defaultTrust n)
    (platform'.defaultTrust n)

variable {L}

theorem MaterialErrors.message_eq {f f' : MaterialError} (h : L.MaterialErrors f f')
    (same : L.SameFailures) : f.message = f'.message := by
  cases h with
  | identity he => rw [same.1 _ _ he]
  | trust he => rw [same.2 _ _ he]

section Engine

variable {p p' : Provider} {i i' : Option Identity} {a a' : Anchors}

theorem Lawful.build (hL : L.Lawful) (hp : L.provider p p') (vs : List Version)
    (hi : Option.Rel L.identity i i') (ha : L.anchors a a') :
    ExceptRel L.trustError L.Engines (Engine.build p vs i a) (Engine.build p' vs i' a') := by
  rw [Engine.build_eq, Engine.build_eq, ← hL.objection hp ha vs]
  cases Engine.objection? p vs a with
  | some e => exact .error (hL.trustError _)
  | none => exact .ok (.assemble vs hp hi ha)

end Engine

section Agreement

variable {ι ι' τ τ' : Type} {platform platform' : Platform} {sources : Sources ι τ}
  {sources' : Sources ι' τ'} {config : Configuration ι τ} {config' : Configuration ι' τ'}

namespace Agree

theorem half_identity (h : L.Agree platform platform' sources sources' config config')
    (hL : L.Lawful) (half : Half) {m : Nat} (n : Nat) {p p' : Provider}
    (hp : platform.provider m = some p) (hp' : platform'.provider m = some p') :
    ExceptRel L.identityError (Option.Rel L.identity) (half.identity sources config n p)
        (half.identity sources' config' n p') ∧
      half.identityCalls config = half.identityCalls config' := by
  have hi := h.identity
  unfold Half.identity Half.identityCalls
  cases half with
  | default => exact ⟨.ok .none, rfl⟩
  | configured =>
    generalize config.identity = source at hi
    generalize config'.identity = source' at hi
    cases hi with
    | none => exact ⟨.error (hL.identityError _), rfl⟩
    | some hs => exact ⟨(hs m n p p' hp hp').map .some, rfl⟩

theorem half_trust (h : L.Agree platform platform' sources sources' config config')
    (hL : L.Lawful) (half : Half) (before : List Call) :
    ExceptRel L.trustError L.anchors (half.trust platform sources config before)
        (half.trust platform' sources' config' before) ∧
      half.trustCalls config = half.trustCalls config' := by
  have ht := h.trust
  unfold Half.trust Half.trustCalls
  cases half with
  | default => exact ⟨h.defaultTrust _, rfl⟩
  | configured =>
    generalize config.trust = source at ht
    generalize config'.trust = source' at ht
    cases ht with
    | none => exact ⟨.error (hL.trustError _), rfl⟩
    | some hs => exact ⟨hs _, rfl⟩

theorem ask_provider (h : L.Agree platform platform' sources sources' config config')
    (calls : List Call) :
    (askProvider platform calls =
        (.error (.engine .noCryptoProvider), calls ++ [.provider]) ∧
      askProvider platform' calls =
        (.error (.engine .noCryptoProvider), calls ++ [.provider])) ∨
    ∃ p p', askProvider platform calls = (.ok p, calls ++ [.provider]) ∧
      askProvider platform' calls = (.ok p', calls ++ [.provider]) ∧ L.provider p p' ∧
      platform.provider (calls.count .provider) = some p ∧
      platform'.provider (calls.count .provider) = some p' := by
  have hp := h.provider (calls.count .provider)
  unfold askProvider
  generalize platform.provider (calls.count .provider) = x at hp
  generalize platform'.provider (calls.count .provider) = x' at hp
  cases hp with
  | none => exact Or.inl ⟨rfl, rfl⟩
  | some hp => exact Or.inr ⟨_, _, rfl, rfl, hp, rfl, rfl⟩

theorem attempts (h : L.Agree platform platform' sources sources' config config')
    (hL : L.Lawful) (identityHalf trustHalf : Half) (before : List Call) :
    ∃ x x' calls,
      attempt platform sources config identityHalf trustHalf before = (x, calls) ∧
      attempt platform' sources' config' identityHalf trustHalf before = (x', calls) ∧
      ExceptRel L.MaterialErrors L.Engines x x' := by
  unfold attempt
  rcases h.ask_provider before with ⟨hx, hx'⟩ | ⟨p, p', hx, hx', hp, hs, hs'⟩
  · rw [hx, hx']
    exact ⟨_, _, _, rfl, rfl, .error (.trust (hL.trustError _))⟩
  · rw [hx, hx', ← h.protocol]
    dsimp only
    cases config.protocol.versions with
    | error e => exact ⟨_, _, _, rfl, rfl, .error (.trust (hL.trustError _))⟩
    | ok vs =>
      simp only [ask_identity_eq, ask_trust_eq]
      obtain ⟨hi, calls_eq⟩ :=
        h.half_identity hL identityHalf ((before ++ [Call.provider]).count .identity) hs hs'
      rw [← calls_eq]
      rcases hi.split with ⟨i, i', hy, hy', hi⟩ | ⟨e, e', hy, hy', he⟩
      · rw [hy, hy']
        dsimp only
        obtain ⟨ht, calls_eq⟩ := h.half_trust hL trustHalf
          (before ++ [Call.provider] ++ identityHalf.identityCalls config)
        rw [← calls_eq]
        rcases ht.split with ⟨a, a', hz, hz', ha⟩ | ⟨e, e', hz, hz', he⟩
        · rw [hz, hz']
          exact ⟨_, _, _, rfl, rfl, (hL.build hp vs hi ha).mapError .trust⟩
        · rw [hz, hz']
          exact ⟨_, _, _, rfl, rfl, .error (.trust he)⟩
      · rw [hy, hy']
        exact ⟨_, _, _, rfl, rfl, .error (.identity he)⟩

theorem default_engines (h : L.Agree platform platform' sources sources' config config')
    (hL : L.Lawful) (before : List Call) :
    ∃ x x' calls, defaultEngine platform before = (x, calls) ∧
      defaultEngine platform' before = (x', calls) ∧ ExceptRel L.trustError L.Engines x x' := by
  unfold defaultEngine
  rcases h.ask_provider before with ⟨hx, hx'⟩ | ⟨p, p', hx, hx', hp, -, -⟩
  · rw [hx, hx']
    exact ⟨_, _, _, rfl, rfl, .error (hL.trustError _)⟩
  · rw [hx, hx']
    simp only [askDefaultTrust]
    have hd := h.defaultTrust ((before ++ [Call.provider]).count .defaultTrust)
    rcases hd.split with ⟨a, a', hy, hy', ha⟩ | ⟨e, e', hy, hy', he⟩
    · rw [hy, hy']
      exact ⟨_, _, _, rfl, rfl, hL.build hp _ .none ha⟩
    · rw [hy, hy']
      exact ⟨_, _, _, rfl, rfl, .error he⟩

end Agree

theorem succeeded {e e' : Engine} (h : L.Engines e e') (outcome : Outcome)
    {message message' : String} (hm : L.SameFailures → message = message') (calls : List Call) :
    L.Resolutions (.succeed e outcome message calls) (.succeed e' outcome message' calls) where
  outcome := rfl
  engine := .some h
  calls := rfl
  records := ⟨.debug, message, message', rfl, rfl, hm⟩

theorem Agree.platform_default
    (h : L.Agree platform platform' sources sources' config config') (hL : L.Lawful)
    {reason reason' : String} (hr : L.SameFailures → reason = reason') (before : List Call) :
    L.Resolutions (Resolution.platformDefault platform reason before)
      (Resolution.platformDefault platform' reason' before) := by
  unfold Resolution.platformDefault
  obtain ⟨x, x', calls, hx, hx', like⟩ := h.default_engines hL before
  rw [hx, hx']
  cases like with
  | ok he =>
    refine succeeded he _ (fun same => ?_) _
    rw [hr same]
  | error he =>
    refine ⟨rfl, .none, rfl, _, _, _, rfl, rfl, fun same => ?_⟩
    rw [same.2 _ _ he]

/-- The two runs end alike, since the first failure has the same half in both. -/
theorem Agree.resolutions (h : L.Agree platform platform' sources sources' config config')
    (hL : L.Lawful) :
    L.Resolutions (resolve platform sources config) (resolve platform' sources' config') := by
  unfold resolve
  obtain ⟨x, x', between, hx, hx', like⟩ := h.attempts hL .configured .configured []
  rw [hx, hx']
  cases like with
  | ok he => exact succeeded he _ (fun _ => rfl) _
  | error hf =>
    cases hf with
    | identity he =>
      dsimp only
      obtain ⟨y, y', late, hy, hy', like⟩ := h.attempts hL .default .configured between
      rw [hy, hy']
      cases like with
      | ok hengine =>
        refine succeeded hengine _ (fun same => ?_) _
        rw [same.1 _ _ he]
      | error hf =>
        refine h.platform_default hL (fun same => ?_) late
        rw [same.1 _ _ he, Resolution.reason, Resolution.reason, hf.message_eq same]
    | trust he =>
      dsimp only
      obtain ⟨y, y', late, hy, hy', like⟩ := h.attempts hL .configured .default between
      rw [hy, hy']
      cases like with
      | ok hengine =>
        refine succeeded hengine _ (fun same => ?_) _
        rw [same.2 _ _ he]
      | error hf =>
        refine h.platform_default hL (fun same => ?_) late
        rw [same.2 _ _ he, Resolution.reason, Resolution.reason, hf.message_eq same]

end Agreement

end Likeness

end TlsEndpoint
