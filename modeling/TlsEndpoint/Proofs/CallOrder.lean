import TlsEndpoint.Proofs.Provenance

/-! # The order of calls

A resolution makes its calls attempt by attempt. An attempt may stop early but never changes the
order of its calls, and the failure of the first attempt fixes what the second one may ask for. All
bounds on the number of calls follow from that. -/
namespace TlsEndpoint

/-- The calls that an attempt with these halves can have made when it stops. -/
def Half.stops : Half → Half → List (List Call)
  | .configured, .configured =>
    [[.provider], [.provider, .identity], [.provider, .identity, .trust]]
  | .configured, .default =>
    [[.provider], [.provider, .identity], [.provider, .identity, .defaultTrust]]
  | .default, .configured => [[.provider], [.provider, .trust]]
  | .default, .default => [[.provider], [.provider, .defaultTrust]]

def MaterialError.degraded : MaterialError → Outcome
  | .identity _ => .defaultKeyStore
  | .trust _ => .defaultTrustStore

section Attempts

variable {ι τ : Type} (platform : Platform) (sources : Sources ι τ) (config : Configuration ι τ)

/-- The calls of a resolution with this outcome, cut where one attempt ends and the next begins. -/
inductive AttemptCalls : Outcome → List Call → Prop where
  | one {engine first}
      (succeeded : attempt platform sources config .configured .configured [] =
        (.ok engine, first))
      (stop : first ∈ Half.stops .configured .configured) :
      AttemptCalls .configured first
  | two {failure engine first second}
      (failed : attempt platform sources config .configured .configured [] =
        (.error failure, first))
      (stop : first ∈ Half.stops .configured .configured)
      (succeeded : attempt platform sources config failure.identityHalf failure.trustHalf first =
        (.ok engine, first ++ second))
      (stop' : second ∈ Half.stops failure.identityHalf failure.trustHalf) :
      AttemptCalls failure.degraded (first ++ second)
  | three {failure retry first second last result outcome}
      (failed : attempt platform sources config .configured .configured [] =
        (.error failure, first))
      (stop : first ∈ Half.stops .configured .configured)
      (failed' : attempt platform sources config failure.identityHalf failure.trustHalf first =
        (.error retry, first ++ second))
      (stop' : second ∈ Half.stops failure.identityHalf failure.trustHalf)
      (ended : defaultEngine platform (first ++ second) = (result, first ++ second ++ last))
      (stop'' : last ∈ Half.stops .default .default)
      (usable : outcome = if result.isOk then .platformDefault else .unusable) :
      AttemptCalls outcome (first ++ second ++ last)

variable {platform sources config} {enabled : Except EngineError (List Version)}
  {identityHalf trustHalf : Half} {before calls : List Call}

theorem Half.identity_calls_of_found {n : Nat} {p : Provider} {i : Option Identity}
    (h : identityHalf.identity sources config n p = .ok i) :
    identityHalf.identityCalls config = if identityHalf = .configured then [.identity] else [] := by
  cases identityHalf with
  | default => rfl
  | configured =>
    obtain ⟨source, j, hs, -, -⟩ := configured_identity_ok_iff.mp h
    simp [identityCalls, hs]

theorem Course.stops {r : Except MaterialError Engine}
    (h : Course platform sources config enabled identityHalf trustHalf before (r, calls)) :
    ∃ made ∈ Half.stops identityHalf trustHalf, calls = before ++ made := by
  have provider_stop : [.provider] ∈ Half.stops identityHalf trustHalf := by
    cases identityHalf <;> cases trustHalf <;> decide
  have identity_stop : .provider :: identityHalf.identityCalls config ∈
      Half.stops identityHalf trustHalf ∨ identityHalf = .default := by
    cases identityHalf with
    | default => exact Or.inr rfl
    | configured =>
      unfold Half.identityCalls
      cases config.identity <;> cases trustHalf <;> simp [Half.stops]
  have trust_stop : ∀ {n p i}, identityHalf.identity sources config n p = .ok i →
      .provider :: (identityHalf.identityCalls config ++ trustHalf.trustCalls config) ∈
        Half.stops identityHalf trustHalf := by
    intro n p i loaded
    rw [Half.identity_calls_of_found loaded]
    unfold Half.trustCalls
    cases identityHalf <;> cases trustHalf <;> cases config.trust <;> simp [Half.stops]
  cases h with
  | noProvider => exact ⟨_, provider_stop, rfl⟩
  | unsupported => exact ⟨_, provider_stop, rfl⟩
  | identityProblem _ _ failed =>
    rcases identity_stop with hs | rfl
    · exact ⟨_, hs, rfl⟩
    · cases failed
  | trustProblem _ _ loaded => exact ⟨_, trust_stop loaded, rfl⟩
  | rejected _ _ loaded => exact ⟨_, trust_stop loaded, rfl⟩
  | built _ _ loaded => exact ⟨_, trust_stop loaded, rfl⟩

theorem first_attempt_stops {r : Except MaterialError Engine}
    (h : attempt platform sources config .configured .configured [] = (r, calls)) :
    calls ∈ Half.stops .configured .configured := by
  obtain ⟨made, stop, rfl⟩ := (attempt_course h).stops
  exact stop

theorem Course.configured_calls {engine : Engine}
    (h : Course platform sources config enabled .configured .configured before
      (.ok engine, calls)) :
    calls = before ++ [.provider, .identity, .trust] := by
  cases h with
  | built _ _ loaded trusted =>
    obtain ⟨source, j, hs, -, -⟩ := Half.configured_identity_ok_iff.mp loaded
    obtain ⟨source', ht, -⟩ := Half.configured_trust_ok_iff.mp trusted
    simp [Half.identityCalls, Half.trustCalls, hs, ht]

structure Half.StopCounts (identityHalf trustHalf : Half) (made : List Call) : Prop where
  provider : made.count .provider = 1
  identity : made.count .identity ≤ if identityHalf = .configured then 1 else 0
  trust : made.count .trust ≤ if trustHalf = .configured then 1 else 0
  defaultTrust : made.count .defaultTrust ≤ if trustHalf = .default then 1 else 0

theorem Half.stop_counts {made : List Call} (h : made ∈ stops identityHalf trustHalf) :
    StopCounts identityHalf trustHalf made := by
  have table : ∀ made ∈ stops identityHalf trustHalf, made.count .provider = 1 ∧
      made.count .identity ≤ (if identityHalf = .configured then 1 else 0) ∧
      made.count .trust ≤ (if trustHalf = .configured then 1 else 0) ∧
      made.count .defaultTrust ≤ if trustHalf = .default then 1 else 0 := by
    cases identityHalf <;> cases trustHalf <;> decide
  obtain ⟨hp, hi, ht, hd⟩ := table made h
  exact ⟨hp, hi, ht, hd⟩

namespace AttemptCalls

variable {outcome : Outcome} {failure : MaterialError} {first second : List Call}

/-- If the second attempt wants trust, the first has failed before it came to that. -/
private theorem trust_once
    (failed : attempt platform sources config .configured .configured [] = (.error failure, first))
    (stop : first ∈ Half.stops .configured .configured)
    (stop' : second ∈ Half.stops failure.identityHalf failure.trustHalf) :
    (first ++ second).count .trust ≤ 1 := by
  have h₁ := (Half.stop_counts stop).trust
  have h₂ := (Half.stop_counts stop').trust
  rw [List.count_append]
  cases failure with
  | identity e =>
    have none_yet : first.count .trust = 0 := (attempt_course failed).no_trust_call
    simp only [MaterialError.trustHalf, if_true] at h₂
    omega
  | trust e =>
    simp only [MaterialError.trustHalf, reduceCtorEq, if_false] at h₂
    simp only [if_true] at h₁
    omega

/-- A second attempt wants an identity again only if the first failed for its trust. -/
private theorem identity_twice
    (stop : first ∈ Half.stops .configured .configured)
    (stop' : second ∈ Half.stops failure.identityHalf failure.trustHalf) :
    (first ++ second).count .identity ≤ 1 ∨
      (first ++ second).count .identity = 2 ∧ ∃ e, failure = .trust e := by
  have h₁ := (Half.stop_counts stop).identity
  have h₂ := (Half.stop_counts stop').identity
  rw [List.count_append]
  simp only [if_true] at h₁
  cases failure with
  | identity e =>
    simp only [MaterialError.identityHalf, reduceCtorEq, if_false] at h₂
    omega
  | trust e =>
    simp only [MaterialError.identityHalf, if_true] at h₂
    by_cases hn : first.count .identity + second.count .identity ≤ 1
    · exact Or.inl hn
    · exact Or.inr ⟨by omega, e, rfl⟩

theorem trust_le_one (h : AttemptCalls platform sources config outcome calls) :
    calls.count .trust ≤ 1 := by
  cases h with
  | one _ stop => exact (Half.stop_counts stop).trust
  | two failed stop _ stop' => exact trust_once failed stop stop'
  | three failed stop _ stop' _ stop'' =>
    have h₁ := trust_once failed stop stop'
    have h₂ := (Half.stop_counts stop'').trust
    simp only [reduceCtorEq, if_false] at h₂
    rw [List.count_append]
    omega

theorem identity_le_two (h : AttemptCalls platform sources config outcome calls) :
    calls.count .identity ≤ 1 ∨ calls.count .identity = 2 ∧ ∃ e between,
      attempt platform sources config .configured .configured [] =
        (.error (.trust e), between) := by
  cases h with
  | one _ stop => exact Or.inl (Half.stop_counts stop).identity
  | two failed stop _ stop' =>
    rcases identity_twice stop stop' with h₁ | ⟨h₂, e, rfl⟩
    · exact Or.inl h₁
    · exact Or.inr ⟨h₂, e, _, failed⟩
  | three failed stop _ stop' _ stop'' =>
    have h₀ := (Half.stop_counts stop'').identity
    simp only [reduceCtorEq, if_false, Nat.le_zero] at h₀
    rw [List.count_append, h₀, Nat.add_zero]
    rcases identity_twice stop stop' with h₁ | ⟨h₂, e, rfl⟩
    · exact Or.inl h₁
    · exact Or.inr ⟨h₂, e, _, failed⟩

theorem default_trust_le_two (h : AttemptCalls platform sources config outcome calls) :
    calls.count .defaultTrust ≤ 2 := by
  have first_none : ∀ {made}, made ∈ Half.stops .configured .configured →
      made.count .defaultTrust = 0 :=
    fun stop => Nat.le_zero.mp (Half.stop_counts stop).defaultTrust
  have at_most_one : ∀ {i t made}, made ∈ Half.stops i t → made.count .defaultTrust ≤ 1 :=
    fun stop => Nat.le_trans (Half.stop_counts stop).defaultTrust (by split <;> decide)
  cases h with
  | one _ stop =>
    have h₁ := first_none stop
    omega
  | two _ stop _ stop' =>
    have h₁ := first_none stop
    have h₂ := at_most_one stop'
    rw [List.count_append]
    omega
  | three _ stop _ stop' _ stop'' =>
    have h₁ := first_none stop
    have h₂ := at_most_one stop'
    have h₃ := at_most_one stop''
    rw [List.count_append, List.count_append]
    omega

theorem provider_three_iff (h : AttemptCalls platform sources config outcome calls) :
    calls.count .provider = 3 ↔ outcome = .platformDefault ∨ outcome = .unusable := by
  cases h with
  | one _ stop => simp [(Half.stop_counts stop).provider]
  | @two failure _ _ _ _ stop _ stop' =>
    rw [List.count_append, (Half.stop_counts stop).provider, (Half.stop_counts stop').provider]
    cases failure <;> simp [MaterialError.degraded]
  | three _ stop _ stop' _ stop'' usable =>
    rw [List.count_append, List.count_append, (Half.stop_counts stop).provider,
      (Half.stop_counts stop').provider, (Half.stop_counts stop'').provider, usable]
    split <;> simp

theorem configured_calls (h : AttemptCalls platform sources config .configured calls) :
    calls = [.provider, .identity, .trust] := by
  generalize ho : Outcome.configured = outcome at h
  cases h with
  | one succeeded => exact (attempt_course succeeded).configured_calls
  | @two failure => cases failure <;> cases ho
  | three _ _ _ _ _ _ usable =>
    split at usable <;> subst usable <;> cases ho

/-- Default trust is asked for only where a trust problem or two failed attempts have led to it. -/
theorem no_default_trust (h : AttemptCalls platform sources config outcome calls)
    (ho : outcome = .configured ∨ outcome = .defaultKeyStore) :
    calls.count .defaultTrust = 0 := by
  cases h with
  | one _ stop => exact Nat.le_zero.mp (Half.stop_counts stop).defaultTrust
  | @two failure _ _ _ _ stop _ stop' =>
    have h₁ := (Half.stop_counts stop).defaultTrust
    have h₂ := (Half.stop_counts stop').defaultTrust
    cases failure with
    | trust e => simp [MaterialError.degraded] at ho
    | identity e =>
      simp only [MaterialError.trustHalf, reduceCtorEq, if_false] at h₁ h₂
      rw [List.count_append]
      omega
  | three _ _ _ _ _ _ usable =>
    subst usable
    split at ho <;> simp at ho

end AttemptCalls

end Attempts

theorem resolve_attempt_calls {ι τ : Type} (platform : Platform) (sources : Sources ι τ)
    (config : Configuration ι τ) :
    AttemptCalls platform sources config (resolve platform sources config).context.outcome
      (resolve platform sources config).calls := by
  have hc := resolve_cascade platform sources config
  generalize resolve platform sources config = r at hc
  cases hc with
  | configured first => exact .one first (first_attempt_stops first)
  | defaultTrustStore first second =>
    obtain ⟨again, stop', rfl⟩ := (attempt_course second).stops
    exact .two first (first_attempt_stops first) second stop'
  | defaultKeyStore first second =>
    obtain ⟨again, stop', rfl⟩ := (attempt_course second).stops
    exact .two first (first_attempt_stops first) second stop'
  | platformDefault first second last =>
    obtain ⟨again, stop', rfl⟩ := (attempt_course second).stops
    obtain ⟨more, stop'', rfl⟩ := (default_engine_course sources config last).stops
    exact .three first (first_attempt_stops first) second stop' last stop'' rfl
  | unusable first second last =>
    obtain ⟨again, stop', rfl⟩ := (attempt_course second).stops
    obtain ⟨more, stop'', rfl⟩ := (default_engine_course sources config last).stops
    exact .three first (first_attempt_stops first) second stop' last stop'' rfl

theorem calls_by_attempts {ι τ : Type} (platform : Platform) (sources : Sources ι τ)
    (config : Configuration ι τ) :
    let r := resolve platform sources config
    let outcome := r.context.outcome
    AttemptCalls platform sources config outcome r.calls ∧
    r.calls.count .trust ≤ 1 ∧
    r.calls.count .identity ≤ 2 ∧
    (r.calls.count .identity = 2 → ∃ e calls,
      attempt platform sources config .configured .configured [] = (.error (.trust e), calls)) ∧
    r.calls.count .defaultTrust ≤ 2 ∧
    (r.calls.count .provider = 3 ↔ outcome = .platformDefault ∨ outcome = .unusable) ∧
    (outcome = .configured → r.calls = [.provider, .identity, .trust]) ∧
    (outcome = .configured ∨ outcome = .defaultKeyStore → r.calls.count .defaultTrust = 0) := by
  intro r outcome
  have h : AttemptCalls platform sources config outcome r.calls :=
    resolve_attempt_calls platform sources config
  refine ⟨h, h.trust_le_one, ?_, fun twice => ?_, h.default_trust_le_two, h.provider_three_iff,
    fun ho => (ho ▸ h).configured_calls, h.no_default_trust⟩
  · rcases h.identity_le_two with h₁ | ⟨h₂, -⟩
    · omega
    · omega
  · rcases h.identity_le_two with h₁ | ⟨-, h₂⟩
    · omega
    · exact h₂

end TlsEndpoint
