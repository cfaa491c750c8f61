import TlsEndpoint.Proofs.Attempt

/-! # The course of a resolution

One to three attempts, and the first failure alone decides what the second attempt takes from where.
`Cascade` lists the five ends with the attempts that led there. The positions of calls are told by
what was called before, because that fixes the number of the answer. -/
namespace TlsEndpoint

namespace MaterialError

def identityHalf : MaterialError → Half
  | .identity _ => .default
  | .trust _ => .configured

def trustHalf : MaterialError → Half
  | .identity _ => .configured
  | .trust _ => .default

/-- The text of the failure without the name of the half that failed. -/
def cause : MaterialError → String
  | .identity e => e.message
  | .trust e => e.message

end MaterialError

section Cascade

variable {ι τ : Type} (platform : Platform) (sources : Sources ι τ) (config : Configuration ι τ)

inductive Cascade : Resolution → Prop where
  | configured {engine calls}
      (first : attempt platform sources config .configured .configured [] = (.ok engine, calls)) :
      Cascade (.succeed engine .configured Resolution.configuredMessage calls)
  | defaultTrustStore {e between engine calls}
      (first : attempt platform sources config .configured .configured [] =
        (.error (.trust e), between))
      (second : attempt platform sources config .configured .default between =
        (.ok engine, calls)) :
      Cascade (.succeed engine .defaultTrustStore (Resolution.defaultTrustStoreMessage e) calls)
  | defaultKeyStore {e between engine calls}
      (first : attempt platform sources config .configured .configured [] =
        (.error (.identity e), between))
      (second : attempt platform sources config .default .configured between =
        (.ok engine, calls)) :
      Cascade (.succeed engine .defaultKeyStore (Resolution.defaultKeyStoreMessage e) calls)
  | platformDefault {failure retry between late engine calls}
      (first : attempt platform sources config .configured .configured [] =
        (.error failure, between))
      (second : attempt platform sources config failure.identityHalf failure.trustHalf between =
        (.error retry, late))
      (last : defaultEngine platform late = (.ok engine, calls)) :
      Cascade (.succeed engine .platformDefault
        (Resolution.platformDefaultMessage (Resolution.reason failure.cause retry)) calls)
  | unusable {failure retry between late e calls}
      (first : attempt platform sources config .configured .configured [] =
        (.error failure, between))
      (second : attempt platform sources config failure.identityHalf failure.trustHalf between =
        (.error retry, late))
      (last : defaultEngine platform late = (.error e, calls)) :
      Cascade ⟨Context.unusable, [⟨.error, Resolution.unusableMessage e⟩], calls⟩

variable {platform sources config}

private theorem platform_default_cascade {failure retry : MaterialError}
    {between late : List Call}
    (first : attempt platform sources config .configured .configured [] =
      (.error failure, between))
    (second : attempt platform sources config failure.identityHalf failure.trustHalf between =
      (.error retry, late)) :
    Cascade platform sources config
      (Resolution.platformDefault platform (Resolution.reason failure.cause retry) late) := by
  unfold Resolution.platformDefault
  rcases last : defaultEngine platform late with ⟨e | engine, calls⟩
  · dsimp only
    exact .unusable first second last
  · dsimp only
    exact .platformDefault first second last

theorem resolve_of_failures {failure retry : MaterialError} {between late : List Call}
    (first : attempt platform sources config .configured .configured [] = (.error failure, between))
    (second : attempt platform sources config failure.identityHalf failure.trustHalf between =
      (.error retry, late)) :
    resolve platform sources config =
      Resolution.platformDefault platform (Resolution.reason failure.cause retry) late := by
  unfold resolve
  rw [first]
  cases failure with
  | identity e =>
    dsimp only [MaterialError.identityHalf, MaterialError.trustHalf] at second ⊢
    rw [second]
    rfl
  | trust e =>
    dsimp only [MaterialError.identityHalf, MaterialError.trustHalf] at second ⊢
    rw [second]
    rfl

variable (platform sources config)

theorem resolve_cascade : Cascade platform sources config (resolve platform sources config) := by
  unfold resolve
  rcases first : attempt platform sources config .configured .configured [] with
    ⟨(e | e) | engine, between⟩
  · dsimp only
    rcases second : attempt platform sources config .default .configured between with
      ⟨retry | engine, calls⟩
    · have h := platform_default_cascade first second
      exact h
    · exact .defaultKeyStore first second
  · dsimp only
    rcases second : attempt platform sources config .configured .default between with
      ⟨retry | engine, calls⟩
    · have h := platform_default_cascade first second
      exact h
    · exact .defaultTrustStore first second
  · exact .configured first

variable {platform sources config}

theorem Cascade.usable {r : Resolution} (h : Cascade platform sources config r)
    (ho : r.context.outcome ≠ .unusable) : r.context.isUsable = true := by
  cases h with
  | unusable => exact absurd rfl ho
  | _ => rfl

end Cascade

/-- The call is made, with these calls before it. -/
def Made (calls before : List Call) (c : Call) : Prop := ∃ after, calls = before ++ c :: after

/-- The call is made with these calls before it, and is not made again. -/
def LastMade (calls before : List Call) (c : Call) : Prop :=
  ∃ after, calls = before ++ c :: after ∧ c ∉ after

theorem LastMade.made {calls before : List Call} {c : Call} (h : LastMade calls before c) :
    Made calls before c := by
  obtain ⟨after, h, _⟩ := h
  exact ⟨after, h⟩

theorem LastMade.count_pos {calls before : List Call} {c : Call} (h : LastMade calls before c) :
    0 < calls.count c := by
  obtain ⟨after, rfl, _⟩ := h
  exact List.count_pos_iff.mpr (by simp)

theorem Made.later {calls before more : List Call} {c : Call} (h : Made calls before c) :
    Made (calls ++ more) before c := by
  obtain ⟨after, rfl⟩ := h
  exact ⟨after ++ more, by simp⟩

section Course

variable {ι τ : Type} {platform : Platform} {sources : Sources ι τ} {config : Configuration ι τ}
  {enabled : Except EngineError (List Version)} {identityHalf trustHalf : Half}
  {before calls : List Call}

theorem Half.calls_nodup (config : Configuration ι τ) (identityHalf trustHalf : Half) :
    (.provider :: (identityHalf.identityCalls config ++ trustHalf.trustCalls config)).Nodup := by
  unfold Half.identityCalls Half.trustCalls
  split <;> split <;> decide

theorem Half.configured_trust_last_made {source : τ} (hs : config.trust = some source)
    (identityHalf : Half) (before : List Call) :
    LastMade
      (before ++ .provider :: (identityHalf.identityCalls config ++ configured.trustCalls config))
      (before ++ .provider :: identityHalf.identityCalls config) .trust := by
  refine ⟨[], ?_, List.not_mem_nil⟩
  simp [trustCalls, hs]

theorem Half.default_trust_last_made (config : Configuration ι τ) (identityHalf : Half)
    (before : List Call) :
    LastMade
      (before ++ .provider :: (identityHalf.identityCalls config ++ default.trustCalls config))
      (before ++ .provider :: identityHalf.identityCalls config) .defaultTrust := by
  refine ⟨[], ?_, List.not_mem_nil⟩
  simp [trustCalls]

theorem Course.calls_added {r : Except MaterialError Engine}
    (h : Course platform sources config enabled identityHalf trustHalf before (r, calls)) :
    ∃ made, calls = before ++ made ∧
      made <+: .provider :: (identityHalf.identityCalls config ++ trustHalf.trustCalls config) := by
  cases h with
  | noProvider => exact ⟨_, rfl, ⟨_, rfl⟩⟩
  | unsupported => exact ⟨_, rfl, ⟨_, rfl⟩⟩
  | identityProblem => exact ⟨_, rfl, ⟨_, rfl⟩⟩
  | trustProblem => exact ⟨_, rfl, List.prefix_rfl⟩
  | rejected => exact ⟨_, rfl, List.prefix_rfl⟩
  | built => exact ⟨_, rfl, List.prefix_rfl⟩

theorem Course.count_le {r : Except MaterialError Engine}
    (h : Course platform sources config enabled identityHalf trustHalf before (r, calls))
    (c : Call) : calls.count c ≤ before.count c + 1 := by
  obtain ⟨made, rfl, hm⟩ := h.calls_added
  have h₁ := hm.sublist.count_le c
  have h₂ := List.nodup_iff_count.mp (Half.calls_nodup config identityHalf trustHalf) c
  rw [List.count_append]
  omega

theorem Course.supported {engine : Engine}
    (h : Course platform sources config enabled identityHalf trustHalf before (.ok engine, calls)) :
    ∃ vs, enabled = .ok vs := by
  cases h with
  | built _ supported => exact ⟨_, supported⟩

/-- Doing without an identity is never a problem of identity. -/
theorem Course.trust_error_of_default {f : MaterialError}
    (h : Course platform sources config enabled .default trustHalf before (.error f, calls)) :
    ∃ e, f = .trust e := by
  cases h with
  | identityProblem _ _ failed => cases failed
  | noProvider => exact ⟨_, rfl⟩
  | unsupported => exact ⟨_, rfl⟩
  | trustProblem => exact ⟨_, rfl⟩
  | rejected => exact ⟨_, rfl⟩

end Course

end TlsEndpoint
