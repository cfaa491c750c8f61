import TlsEndpoint.Proofs.Cascade

/-! # The record of a resolution

A record is written once, at the very end, and tells the failures that led there. Failure texts are
free, so they may themselves contain what another record says; the outcome is still told apart,
because no opening of a message begins another. -/
namespace TlsEndpoint

namespace MaterialError

def label : MaterialError → String
  | .identity _ => "identity material: "
  | .trust _ => "trust material: "

theorem message_eq (f : MaterialError) : f.message = f.label ++ f.cause := by
  cases f <;> rfl

end MaterialError

namespace Outcome

def level : Outcome → LogLevel
  | .unusable => .error
  | _ => .debug

def opening : Outcome → String
  | .configured => "Creating TLS context with the given parameters"
  | .defaultTrustStore => "Creating TLS context with default truststore: "
  | .defaultKeyStore => "Creating TLS context with default keystore: "
  | .platformDefault => "Creating TLS context with default configuration: "
  | .unusable => "Failed to create a TLS context with default configuration: "

def all : List Outcome :=
  [.configured, .defaultTrustStore, .defaultKeyStore, .platformDefault, .unusable]

theorem mem_all (o : Outcome) : o ∈ all := by
  cases o <;> decide

theorem opening_prefix_free {o o' : Outcome}
    (h : o.opening.toList.isPrefixOf o'.opening.toList = true) : o = o' := by
  have hall : ∀ o ∈ all, ∀ o' ∈ all,
      o.opening.toList.isPrefixOf o'.opening.toList = true → o = o' := by decide
  exact hall o o.mem_all o' o'.mem_all h

theorem opening_unique {o o' : Outcome} {message : List Char}
    (h : o.opening.toList <+: message) (h' : o'.opening.toList <+: message) : o = o' := by
  rcases List.prefix_or_prefix_of_prefix h h' with h | h
  · exact opening_prefix_free (List.isPrefixOf_iff_prefix.mpr h)
  · exact (opening_prefix_free (List.isPrefixOf_iff_prefix.mpr h)).symm

end Outcome

namespace LogRecord

/-- Read off a record: the outcome that has its level and the opening of its message. -/
def outcome? (r : LogRecord) : Option Outcome :=
  Outcome.all.find? fun o => o.level == r.level && o.opening.toList.isPrefixOf r.message.toList

/-- Nothing that follows the opening can be mistaken for another outcome. -/
theorem outcome_of_opening (o : Outcome) (text : String) :
    outcome? ⟨o.level, o.opening ++ text⟩ = some o := by
  have hp : o.opening.toList <+: (o.opening ++ text).toList := by
    rw [String.toList_append]
    exact List.prefix_append _ _
  cases hf : outcome? ⟨o.level, o.opening ++ text⟩ with
  | none =>
    have hn := List.find?_eq_none.mp hf o o.mem_all
    simp at hn
  | some x =>
    have hx := List.find?_some hf
    rw [Bool.and_eq_true] at hx
    rw [Outcome.opening_unique (List.isPrefixOf_iff_prefix.mp hx.2) hp]

end LogRecord

section Resolution

variable {ι τ : Type} (platform : Platform) (sources : Sources ι τ) (config : Configuration ι τ)

/-- The first attempt fails with `f`, and the second one, which follows from `f`, with `r`. -/
def BothFail (f r : MaterialError) (calls : List Call) : Prop :=
  ∃ between,
    attempt platform sources config .configured .configured [] = (.error f, between) ∧
    attempt platform sources config f.identityHalf f.trustHalf between = (.error r, calls)

/-- The record gives the failures that led to this outcome. -/
def Faithful (record : LogRecord) : Outcome → Prop
  | .configured => record = ⟨.debug, "Creating TLS context with the given parameters"⟩
  | .defaultTrustStore => ∃ c calls,
      attempt platform sources config .configured .configured [] = (.error (.trust c), calls) ∧
      record = ⟨.debug, "Creating TLS context with default truststore: " ++ c.message⟩
  | .defaultKeyStore => ∃ c calls,
      attempt platform sources config .configured .configured [] = (.error (.identity c), calls) ∧
      record = ⟨.debug, "Creating TLS context with default keystore: " ++ c.message⟩
  | .platformDefault => ∃ f r calls, BothFail platform sources config f r calls ∧
      (∀ c, f = .identity c → ∃ e, r = .trust e) ∧
      record = ⟨.debug, "Creating TLS context with default configuration: " ++
        (f.cause ++ "; then " ++ (r.label ++ r.cause))⟩
  | .unusable => ∃ f r calls e late, BothFail platform sources config f r calls ∧
      (∀ c, f = .identity c → ∃ e, r = .trust e) ∧
      defaultEngine platform calls = (.error e, late) ∧
      record = ⟨.error, "Failed to create a TLS context with default configuration: " ++ e.message⟩

variable {platform sources config}

/-- After a problem of identity there is no identity left to have a problem with. -/
theorem BothFail.trust_error {f r : MaterialError} {calls : List Call}
    (h : BothFail platform sources config f r calls) (c : IdentityError) (hf : f = .identity c) :
    ∃ e, r = .trust e := by
  obtain ⟨between, -, second⟩ := h
  subst hf
  exact (attempt_course second).trust_error_of_default

variable (platform sources config)

theorem one_faithful_record :
    ∃ record, (resolve platform sources config).records = [record] ∧
      Faithful platform sources config record (resolve platform sources config).context.outcome ∧
      record.outcome? = some (resolve platform sources config).context.outcome := by
  have hc := resolve_cascade platform sources config
  generalize resolve platform sources config = r at hc
  cases hc with
  | configured first =>
    refine ⟨_, rfl, rfl, ?_⟩
    have h := LogRecord.outcome_of_opening .configured ""
    rwa [String.append_empty] at h
  | defaultTrustStore first second =>
    exact ⟨_, rfl, ⟨_, _, first, rfl⟩, LogRecord.outcome_of_opening .defaultTrustStore _⟩
  | defaultKeyStore first second =>
    exact ⟨_, rfl, ⟨_, _, first, rfl⟩, LogRecord.outcome_of_opening .defaultKeyStore _⟩
  | platformDefault first second last =>
    have hb : BothFail platform sources config _ _ _ := ⟨_, first, second⟩
    refine ⟨_, rfl, ⟨_, _, _, hb, hb.trust_error, ?_⟩,
      LogRecord.outcome_of_opening .platformDefault _⟩
    rw [← MaterialError.message_eq]
    rfl
  | unusable first second last =>
    have hb : BothFail platform sources config _ _ _ := ⟨_, first, second⟩
    exact ⟨_, rfl, ⟨_, _, _, _, _, hb, hb.trust_error, last, rfl⟩,
      LogRecord.outcome_of_opening .unusable _⟩

end Resolution

end TlsEndpoint
