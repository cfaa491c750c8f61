import Mathlib.Data.List.Forall2
import TlsEndpoint.Proofs.Cascade
import TlsEndpoint.Proofs.Record

/-! # What a protocol name decides

A name decides which versions are enabled, up to the case of its ASCII letters, and nothing else. A
name that enables none is met before any source is asked, in both attempts, and the last step does
not look at it. -/
namespace TlsEndpoint

/-- Code points, so that no other case folding can creep in. -/
def SameLetter (a b : Char) : Prop :=
  a = b ∨ (65 ≤ a.toNat ∧ a.toNat ≤ 90 ∧ b.toNat = a.toNat + 32) ∨
    (65 ≤ b.toNat ∧ b.toNat ≤ 90 ∧ a.toNat = b.toNat + 32)

def EqualUpToCase (s t : String) : Prop := List.Forall₂ SameLetter s.toList t.toList

theorem to_upper_to_nat (c : Char) :
    c.toUpper.toNat = if 97 ≤ c.toNat ∧ c.toNat ≤ 122 then c.toNat - 32 else c.toNat := by
  have small : 'a'.val ≤ c.val ∧ c.val ≤ 'z'.val ↔ 97 ≤ c.toNat ∧ c.toNat ≤ 122 := Iff.rfl
  unfold Char.toUpper
  by_cases h : 97 ≤ c.toNat ∧ c.toNat ≤ 122
  · rw [dif_pos (small.mpr h), if_pos h]
    have down : ('A'.val - 'a'.val).toNat = 2 ^ 32 - 32 := rfl
    change 97 ≤ c.val.toNat ∧ c.val.toNat ≤ 122 at h
    show (c.val + ('A'.val - 'a'.val)).toNat = c.val.toNat - 32
    rw [UInt32.toNat_add, down]
    omega
  · rw [dif_neg (mt small.mp h), if_neg h]

theorem to_upper_eq_iff {a b : Char} : a.toUpper = b.toUpper ↔ SameLetter a b := by
  rw [← Char.toNat_inj, to_upper_to_nat, to_upper_to_nat, SameLetter, ← Char.toNat_inj]
  split <;> split <;> omega

namespace Protocol

theorem same_letters_iff {s t : String} : sameLetters s t = true ↔ EqualUpToCase s t := by
  rw [sameLetters, beq_iff_eq, EqualUpToCase, ← List.forall₂_eq_eq_eq,
    List.forall₂_map_left_iff, List.forall₂_map_right_iff]
  simp only [to_upper_eq_iff]

theorem versions_ok_iff {p : Protocol} :
    (∃ vs, p.versions = .ok vs) ↔ ∃ e ∈ recognised, EqualUpToCase e.1 p.name := by
  unfold versions
  cases found : recognised.find? fun e => sameLetters e.1 p.name with
  | none =>
    refine iff_of_false nofun ?_
    rintro ⟨e, he, same⟩
    exact List.find?_eq_none.mp found e he (same_letters_iff.mpr same)
  | some e =>
    have same := List.find?_some found
    exact iff_of_true ⟨_, rfl⟩ ⟨e, List.mem_of_find?_eq_some found, same_letters_iff.mp same⟩

-- The long s has an ASCII letter as its capital, but is none.
example : (Protocol.mk "TL\u017f").versions = .error (.unsupportedProtocol "TL\u017f") := by decide

theorem versions_error {p : Protocol} (h : ∀ vs, p.versions ≠ .ok vs) :
    p.versions = .error (.unsupportedProtocol p.name) := by
  unfold versions at h ⊢
  split
  · next e found =>
    rw [found] at h
    exact absurd rfl (h e.2)
  · rfl

end Protocol

section SameVersions

variable {ι τ : Type} {platform : Platform} {sources : Sources ι τ} {config : Configuration ι τ}
  {p q : Protocol} {vs : List Version}

theorem attempt_same_versions (hp : p.versions = .ok vs) (hq : q.versions = .ok vs)
    (identityHalf trustHalf : Half) (calls : List Call) :
    attempt platform sources { config with protocol := p } identityHalf trustHalf calls =
      attempt platform sources { config with protocol := q } identityHalf trustHalf calls := by
  unfold attempt
  simp only [hp, hq]
  rfl

theorem resolve_same_versions (hp : p.versions = .ok vs) (hq : q.versions = .ok vs) :
    resolve platform sources { config with protocol := p } =
      resolve platform sources { config with protocol := q } := by
  unfold resolve
  simp only [attempt_same_versions hp hq]

end SameVersions

section Unsupported

variable {ι τ : Type} {platform : Platform} {sources : Sources ι τ} {config : Configuration ι τ}

/-- What an attempt objects to whose name enables nothing, at its provider call of this number. -/
def Platform.objection (platform : Platform) (n : Nat) (name : String) : EngineError :=
  match platform.provider n with
  | none => .noCryptoProvider
  | some _ => .unsupportedProtocol name

theorem attempt_unsupported (h : ∀ vs, config.protocol.versions ≠ .ok vs)
    (identityHalf trustHalf : Half) (calls : List Call) :
    attempt platform sources config identityHalf trustHalf calls =
      (.error (.trust (.engine (platform.objection (calls.count .provider) config.protocol.name))),
        calls ++ [.provider]) := by
  have course : Course platform sources config config.protocol.versions identityHalf trustHalf calls
      (attempt platform sources config identityHalf trustHalf calls) := attempt_course rfl
  generalize attempt platform sources config identityHalf trustHalf calls = s at course ⊢
  cases course with
  | noProvider absent => rw [Platform.objection, absent]
  | unsupported present unknown =>
    rw [Protocol.versions_error h] at unknown
    cases unknown
    rw [Platform.objection, present]
  | identityProblem _ supported => exact absurd supported (h _)
  | trustProblem _ supported => exact absurd supported (h _)
  | rejected _ supported => exact absurd supported (h _)
  | built _ supported => exact absurd supported (h _)

/-- Both attempts are spent on provider calls, and the last step begins with the third. -/
theorem resolve_unsupported (h : ∀ vs, config.protocol.versions ≠ .ok vs) :
    resolve platform sources config =
      Resolution.platformDefault platform
        (Resolution.reason (platform.objection 0 config.protocol.name).message
          (.trust (.engine (platform.objection 1 config.protocol.name))))
        [.provider, .provider] := by
  unfold resolve
  simp only [attempt_unsupported h]
  rfl

def Platform.ServesDefaults (platform : Platform) (calls : List Call) : Prop :=
  ∃ p a, platform.provider (calls.count .provider) = some p ∧
    platform.defaultTrust (calls.count .defaultTrust) = .ok a ∧
    p.hasSuiteOf Version.defaults = true ∧ p.groups ≠ [] ∧ a ≠ []

inductive LastStep (platform : Platform) (reason : String) (calls : List Call) :
    Resolution → Prop where
  | served {engine} (serves : platform.ServesDefaults calls) :
      LastStep platform reason calls (.succeed engine .platformDefault
        (Resolution.platformDefaultMessage reason) (calls ++ [.provider, .defaultTrust]))
  | refused {e more} (lacks : ¬ platform.ServesDefaults calls)
      (made : more = [.provider] ∨ more = [.provider, .defaultTrust]) :
      LastStep platform reason calls
        ⟨Context.unusable, [⟨.error, Resolution.unusableMessage e⟩], calls ++ more⟩

theorem last_step (platform : Platform) (reason : String) (calls : List Call) :
    LastStep platform reason calls (Resolution.platformDefault platform reason calls) := by
  unfold Resolution.platformDefault
  rcases last : defaultEngine platform calls with ⟨e | engine, late⟩
  · have lacks : ∀ {p a x}, platform.provider (calls.count .provider) = some p →
        platform.defaultTrust (calls.count .defaultTrust) = .ok a →
        Engine.objection? p Version.defaults a = some x → ¬ platform.ServesDefaults calls := by
      rintro p a x hp ha hx ⟨q, b, hq, hb, fit⟩
      rw [hp] at hq
      rw [ha] at hb
      cases hq
      cases hb
      rw [Engine.objection_none_iff.mpr fit] at hx
      cases hx
    cases default_engine_course_alone last with
    | noProvider absent =>
      refine .refused ?_ (Or.inl rfl)
      rintro ⟨q, b, hq, -⟩
      rw [absent] at hq
      cases hq
    | unsupported _ unknown => cases unknown
    | trustProblem _ _ _ failed =>
      refine .refused ?_ (Or.inr rfl)
      rintro ⟨q, b, -, hb, -⟩
      cases hb.symm.trans failed
    | rejected present supported _ trusted objected =>
      cases supported
      exact .refused (lacks present trusted objected) (Or.inr rfl)
  · have built := default_engine_course_alone last
    change Course _ _ _ _ _ _ _ (.ok engine, late) at built
    cases built with
    | built present supported _ trusted accepted =>
      cases supported
      exact .served ⟨_, _, present, trusted, Engine.objection_none_iff.mp accepted⟩

namespace LastStep

variable {reason : String} {calls : List Call} {r : Resolution}

theorem calls_eq (h : LastStep platform reason calls r) :
    r.calls = calls ++ [.provider] ∨ r.calls = calls ++ [.provider, .defaultTrust] := by
  cases h with
  | served => exact Or.inr rfl
  | refused _ made => exact made.imp (congrArg _) (congrArg _)

theorem outcome_cases (h : LastStep platform reason calls r) :
    r.context.outcome = .platformDefault ∨ r.context.outcome = .unusable := by
  cases h with
  | served => exact Or.inl rfl
  | refused => exact Or.inr rfl

theorem platform_default_iff (h : LastStep platform reason calls r) :
    r.context.outcome = .platformDefault ↔ platform.ServesDefaults calls := by
  cases h with
  | served serves => exact iff_of_true rfl serves
  | refused lacks => exact iff_of_false nofun lacks

theorem records_eq (h : LastStep platform reason calls r)
    (usable : r.context.outcome = .platformDefault) :
    r.records = [⟨.debug, Resolution.platformDefaultMessage reason⟩] := by
  cases h with
  | served => rfl
  | refused => cases usable

end LastStep

end Unsupported

/-- The third provider call of a resolution is its last, and no default trust is asked for before
it, where the name enables nothing. -/
theorem protocol_name_decides_versions_only {ι τ : Type} (platform : Platform)
    (sources : Sources ι τ) (config : Configuration ι τ) :
    (∀ p : Protocol,
      ((∃ vs, p.versions = .ok vs) ↔
        ∃ name ∈ ["TLS", "SSL", "Default", "TLSv1.2", "TLS1.2", "TLSv1.3", "TLS1.3"],
          EqualUpToCase name p.name) ∧
      ((∀ vs, p.versions ≠ .ok vs) → p.versions = .error (.unsupportedProtocol p.name))) ∧
    (∀ p q vs, p.versions = .ok vs → q.versions = .ok vs →
      resolve platform sources { config with protocol := p } =
        resolve platform sources { config with protocol := q }) ∧
    ∀ p : Protocol, (∀ vs, p.versions ≠ .ok vs) →
      let r := resolve platform sources { config with protocol := p }
      Call.identity ∉ r.calls ∧ Call.trust ∉ r.calls ∧
      r.calls.count .provider = 3 ∧ r.calls.count .defaultTrust ≤ 1 ∧
      (r.context.outcome = .platformDefault ∨ r.context.outcome = .unusable) ∧
      (r.context.outcome = .platformDefault ↔
        ∃ provider anchors, platform.provider 2 = some provider ∧
          platform.defaultTrust 0 = .ok anchors ∧
          provider.hasSuiteOf Version.defaults = true ∧ provider.groups ≠ [] ∧ anchors ≠ []) ∧
      ∀ provider, platform.provider 0 = some provider → r.context.outcome = .platformDefault →
        ∃ rest, r.records = [⟨.debug, "Creating TLS context with default configuration: " ++
          ("unsupported TLS protocol " ++ Text.quoted p.name ++ rest)⟩] := by
  refine ⟨fun p => ⟨?_, Protocol.versions_error⟩, fun p q vs => resolve_same_versions, ?_⟩
  · rw [Protocol.versions_ok_iff]
    simp only [Protocol.recognised, List.mem_cons, List.not_mem_nil, or_false, exists_eq_or_imp,
      exists_eq_left]
  · intro p unknown r
    have step := last_step platform
      (Resolution.reason (platform.objection 0 p.name).message
        (.trust (.engine (platform.objection 1 p.name)))) [.provider, .provider]
    have resolved : r = Resolution.platformDefault platform _ _ := resolve_unsupported unknown
    rw [← resolved] at step
    clear_value r
    have made : Call.identity ∉ r.calls ∧ Call.trust ∉ r.calls ∧
        r.calls.count .provider = 3 ∧ r.calls.count .defaultTrust ≤ 1 := by
      rcases step.calls_eq with calls | calls <;> rw [calls] <;> decide
    refine ⟨made.1, made.2.1, made.2.2.1, made.2.2.2, step.outcome_cases,
      step.platform_default_iff, ?_⟩
    intro provider present usable
    refine ⟨"; then " ++ (MaterialError.trust (.engine (platform.objection 1 p.name))).message, ?_⟩
    rw [step.records_eq usable, Platform.objection, present, Resolution.reason, String.append_assoc]
    rfl

theorem retired_name_quoted :
    let platform : Platform := ⟨fun _ => some .default, fun _ => .ok [⟨[1], [2], none⟩]⟩
    let sources : Sources Identity Anchors := ⟨fun i _ _ => .ok i, fun a _ => .ok a⟩
    let config : Configuration Identity Anchors :=
      ⟨⟨"SSLv3"⟩, some ⟨[], ⟨.ed25519 [], false⟩⟩, some []⟩
    let r := resolve platform sources config
    r.context.outcome = .platformDefault ∧ Call.identity ∉ r.calls ∧ Call.trust ∉ r.calls ∧
      ∃ rest, r.records = [⟨.debug, "Creating TLS context with default configuration: " ++
        ("unsupported TLS protocol " ++ Text.quoted "SSLv3" ++ rest)⟩] := by
  intro platform sources config r
  have unknown : ∀ vs, (Protocol.mk "SSLv3").versions ≠ .ok vs := by
    have failed : (Protocol.mk "SSLv3").versions = .error (.unsupportedProtocol "SSLv3") := by
      decide
    rw [failed]
    exact nofun
  obtain ⟨identity, trust, -, -, -, served, quoted⟩ :=
    (protocol_name_decides_versions_only platform sources config).2.2 ⟨"SSLv3"⟩ unknown
  have outcome := served.mpr ⟨.default, _, rfl, rfl, by decide, by decide, List.cons_ne_nil _ _⟩
  exact ⟨outcome, identity, trust, quoted .default rfl outcome⟩

end TlsEndpoint
